import CharacterLedger.Ledger.Plan
import CharacterLedger.Storage.Errand

/-!
# Calls

What can be asked for, an intent or something of the ledger, the records or the pool directly, and
what comes back.
-/

namespace CharacterLedger.Ledger

open CharacterLedger.Dice CharacterLedger.Storage CharacterLedger.Table

/-- What can be asked for. -/
inductive Call where
  | execute (o : Order)
  | rating (channel user name : Value)
  | borrow (e : Errand)
  | openPool
  | closePool
  /-- To hold the lock of a character until told to give it back. -/
  | holdLock (channel user : Value)

/-- The context that a call is logged with, which is a command that can be written. -/
def Call.context? : Call → Option String
  | execute o => o.context?
  | rating .. | borrow _ | openPool | closePool | holdLock .. => none

/-- What a call comes back with. -/
inductive Reply where
  | done
  | outcome (o : Outcome)
  | rating (r : Rating)
  | adjusted (rating : Value)
  | character (c : Character)
  | count (n : Nat)
  | shape (version : Int) (columns : List String)
  | rows (rows : List Row)

end CharacterLedger.Ledger
