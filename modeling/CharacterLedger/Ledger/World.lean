import CharacterLedger.Dice.Outcome
import CharacterLedger.Ledger.KeyLocks
import CharacterLedger.Storage.Store
import CharacterLedger.Log

/-!
# The world

What tasks share: the store, the locks of the characters, the dice, and the log.
-/

namespace CharacterLedger.Ledger

open CharacterLedger.Dice CharacterLedger.Storage

/-- What tasks share. The log holds what was noted since it was last read. -/
structure World where
  store : Store
  locks : KeyLocks
  entropy : Entropy
  log : List Log.Entry
  /-- How many trace numbers have been given out. -/
  traced : Nat

namespace World

/-- The world with notes made under a trace number. -/
def record (w : World) (trace : Option Nat) (notes : List Log.Note) : World :=
  { w with log := w.log ++ notes.map fun n => ⟨trace, n⟩ }

/-- The world with another store. -/
def withStore (w : World) (s : Store) : World := { w with store := s }

/-- The world with other locks. -/
def withLocks (w : World) (l : KeyLocks) : World := { w with locks := l }

end World

end CharacterLedger.Ledger
