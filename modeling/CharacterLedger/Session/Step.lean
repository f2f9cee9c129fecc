import CharacterLedger.Ledger.Call

/-!
# Steps of a session

A step is a call, several calls at once, or something that happens around the ledger: another
program holds the file, its directory is moved away, all connections are taken, the lock of a
character is held while another step is carried out.
-/

namespace CharacterLedger

open CharacterLedger.Ledger CharacterLedger.Table

namespace Session

/-- A call of which it may turn out before it begins that it cannot be made. -/
abbrev Request := Except Error Call

/-- A request to save the record that the fields describe. -/
def saveRequest (fields : Fields) : Request :=
  match Character.ofFields fields with
  | .ok c => .ok (.borrow (.save c))
  | .error issues => .error (.invalid .character issues)

/-- What can be done in a session. -/
inductive Step where
  | request (r : Request)
  | gather (steps : List Step)
  | hold (channel user : Value) (step : Step)
  | starve (step : Step)
  | info
  | isOpen
  | openPool (times : Nat)
  | closePool
  | reopen
  | hide
  | restore
  | lock (hold : Hold)
  | unlock

instance : Inhabited Step := ⟨.info⟩

/-- What a step comes back with. -/
inductive Answer where
  | nothing
  | flag (b : Bool)
  | reply (r : Reply)
  | info (isOpen : Bool) (size : Int) (locks : Nat) (version : Int) (columns : List String)
  | all (answers : List (Except Error Answer))
  | held (blocked : Bool) (locks : Nat) (answer : Except Error Answer)
  /-- What came of a step for which all connections were taken. -/
  | starved (answer : Except Error Answer)

instance : Inhabited Answer := ⟨.nothing⟩

end Session

end CharacterLedger
