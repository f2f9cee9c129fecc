import CharacterLedger.Dice.Outcome
import CharacterLedger.Issue
import CharacterLedger.Table.Fault
import CharacterLedger.Value.Display

/-!
# Errors of the ledger

Everything that a command can fail with. Three kinds are the ledger's own and have a short key for
the reply: unknown names, bad pools, and failures of the store, which keep their cause. The others
are mistakes of the caller that nothing in the ledger answers for.
-/

namespace CharacterLedger

open CharacterLedger.Dice CharacterLedger.Table

/-- How the store failed. -/
inductive StorageFailure where
  | timeout
  | failed (cause : Fault)
  | corrupt (issues : List Issue)
deriving DecidableEq, Repr

/-- The key of a failure. -/
def StorageFailure.key : StorageFailure → String
  | timeout => "storage_timeout"
  | failed _ => "storage_error"
  | corrupt _ => "storage_corrupt_record"

/-- An error. -/
inductive Error where
  | unknownName (given : Value)
  | badPool (b : BadPool)
  | storage (f : StorageFailure)
  | invalid (form : Form) (issues : List Issue)
  | fault (f : Fault)
  | mismatch (m : Mismatch)
  /-- An integer cannot be written. -/
  | tooManyDigits
  | unknownLevel (name : String)
  | unreadableGroup (group source : String)
  | exhausted

namespace Error

/-- The key for the reply, which only the ledger's own errors have. -/
def key? : Error → Option String
  | unknownName _ => some "unknown_attribute"
  | badPool b => some b.defect.key
  | storage f => some f.key
  | _ => none

/-- Stands in logs for the text of a report of issues, which is long and not fixed. -/
def issuesText : String := "<ValidationError>"

/-- The report of an error that shows no value; an unknown name stands there by its key. -/
def summary : Error → String
  | unknownName _ => "unknown_attribute"
  | badPool b => b.defect.key
  | storage f => f.key
  | invalid .. => issuesText
  | fault f => f.message
  | mismatch m => m.message
  | tooManyDigits =>
    "Exceeds the limit (" ++ toString Number.mostDigits ++
      " digits) for integer string conversion; use sys.set_int_max_str_digits() to increase the limit"
  | unknownLevel name => "Unknown level: " ++ Text.quoted name
  | unreadableGroup group source =>
    "error parsing value for field \"" ++ group ++ "\" from source \"" ++ source ++ "\""
  | exhausted => "script exhausted"

/-- The report of an error, unless it shows a value that cannot be written. -/
def message? : Error → Option String
  | unknownName given => given.inspect?.map ("unknown_attribute: " ++ ·)
  | e => some e.summary

/-- The error of a roll. -/
def ofRoll : RollError → Error
  | .badPool b => badPool b
  | .mismatch m => mismatch m
  | .exhausted => exhausted

end Error

/-! ### The families of the ledger's own errors -/

/-- A family of the ledger's own errors. -/
inductive Family where
  | general
  | unknownName
  | storage
  | badPool
deriving DecidableEq, Repr

/-- The key of a family. -/
def Family.defaultKey : Family → String
  | general | badPool => "scum_bot_error"
  | unknownName => "unknown_attribute"
  | storage => "storage_error"

/-- An error of a family: its key, and the rejected name of an unknown one. -/
structure Complaint where
  family : Family
  key : Value
  name : Value

/-- What makes the errors of a family: its name, and the names of the arguments that have to be
given and of those that need not. -/
def Family.maker : Family → String × List String × List String
  | general | storage => ("ScumBotError", [], ["key"])
  | unknownName => ("UnknownAttribute", ["name"], [])
  | badPool => ("InvalidDicePool", ["key", "dice"], [])

/-- What is wrong with a number of arguments for an error of the family. The error counts as an
argument of its own. -/
def Family.countMismatch? (family : Family) (count : Nat) : Option Mismatch :=
  let (owner, needed, others) := family.maker
  let most := needed.length + others.length
  if most < count then
    some (.tooManyArguments owner (needed.length + 1) (most + 1) (count + 1))
  else if count < needed.length then some (.missingArguments owner (needed.drop count))
  else none

namespace Complaint

/-- The error of a family that is made from its first argument. An unknown name is made from the
name; the others from a key, for which null stands for the key of the family. -/
def ofArgument (family : Family) (given : Value) : Complaint :=
  match family, given with
  | .unknownName, name => ⟨family, .text family.defaultKey, name⟩
  | _, .null => ⟨family, .text family.defaultKey, .null⟩
  | _, key => ⟨family, key, .null⟩

/-- The error of a family that is made from arguments. -/
def make (family : Family) (arguments : List Value) : Except Mismatch Complaint :=
  match family.countMismatch? arguments.length with
  | some m => .error m
  | none => .ok (ofArgument family (arguments.headD .null))

/-- The report of an error, unless it shows a value that cannot be written. -/
def message? (c : Complaint) : Option String :=
  match c.family with
  | .unknownName => do return (← c.key.display?) ++ ": " ++ (← c.name.inspect?)
  | .general | .storage | .badPool => c.key.display?

end Complaint

end CharacterLedger
