import CharacterLedger.Value.Display
import CharacterLedger.Value.Order

/-!
# The log

Entries of the log say where they come from and on behalf of which command: every command runs
under a trace number of its own. How long something took is written as a `#`, since no clock is
kept here.
-/

namespace CharacterLedger

namespace Log

/-- How urgent an entry is. -/
inductive Level where
  | debug
  | info
  | warning
  | error
deriving DecidableEq, Repr

/-- The name of a level. -/
def Level.name : Level → String
  | debug => "DEBUG"
  | info => "INFO"
  | warning => "WARNING"
  | error => "ERROR"

/-- The number by which levels are compared. -/
def Level.rank : Level → Nat
  | debug => 10
  | info => 20
  | warning => 30
  | error => 40

/-- The part of the program that makes an entry. -/
inductive Origin where
  | commands
  | ledger
  | repository
  | connection
  | bootstrap (asScript : Bool)
deriving DecidableEq, Repr

/-- The name of a part. -/
def Origin.name : Origin → String
  | commands => "scum_bot.core.commands"
  | ledger => "scum_bot.core.ledger"
  | repository => "scum_bot.db.repositories"
  | connection => "scum_bot.db.connection"
  | bootstrap asScript => if asScript then "__main__" else "main"

/-- Whether the entry is about a command rather than the store or the start. -/
def Origin.isCore : Origin → Bool
  | commands | ledger => true
  | repository | connection | bootstrap _ => false

/-- What is noted. -/
structure Note where
  level : Level
  origin : Origin
  message : String
deriving DecidableEq, Repr

/-- A note and the trace it was made under. -/
structure Entry where
  trace : Option Nat
  note : Note
deriving DecidableEq, Repr

/-- The parts with a space between them. -/
def spaced : List String → String
  | [] => ""
  | [part] => part
  | part :: parts => part ++ " " ++ spaced parts

/-- The parts `name=value` of a context, without those whose value is null, unless one of them
cannot be written. -/
def parts? {α : Type} (nameOf? : α → Option String) : List (α × Value) → Option (List String)
  | [] => some []
  | (_, .null) :: rest => parts? nameOf? rest
  | (key, v) :: rest =>
    match nameOf? key, v.display?, parts? nameOf? rest with
    | some name, some text, some parts => some ((name ++ "=" ++ text) :: parts)
    | _, _, _ => none

/-- The context of a command: its fields as `name=value`, without those that are null. -/
def context? (fields : Fields) : Option String := (parts? some fields).map spaced

/-- The entries of an ordered map with a value put in: in the place of its key, or at the end. -/
def putEntry (entries : List (Value × Value)) (key v : Value) : List (Value × Value) :=
  match entries with
  | [] => [(key, v)]
  | (k, w) :: rest =>
    if k.isEqual key then (k, v) :: rest else (k, w) :: putEntry rest key v

/-- The context that keys and values give, if it can be written: a repeated key keeps its first place
and its last value. -/
def contextOf (pairs : List (Value × Value)) : Except Mismatch (Option String) :=
  match pairs.findSome? fun p => p.1.keyMismatch? with
  | some m => .error m
  | none =>
    let entries := pairs.foldl (fun entries p => putEntry entries p.1 p.2) []
    .ok ((parts? Value.display? entries).map spaced)

/-- A command has a context unless an integer among its fields has too many digits. -/
theorem context?_isSome_iff (fields : Fields) :
    (context? fields).isSome = true ↔
      ∀ n ∈ Value.integersOfFields fields, Number.isWritable n = true := by
  rw [context?, Option.isSome_map]
  induction fields with
  | nil => simp [parts?, Value.integersOfFields]
  | cons p fields ih =>
    obtain ⟨name, v⟩ := p
    rw [Value.integersOfFields, List.forall_mem_append, ← Value.display?_isSome_iff, ← ih]
    cases v with
    | null => simp [parts?, Value.display?, Value.inspect?, Value.inspectChars?]
    | flag | int | real | text | list | object =>
      rw [parts?]
      · cases Value.display? _ <;> cases parts? some fields <;> simp
      · exact Value.noConfusion

end Log

end CharacterLedger
