import CharacterLedger.Table.Address
import CharacterLedger.Text.Quoted
import CharacterLedger.Value

/-!
# Faults of the store

What can go wrong between the ledger and its tables, by cause: the database refuses a statement, a
file or a directory is not as it has to be, a connection has been closed, or a value does not fit
into a statement. Only the first two kinds are failures of the store as such.
-/

namespace CharacterLedger.Table

open CharacterLedger.Text

/-- What a trigger fires before. -/
inductive Event where
  | insert
  | update
deriving DecidableEq, Repr

/-- The name of an event. -/
def Event.name : Event → String
  | insert => "insert"
  | update => "update"

/-- The name of the trigger for an event. -/
def Event.triggerName (e : Event) : String := "t_" ++ e.name

/-- The name of the table. -/
def tableName : String := "characters"

/-- A cause of failure. -/
inductive Fault where
  | noTable
  | noTableForTrigger
  | locked
  | cannotOpen
  | badAddress (d : AddressDefect)
  | readOnly
  | notDatabase
  | triggerExists (e : Event)
  | noTrigger (e : Event)
  | refused
  | duplicateKey
  | nullColumn (name : String)
  | badParameter (index : Nat) (kind : Kind)
  /-- The bytes of a text in this column are not UTF-8. -/
  | undecodable (column : String) (bytes : List UInt8)
  | fileExists (path : String)
  | fileMissing (path : String)
  | notDirectory (path : String)
  | isDirectory (path : String)
  | directoryNotEmpty (path : String)
  | nameTooLong (path : String)
  | zeroCharacter
  | inactive
  | integerTooLarge
deriving DecidableEq, Repr

namespace Fault

/-- The families of faults. -/
inductive Family where
  | operational
  | integrity
  | content
  | parameter
  | file
  | text
  | inactive
  | overflow
deriving DecidableEq, Repr

/-- The family of a fault. -/
def family : Fault → Family
  | noTable | noTableForTrigger | locked | cannotOpen | badAddress _ | readOnly
  | triggerExists _ | noTrigger _ | undecodable .. => .operational
  | refused | duplicateKey | nullColumn _ => .integrity
  | notDatabase => .content
  | badParameter .. => .parameter
  | fileExists _ | fileMissing _ | notDirectory _ | isDirectory _ | directoryNotEmpty _
  | nameTooLong _ => .file
  | zeroCharacter => .text
  | inactive => .inactive
  | integerTooLarge => .overflow

/-- Whether the database itself reports the fault. -/
def isOfDatabase (f : Fault) : Bool :=
  match f.family with
  | .operational | .integrity | .content | .parameter => true
  | .file | .text | .inactive | .overflow => false

/-- Whether the database or the file system reports the fault. Using a closed connection and
values that fit into no statement are mistakes of the caller. -/
def isOfStore (f : Fault) : Bool := f.isOfDatabase || f.family == .file

/-- How many characters of the report of an undecodable text are shown. -/
def undecodableLength : Nat := 198

/-- The report of an undecodable text. It shows the bytes up to the first zero, with a replacement
character for each that is not ASCII, and is cut off if it is too long. -/
def undecodableText (column : String) (bytes : List UInt8) : String :=
  let shown := (bytes.takeWhile (· ≠ 0)).map fun b =>
    if b < 0x80 then Char.ofNat b.toNat else '\uFFFD'
  String.ofList ((("Could not decode to UTF-8 column '" ++ column ++ "' with text '").toList ++
    shown ++ [apostrophe]).take undecodableLength)

/-- The report of a fault. -/
def message : Fault → String
  | noTable => "no such table: " ++ tableName
  | noTableForTrigger => "no such table: main." ++ tableName
  | locked => "database is locked"
  | cannotOpen => "unable to open database file"
  | badAddress d => d.message
  | notDatabase => "file is not a database"
  | readOnly => "attempt to write a readonly database"
  | triggerExists e => "trigger " ++ e.triggerName ++ " already exists"
  | noTrigger e => "no such trigger: " ++ e.triggerName
  | refused => "disk full"
  | duplicateKey =>
    "UNIQUE constraint failed: " ++ tableName ++ ".channel_id, " ++ tableName ++ ".user_id"
  | nullColumn name => "NOT NULL constraint failed: " ++ tableName ++ "." ++ name
  | badParameter index kind =>
    "Error binding parameter " ++ toString index ++ ": type '" ++ kind.name ++
      "' is not supported"
  | undecodable column bytes => undecodableText column bytes
  | fileExists path => "[Errno 17] File exists: " ++ quoted path
  | fileMissing path => "[Errno 2] No such file or directory: " ++ quoted path
  | notDirectory path => "[Errno 20] Not a directory: " ++ quoted path
  | isDirectory path => "[Errno 21] Is a directory: " ++ quoted path
  | directoryNotEmpty path => "[Errno 39] Directory not empty: " ++ quoted path
  | nameTooLong path => "[Errno 36] File name too long: " ++ quoted path
  | zeroCharacter => "embedded null byte"
  | inactive => "no active connection"
  | integerTooLarge => "Python int too large to convert to SQLite INTEGER"

theorem isOfStore_of_isOfDatabase {f : Fault} (h : f.isOfDatabase = true) :
    f.isOfStore = true := by
  simp [isOfStore, h]

end Fault

end CharacterLedger.Table
