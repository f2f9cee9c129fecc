import CharacterLedger.Number.Shortest
import CharacterLedger.Text.Quoted
import CharacterLedger.Value

/-!
# Writing JSON

`Value.toJson` writes a value on one line without blanks. Reals are written so that they are read
as reals again.
-/

namespace CharacterLedger.Value

namespace Json

open CharacterLedger.Number CharacterLedger.Text

/-- One character of a string. -/
def writeChar (c : Char) : List Char :=
  if c = doubleMark || c = '\\' then ['\\', c]
  else if c.toNat < 0x20 then '\\' :: 'u' :: hex 4 c.toNat
  else [c]

/-- A string between its marks. -/
def writeString (s : String) : List Char :=
  doubleMark :: s.toList.flatMap writeChar ++ [doubleMark]

/-- A real; the ones that are not finite are words. -/
def writeReal (x : Binary64) : List Char :=
  match x with
  | .nan => "NaN".toList
  | .infinite negative => (if negative then "-Infinity" else "Infinity").toList
  | .finite .. => x.text

/-- The parts with commas between them. -/
def commaSeparated : List (List Char) → List Char
  | [] => []
  | [part] => part
  | part :: parts => part ++ ',' :: commaSeparated parts

mutual

/-- A value. -/
def write : Value → List Char
  | .null => "null".toList
  | .flag b => (if b then "true" else "false").toList
  | .int n => (toString n).toList
  | .real x => writeReal x
  | .text s => writeString s
  | .list items => '[' :: commaSeparated (writeItems items) ++ [']']
  | .object fields => '\x7b' :: commaSeparated (writeMembers fields) ++ ['\x7d']

/-- The items of a list. -/
def writeItems : List Value → List (List Char)
  | [] => []
  | v :: items => write v :: writeItems items

/-- The members of an object. -/
def writeMembers : List (String × Value) → List (List Char)
  | [] => []
  | (name, v) :: fields => (writeString name ++ ':' :: write v) :: writeMembers fields

end

end Json

/-- The JSON text that writes a value. -/
def toJson (v : Value) : String := String.ofList (Json.write v)

end CharacterLedger.Value
