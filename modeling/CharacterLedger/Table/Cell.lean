import CharacterLedger.Table.Fault
import CharacterLedger.Table.RealText

/-!
# Cells

What a column of the table holds. A rating column prefers integers: a text that writes a number is
stored as that number, a real without a fraction as an integer, and any other text stays as it is, as
does a blob. The bytes of a text need not be UTF-8; then it is stored all the same, but nobody can
fetch it. A key column holds texts, and a key that is no text is compared by the text that writes it.
-/

namespace CharacterLedger.Table

open CharacterLedger.Number

/-- A cell of a rating column. -/
inductive Cell where
  | integer (n : Int)
  | real (x : Binary64)
  | text (s : String)
  | blob (bytes : List UInt8)
  /-- A text whose bytes are not UTF-8. -/
  | undecodable (bytes : List UInt8) (broken : String.fromUTF8? ⟨bytes.toArray⟩ = none)
deriving DecidableEq

namespace Cell

/-- The least integer that a cell holds as one. -/
def leastInteger : Int := -0x8000000000000000

/-- The greatest integer that a cell holds as one. -/
def greatestInteger : Int := 0x7fffffffffffffff

/-- Whether a cell can hold the integer as one. -/
def fits (n : Int) : Bool := leastInteger ≤ n && n ≤ greatestInteger

/-- The cell for a real: an integer if it is one, strictly between the bounds. -/
def ofReal (x : Binary64) : Cell :=
  match x.toInt? with
  | some n => if leastInteger < n ∧ n < greatestInteger then integer n else real x
  | none => real x

/-- Blanks that may stand around a number in a text. -/
def isBlank (c : Char) : Bool := c = ' ' || (9 ≤ c.toNat && c.toNat ≤ 13)

/-- The cell for a text. -/
def ofText (s : String) : Cell :=
  let cs := ((s.toList.dropWhile isBlank).reverse.dropWhile isBlank).reverse
  match Numeral.scan cs with
  | none => text s
  | some n =>
    if n.digits.isEmpty then text s
    else if n.isPlain && fits n.toInt then integer n.toInt
    else ofReal (RealText.read n)

/-- The cell for a value given as parameter number `index`; null is no cell. -/
def ofValue? (index : Nat) : Value → Except Fault (Option Cell)
  | .null => .ok none
  | .flag b => .ok (some (integer (if b then 1 else 0)))
  | .int n => if fits n then .ok (some (integer n)) else .error .integerTooLarge
  | .real x => .ok (if x = .nan then none else some (ofReal x))
  | .text s => .ok (some (ofText s))
  | .list _ => .error (.badParameter index .list)
  | .object _ => .error (.badParameter index .object)

/-- The text that is written in a blob. Bytes that write none in UTF-8 stand as a replacement
character, which writes no number either. -/
def textOfBytes (bytes : List UInt8) : String :=
  (String.fromUTF8? ⟨bytes.toArray⟩).getD "\uFFFD"

/-- The cell as a value that an integer is read from; a blob is read as a text. An undecodable text
is never read, since fetching it fails. -/
def toValue : Cell → Value
  | integer n => .int n
  | real x => .real x
  | text s => .text s
  | blob bytes | undecodable bytes _ => .text (textOfBytes bytes)

/-- The fault of fetching the cell from a column, if it cannot be decoded. -/
def fault? (column : String) : Cell → Option Fault
  | undecodable bytes _ => some (.undecodable column bytes)
  | integer _ | real _ | text _ | blob _ => none

/-- Only undecodable texts cannot be fetched. -/
theorem fault?_eq_some {column : String} {cell : Cell} {f : Fault}
    (h : cell.fault? column = some f) :
    ∃ bytes, f = .undecodable column bytes ∧ cell.toValue = .text "\uFFFD" := by
  cases cell with
  | undecodable bytes broken =>
    cases h
    exact ⟨bytes, rfl, by rw [toValue, textOfBytes, broken]; rfl⟩
  | integer | real | text | blob => cases h

end Cell

/-- The text that a value given as parameter number `index` has in a key column; null has none. -/
def keyText? (index : Nat) : Value → Except Fault (Option String)
  | .null => .ok none
  | .flag b => .ok (some (if b then "1" else "0"))
  | .int n => if Cell.fits n then .ok (some (toString n)) else .error .integerTooLarge
  | .real x => .ok (if x = .nan then none else some (String.ofList (RealText.write x)))
  | .text s => .ok (some s)
  | .list _ => .error (.badParameter index .list)
  | .object _ => .error (.badParameter index .object)

end CharacterLedger.Table
