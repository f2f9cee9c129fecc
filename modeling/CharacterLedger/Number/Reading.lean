import CharacterLedger.Number.Numeral
import CharacterLedger.Text.Blank

/-!
# Reading numbers from text

The lenient readers of integers and reals. Both trim white space and take an optional sign.

An integer is written in digits with single underscores between them; zeros in front, and
underscores among them, are dropped first, and so is a point with zeros behind it. A real is written
as a decimal numeral, or as a word for infinity or not-a-number; if there are no blanks around it,
single underscores may stand anywhere within it.
-/

namespace CharacterLedger.Number

open CharacterLedger.Text

/-- Why a text is not read as an integer. -/
inductive IntegerDefect where
  | tooLong
  | malformed
deriving DecidableEq, Repr

/-- Whether two underscores stand side by side. -/
def hasDoubleUnderscore : List Char → Bool
  | '_' :: '_' :: _ => true
  | _ :: cs => hasDoubleUnderscore cs
  | [] => false

/-- Whether underscores stand singly, and only within the text. -/
def isGrouped (cs : List Char) : Bool :=
  cs.head? != some '_' && cs.getLast? != some '_' && !hasDoubleUnderscore cs

/-- The text without its underscores, if they stand singly within it. -/
def dropGrouping (cs : List Char) : List Char :=
  if isGrouped cs then cs.filter (· ≠ '_') else cs

/-- What is left of a text behind zeros and underscores, of which `last` was the last. It begins
with the first other digit or with a minus sign; in front of a point, and at the end, one character
is kept. -/
def behindZeros (last : Char) : List Char → Option (List Char)
  | [] => some [last]
  | c :: cs =>
    if c = '0' || c = '_' then behindZeros c cs
    else if c = '-' || c.isDigit then some (c :: cs)
    else if c = '.' then some (last :: c :: cs)
    else none

/-- The text without zeros in front and the underscores among them. It has to begin with a digit or
a minus sign. -/
def dropLeadingZeros? : List Char → Option (List Char)
  | [] => none
  | c :: cs =>
    if c = '0' then behindZeros c cs
    else if c = '-' || c.isDigit then some (c :: cs)
    else none

/-- The text without a point and nothing but zeros behind it. -/
def dropZeroFraction (cs : List Char) : List Char :=
  match cs.dropWhile (· ≠ '.') with
  | _ :: zeros =>
    if !zeros.isEmpty && zeros.all (· = '0') then cs.takeWhile (· ≠ '.') else cs
  | [] => cs

/-- The text of an integer as it is read in the end: without blanks, a plus sign, zeros in front,
zeros behind a point, and underscores. -/
def cleanInteger? (cs : List Char) : Option (List Char) :=
  let unsigned := match trim isWhiteSpace cs with
    | '+' :: rest => if rest.head? = some '-' then none else some rest
    | rest => some rest
  (unsigned.bind dropLeadingZeros?).map fun rest => dropGrouping (dropZeroFraction rest)

/-- Whether an integer has 64 bits at most. -/
def fitsWord (n : Int) : Bool := -0x8000000000000000 ≤ n && n < 0x8000000000000000

/-- The integer that digits behind an optional minus sign write. Digits with zeros in front are read
if the integer has 64 bits at most. -/
def plainInteger (cs : List Char) : Except IntegerDefect Int :=
  let (sign, rest) := takeSign cs
  let (digits, rest) := takeDigits rest
  let value : Int := if sign = some true then -(ofDigits digits : Int) else ofDigits digits
  match digits with
  | [] => .error .malformed
  | first :: _ =>
    if first = '0' then
      if rest.isEmpty && fitsWord value then .ok value else .error .malformed
    else if mostDigits < digits.length then .error .tooLong
    else if rest.isEmpty then .ok value
    else .error .malformed

/-- The integer that a text writes. -/
def readInteger (s : String) : Except IntegerDefect Int :=
  match cleanInteger? s.toList with
  | none => .error .malformed
  | some cs => plainInteger cs

/-- The words that stand for numbers that are not finite, without a sign. -/
def wordReal? (negative : Bool) (cs : List Char) : Option Binary64 :=
  let word := String.ofList (cs.map Char.toLower)
  if word = "inf" || word = "infinity" then some (.infinite negative)
  else if word = "nan" then some .nan
  else none

/-- The real that a decimal numeral writes. -/
def numeralReal? (cs : List Char) : Option Binary64 :=
  (Numeral.scan cs).bind fun n => if n.digits.isEmpty then none else some n.toBinary64

/-- The real that a text without blanks and underscores writes. -/
def plainReal? (cs : List Char) : Option Binary64 :=
  let (sign, rest) := takeSign cs
  match wordReal? (sign == some true) rest with
  | some x => some x
  | none => numeralReal? cs

/-- The real that a text writes, with blanks around it or underscores in it. -/
def readReal? (s : String) : Option Binary64 :=
  match plainReal? (trim isWhiteSpace s.toList) with
  | some x => some x
  | none => plainReal? (dropGrouping s.toList)

end CharacterLedger.Number
