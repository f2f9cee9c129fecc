import CharacterLedger.Number.Binary64

/-!
# Decimal numerals

A numeral is a sign, digits, perhaps a point with more digits, and perhaps a power of ten. `scan`
takes one apart; the readers that use it differ in which parts they ask for. Integers of too many
digits are neither read nor written.
-/

namespace CharacterLedger.Number

/-- The most digits of an integer that is read from a text or written as one. -/
def mostDigits : Nat := 4300

/-- Whether an integer can be written. -/
def isWritable (n : Int) : Bool := n.natAbs < tenTo mostDigits

/-- The text of an integer, if it can be written. -/
def decimal? (n : Int) : Option String := if isWritable n then some (toString n) else none

/-- The natural number that a list of decimal digits writes. -/
def ofDigits (cs : List Char) : Nat := cs.foldl (fun n c => 10 * n + (c.toNat - '0'.toNat)) 0

/-- The digits at the front, and the rest. -/
def takeDigits (cs : List Char) : List Char × List Char :=
  (cs.takeWhile Char.isDigit, cs.dropWhile Char.isDigit)

/-- The sign at the front (`true` for minus, `none` where no sign stands), and the rest. -/
def takeSign : List Char → Option Bool × List Char
  | '-' :: cs => (some true, cs)
  | '+' :: cs => (some false, cs)
  | cs => (none, cs)

/-- The parts of a decimal numeral. -/
structure Numeral where
  sign : Option Bool
  whole : List Char
  fraction : Option (List Char)
  power : Option Int

namespace Numeral

/-- The power of ten at the end of a numeral: nothing, or `e` with an integer. -/
def scanPower : List Char → Option (Option Int)
  | [] => some none
  | c :: cs =>
    if c = 'e' || c = 'E' then
      let (sign, rest) := takeSign cs
      let (digits, rest) := takeDigits rest
      if digits.isEmpty || !rest.isEmpty then none
      else some (some (if sign = some true then -(ofDigits digits : Int) else ofDigits digits))
    else none

/-- The numeral that the whole text is. Each of its parts may be missing or empty. -/
def scan (cs : List Char) : Option Numeral :=
  let (sign, rest) := takeSign cs
  let (whole, rest) := takeDigits rest
  match rest with
  | '.' :: rest =>
    let (fraction, rest) := takeDigits rest
    (scanPower rest).map fun power => ⟨sign, whole, some fraction, power⟩
  | rest => (scanPower rest).map fun power => ⟨sign, whole, none, power⟩

/-- The digits on both sides of the point. -/
def digits (n : Numeral) : List Char := n.whole ++ n.fraction.getD []

/-- Whether the numeral has a minus sign. -/
def isNegative (n : Numeral) : Bool := n.sign == some true

/-- Whether the numeral has neither a point nor a power of ten. -/
def isPlain (n : Numeral) : Bool := n.fraction.isNone && n.power.isNone

/-- The integer that a plain numeral writes. -/
def toInt (n : Numeral) : Int :=
  if n.isNegative then -(ofDigits n.whole : Int) else ofDigits n.whole

/-- The double nearest to what the numeral writes. -/
def toBinary64 (n : Numeral) : Binary64 :=
  .ofDecimal n.isNegative (ofDigits n.digits) (n.power.getD 0 - (n.fraction.getD []).length)

end Numeral

end CharacterLedger.Number
