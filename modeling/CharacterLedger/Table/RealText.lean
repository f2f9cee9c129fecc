import CharacterLedger.Number.Extended
import CharacterLedger.Number.Numeral
import CharacterLedger.Number.Shortest

/-!
# Reals and texts in a table

A table reads a real from a text, and writes it with fifteen digits, by multiplications and
divisions in extended precision. What comes out is not always the nearest number, so each operation
is done as the table does it.
-/

namespace CharacterLedger.Table

open CharacterLedger.Number

namespace RealText

/-! ### Reading -/

/-- Once the digits that have been read come to this number, the others are left out. -/
def fullSignificand : Nat := 922337203685477579

/-- A number is not multiplied by ten any more once it has come to this. -/
def mostRaised : Nat := 922337203685477580

/-- The number that digits in front of the point add to, and how many digits are left out. -/
def readWhole : List Char → Nat → Nat × Nat
  | [], n => (n, 0)
  | c :: cs, n =>
    let n := 10 * n + ofDigits [c]
    if fullSignificand ≤ n then (n, cs.length) else readWhole cs n

/-- The number that digits behind the point add to, and how many digits are not left out. -/
def readFraction : List Char → Nat → Nat × Nat
  | [], n => (n, 0)
  | c :: cs, n =>
    if n < fullSignificand then
      let (n, count) := readFraction cs (10 * n + ofDigits [c])
      (n, count + 1)
    else (n, 0)

/-- The power of ten of a numeral, which is cut off where it has more than five digits. -/
def readPower (power : Int) : Int :=
  let size : Int := if power.natAbs < 100000 then power.natAbs else 10000
  if power < 0 then -size else size

/-- Takes tens out of a positive power of ten, as many as the number may still be multiplied by. -/
def raise : Nat → Nat → Nat × Nat
  | n, 0 => (n, 0)
  | n, power + 1 => if mostRaised ≤ n then (n, power + 1) else raise (10 * n) power

/-- Takes tens out of a negative power of ten, as long as the number can be divided by ten. -/
def lower : Nat → Nat → Nat × Nat
  | n, 0 => (n, 0)
  | n, power + 1 => if n % 10 = 0 then lower (n / 10) power else (n, power + 1)

/-- The largest power of ten that a number is multiplied or divided by at once. -/
def largestScale : Nat := 307

/-- From this power of ten on, a number is infinite, or zero. -/
def endOfScale : Nat := 342

/-- The double of a power of ten. -/
def decimalUnit (power : Int) : Binary64 := .ofDecimal false 1 power

/-- A number times a power of ten, or divided by one. -/
def scaled (negative : Bool) (n : Nat) (isSmall : Bool) (power : Nat) : Binary64 :=
  let scale := Extended.powerOfTen power
  let x := if isSmall then (Extended.ofNat n).div scale else (Extended.ofNat n).mul scale
  x.toBinary64 negative

/-- A finite double times the double of the greatest power of ten but one, or divided by it. -/
def rescaled (isSmall : Bool) : Binary64 → Binary64
  | .finite negative m e =>
    match decimalUnit (largestScale + 1) with
    | .finite _ unit f =>
      let e := if isSmall then e - f else e + f
      if isSmall then .ofRatio negative (m * twoTo e.toNat) (unit * twoTo (-e).toNat)
      else .ofRatio negative (m * unit * twoTo e.toNat) (twoTo (-e).toNat)
    | other => other
  | other => other

/-- The double for a number and a power of ten that is left over. -/
def assemble (negative : Bool) (n : Nat) (isSmall : Bool) (power : Nat) : Binary64 :=
  if power = 0 then .ofRatio negative n 1
  else if power ≤ largestScale then scaled negative n isSmall power
  else if power < endOfScale then
    rescaled isSmall (scaled negative n isSmall (power - (largestScale + 1)))
  else if isSmall then .finite negative 0 Binary64.leastExponent
  else .infinite negative

/-- The double that a numeral is read as. -/
def read (n : Numeral) : Binary64 :=
  let (whole, skipped) := readWhole n.whole 0
  let (significand, taken) := readFraction (n.fraction.getD []) whole
  let power := readPower (n.power.getD 0) + skipped - taken
  if significand = 0 then .finite n.isNegative 0 Binary64.leastExponent
  else if power < 0 then
    let (significand, left) := lower significand power.natAbs
    assemble n.isNegative significand true left
  else
    let (significand, left) := raise significand power.natAbs
    assemble n.isNegative significand false left

/-! ### Writing -/

/-- A number that is brought between one and ten, and the power of ten that has been taken out. -/
structure Normal where
  value : Extended
  power : Int

/-- Multiplies a scale by a factor as long as it is not more than a factor below the number. -/
def climb (value factor : Extended) (step : Int) : Nat → Extended × Int → Extended × Int
  | 0, s => s
  | fuel + 1, (scale, power) =>
    if value.isAtLeast (factor.mul scale) && decide (power ≤ 350) then
      climb value factor step fuel (scale.mul factor, power + step)
    else (scale, power)

/-- Multiplies a number by a factor as long as it is below a bound. -/
def descend (bound factor : Extended) (step : Int) : Nat → Normal → Normal
  | 0, n => n
  | fuel + 1, n =>
    if n.value.isAtLeast bound then n
    else descend bound factor step fuel ⟨n.value.mul factor, n.power - step⟩

/-- More often than this no factor is used. -/
def mostSteps : Nat := 64

/-- The number brought between one and ten. -/
def normalize (value : Extended) : Normal :=
  let unit (power : Int) : Extended := .ofBinary64 (decimalUnit power)
  let scale := climb value (unit 100) 100 mostSteps (unit 0, 0)
  let scale := climb value (unit 10) 10 mostSteps scale
  let (scale, power) := climb value (unit 1) 1 mostSteps scale
  let n := descend (unit (-8)) (unit 8) 8 mostSteps ⟨value.div scale, power⟩
  descend (unit 0) (unit 1) 1 mostSteps n

/-- Half a unit of the last digit that is written, as a product of two doubles. -/
def halfUnit : Extended :=
  match Binary64.ofDecimal false 5 (-5), decimalUnit (-10) with
  | .finite _ m e, .finite _ n f => .ofBinary64 (Extended.toBinary64 false ⟨m * n, e + f⟩)
  | _, _ => ⟨0, 0⟩

/-- The number with half a unit of the last digit added. -/
def roundUp (n : Normal) : Normal :=
  let value := n.value.add halfUnit
  if value.isAtLeast (.ofNat 10) then
    ⟨value.mul (.ofBinary64 (decimalUnit (-1))), n.power + 1⟩
  else ⟨value, n.power⟩

/-- The next digits of a number below ten. -/
def takeDigits : Nat → Extended → List Char
  | 0, _ => []
  | count + 1, value =>
    Nat.digitChar value.whole :: takeDigits count (value.fraction.mul (.ofNat 10))

/-- The number of digits that are written. -/
def digitCount : Nat := 15

/-- Positional from `1e-4` to below `1e15`; there is always a point. -/
def layout : Layout := ⟨digitCount, 4, 2, true⟩

/-- The text of a positive number. -/
def writePositive (value : Extended) : List Char :=
  let n := roundUp (normalize value)
  layout.place (dropTrailingZeros (takeDigits digitCount n.value)) (n.power + 1)

/-- The text of a double; zero has no sign. -/
def write : Binary64 → List Char
  | .nan => "NaN".toList
  | .infinite negative => (if negative then "-Inf" else "Inf").toList
  | .finite _ 0 _ => "0.0".toList
  | .finite negative m e => (if negative then ['-'] else []) ++ writePositive ⟨m, e⟩

end RealText

end CharacterLedger.Table
