/-!
# Double-precision numbers

A double is kept as its exact value: a sign, a mantissa and a power of two. Numbers enter by
rounding an exact ratio to the nearest double, ties to the even mantissa, and leave as the 64 bits
of the interchange format. All of it is arithmetic on natural numbers and integers; the machine's
floating point is not used.
-/

namespace CharacterLedger.Number

/-- The power of two. -/
def twoTo (n : Nat) : Nat := Nat.pow 2 n

/-- The power of ten. -/
def tenTo (n : Nat) : Nat := Nat.pow 10 n

/-- A double. The finite one with mantissa `m` and exponent `e` is `m * 2 ^ e`, with its sign.
Rounding produces `m < 2 ^ 53` and `-1074 ≤ e`, and `2 ^ 52 ≤ m` unless `e = -1074`, so that each
finite double has one form; the two zeros differ by their sign. -/
inductive Binary64 where
  | finite (negative : Bool) (mantissa : Nat) (exponent : Int)
  | infinite (negative : Bool)
  | nan
deriving DecidableEq, Repr

namespace Binary64

/-- The exponent of the smallest doubles. -/
def leastExponent : Int := -1074

/-- The exponent of the largest finite doubles. -/
def greatestExponent : Int := 971

/-- The quotient rounded to the nearest natural number, a tie to the even one. -/
def roundDiv (num den : Nat) : Nat :=
  if 2 * (num % den) < den then num / den
  else if den < 2 * (num % den) then num / den + 1
  else num / den + num / den % 2

/-- The two terms of `num / den / 2 ^ e`. -/
def scale (num den : Nat) (e : Int) : Nat × Nat :=
  (num * twoTo (-e).toNat, den * twoTo e.toNat)

/-- The double with a rounded mantissa of at most `2 ^ 53`. -/
def pack (negative : Bool) (mantissa : Nat) (e : Int) : Binary64 :=
  let (m, e) := if mantissa = twoTo 53 then (twoTo 52, e + 1) else (mantissa, e)
  if greatestExponent < e then .infinite negative else .finite negative m e

/-- The exponent at which `num / den` has a mantissa of 53 bits, or the least exponent. The first
guess is right or one too large. -/
def exponentOf (num den : Nat) : Int :=
  let guess := max ((num.log2 : Int) - den.log2 - 52) leastExponent
  let scaled := scale num den guess
  if leastExponent < guess ∧ scaled.1 < twoTo 52 * scaled.2 then guess - 1 else guess

/-- The double nearest to `num / den`, of two equally near the one with the even mantissa. -/
def ofRatio (negative : Bool) (num den : Nat) : Binary64 :=
  if num = 0 then .finite negative 0 leastExponent
  else
    let e := exponentOf num den
    let scaled := scale num den e
    pack negative (roundDiv scaled.1 scaled.2) e

/-- The double nearest to `digits * 10 ^ power`. Powers far outside the range of doubles are
recognised by the number of bits of `digits`, so that no huge power of ten is computed. -/
def ofDecimal (negative : Bool) (digits : Nat) (power : Int) : Binary64 :=
  if digits = 0 then .finite negative 0 leastExponent
  else if 400 < (digits.log2 * 3 / 10 : Nat) + power then .infinite negative
  else if (digits.log2 : Int) / 3 + 1 + power < -400 then .finite negative 0 leastExponent
  else ofRatio negative (digits * tenTo power.toNat) (tenTo (-power).toNat)

/-- The double nearest to an integer. -/
def ofInt (n : Int) : Binary64 := ofRatio (n < 0) n.natAbs 1

/-- The integer that the number is, if it is one. -/
def toInt? : Binary64 → Option Int
  | .finite negative m e =>
    let signed (n : Nat) : Int := if negative then -n else n
    if 0 ≤ e then some (signed (m * twoTo e.toNat))
    else if m % twoTo (-e).toNat = 0 then some (signed (m / twoTo (-e).toNat)) else none
  | _ => none

/-- Whether the number is greater than zero; not-a-number is not. -/
def isPositive : Binary64 → Bool
  | .finite negative m _ => !negative && m != 0
  | .infinite negative => !negative
  | .nan => false

/-- Whether the number is one of the two zeros. -/
def isZero : Binary64 → Bool
  | .finite _ m _ => m == 0
  | _ => false

/-- Whether the number is neither infinite nor not-a-number. -/
def isFinite : Binary64 → Bool
  | .finite .. => true
  | _ => false

/-- The sign as the top bit of the interchange format. -/
def signBit (negative : Bool) : Nat := if negative then twoTo 63 else 0

/-- The 64 bits of the interchange format. -/
def bits : Binary64 → Nat
  | .finite negative m e =>
    if m < twoTo 52 then signBit negative + m
    else signBit negative + (e + 1075).toNat * twoTo 52 + (m - twoTo 52)
  | .infinite negative => signBit negative + 2047 * twoTo 52
  | .nan => 2047 * twoTo 52 + twoTo 51

@[simp] theorem not_isPositive_nan : isPositive .nan = false := rfl

end Binary64

end CharacterLedger.Number
