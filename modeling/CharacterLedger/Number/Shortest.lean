import CharacterLedger.Number.Binary64

/-!
# The shortest decimal text of a double

A double is written with the fewest decimal digits that round back to it, and of those with the
nearest. `Layout` places the digits: positional where the point falls near them, with a power of
ten elsewhere.
-/

namespace CharacterLedger.Number

/-- The two terms of `m * 2 ^ e / 10 ^ k`. -/
def decimalScale (m : Nat) (e k : Int) : Nat × Nat :=
  (m * twoTo e.toNat * tenTo (-k).toNat, twoTo (-e).toNat * tenTo k.toNat)

/-- The number `k` of digits before the point: the least with `m * 2 ^ e < 10 ^ k`, for `0 < m`.
The search starts at an estimate that is never too large. -/
def magnitude (m : Nat) (e : Int) : Int :=
  let estimate := ((m.log2 : Int) + e) * 30103 / 100000 - 1
  let below (k : Int) : Bool := let s := decimalScale m e k; s.1 < s.2
  ((List.range 5).map fun (i : Nat) => estimate + i).find? below |>.getD estimate

/-- Of the two numbers of `count` digits around `m * 2 ^ e`, the nearest that rounds back to it,
with its power of ten. If both are equally near it is the even one. -/
def roundingBack (m : Nat) (e : Int) (count : Nat) : Option (Nat × Int) :=
  let power := magnitude m e - count
  let s := decimalScale m e power
  let low := s.1 / s.2
  let rounded := Binary64.roundDiv s.1 s.2
  let nearest := if rounded = low then [low, low + 1] else [low + 1, low]
  (nearest.find? fun d => Binary64.ofDecimal false d power = .finite false m e).map (·, power)

/-- The fewest digits that round back to `m * 2 ^ e`, with their power of ten. Seventeen digits
always do. -/
def shortest (m : Nat) (e : Int) : Nat × Int :=
  ((List.range 17).findSome? fun i => roundingBack m e (i + 1)).getD (m, e)

/-- How the digits of a number are laid out. -/
structure Layout where
  /-- More digits before the point than this are written with a power of ten. -/
  mostBefore : Int
  /-- As many zeros behind the point, or more, are written with a power of ten. -/
  mostZeros : Int
  /-- The least number of digits of a power of ten. -/
  powerWidth : Nat
  /-- Whether a single digit in front of a power of ten gets a point and a zero. -/
  isPointed : Bool

/-- Positional from `1e-4` to below `1e16`; powers of ten have a sign and two digits or more. -/
def plainLayout : Layout := ⟨16, 4, 2, false⟩

/-- The text with zeros in front, up to a width. -/
def padLeft (width : Nat) (cs : List Char) : List Char :=
  List.replicate (width - cs.length) '0' ++ cs

/-- The digits with `before` of them in front of the point. -/
def Layout.place (l : Layout) (digits : List Char) (before : Int) : List Char :=
  if before ≤ -l.mostZeros ∨ l.mostBefore < before then
    let power := before - 1
    let tail := digits.drop 1
    let tail := if tail.isEmpty && l.isPointed then ['0'] else tail
    digits.take 1 ++ (if tail.isEmpty then [] else '.' :: tail) ++
      ['e', if power < 0 then '-' else '+'] ++
      padLeft l.powerWidth (Nat.toDigits 10 power.natAbs)
  else if before ≤ 0 then
    ['0', '.'] ++ List.replicate (-before).toNat '0' ++ digits
  else
    let whole := digits.take before.toNat
    let fraction := digits.drop before.toNat
    whole ++ List.replicate (before.toNat - digits.length) '0' ++
      '.' :: (if fraction.isEmpty then ['0'] else fraction)

/-- The digits without the zeros at their end, and how many those were. -/
def dropTrailingZeros (digits : List Char) : List Char :=
  (digits.reverse.dropWhile (· = '0')).reverse

/-- The text of a double. -/
def Binary64.text : Binary64 → List Char
  | .nan => "nan".toList
  | .infinite negative => (if negative then "-inf" else "inf").toList
  | .finite negative m e =>
    (if negative then ['-'] else []) ++
      (if m = 0 then "0.0".toList
      else
        let (d, power) := shortest m e
        let digits := Nat.toDigits 10 d
        plainLayout.place (dropTrailingZeros digits) (digits.length + power))

end CharacterLedger.Number
