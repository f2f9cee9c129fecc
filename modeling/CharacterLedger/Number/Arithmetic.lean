import CharacterLedger.Number.Binary64

/-!
# Comparing and adding doubles

Doubles are compared by their exact values, also with mantissas of more than 53 bits, as integers of
any size have them. A sum is the double nearest to the exact sum.
-/

namespace CharacterLedger.Number.Binary64

/-- An integer of any size as an exact number. -/
def exactly (n : Int) : Binary64 := .finite (n < 0) n.natAbs 0

/-- A mantissa with its sign. -/
def signed (negative : Bool) (m : Nat) : Int := if negative then -m else m

/-- The mantissa of a number that is written with the exponent `low` instead of its own, which is
not smaller. -/
def mantissaAt (negative : Bool) (m : Nat) (e low : Int) : Int :=
  signed negative (m * twoTo (e - low).toNat)

/-- Whether a number is less than another; not-a-number is not comparable. -/
def isLess : Binary64 → Binary64 → Bool
  | .nan, _ | _, .nan => false
  | .infinite negative, .infinite other => negative && !other
  | .infinite negative, .finite .. => negative
  | .finite .., .infinite negative => !negative
  | .finite negative m e, .finite other n f =>
    mantissaAt negative m e (min e f) < mantissaAt other n f (min e f)

/-- Whether two numbers are equal. -/
def isEqual : Binary64 → Binary64 → Bool
  | .infinite negative, .infinite other => negative == other
  | .finite negative m e, .finite other n f =>
    mantissaAt negative m e (min e f) == mantissaAt other n f (min e f)
  | _, _ => false

/-- The double nearest to an integer times a power of two. -/
def ofScaled (n e : Int) : Binary64 :=
  ofRatio (n < 0) (n.natAbs * twoTo e.toNat) (twoTo (-e).toNat)

/-- The sum of two numbers. Only two negative zeros add up to a negative one. -/
def add : Binary64 → Binary64 → Binary64
  | .nan, _ | _, .nan => .nan
  | .infinite negative, .infinite other => if negative = other then .infinite negative else .nan
  | .infinite negative, .finite .. | .finite .., .infinite negative => .infinite negative
  | .finite negative m e, .finite other n f =>
    let low := min e f
    let sum := mantissaAt negative m e low + mantissaAt other n f low
    if sum = 0 then .finite (negative && other) 0 leastExponent else ofScaled sum low

/-- The integer next to a number on the way to zero, which there is only of finite numbers. -/
def truncated : Binary64 → Int
  | .finite negative m e => signed negative (m * twoTo e.toNat / twoTo (-e).toNat)
  | _ => 0

theorem mantissaAt_exactly (n : Int) : mantissaAt (decide (n < 0)) n.natAbs 0 0 = n := by
  have hm : mantissaAt (decide (n < 0)) n.natAbs 0 0 = signed (decide (n < 0)) n.natAbs := by
    show signed _ (n.natAbs * 1) = signed _ n.natAbs
    rw [Nat.mul_one]
  rw [hm]
  by_cases h : n < 0
  · rw [decide_eq_true h]
    show -(n.natAbs : Int) = n
    omega
  · rw [decide_eq_false h]
    show (n.natAbs : Int) = n
    omega

/-- Exact numbers compare as the integers that they are. -/
@[simp] theorem isLess_exactly (a b : Int) : isLess (exactly a) (exactly b) = decide (a < b) := by
  simp [isLess, exactly, mantissaAt_exactly]

@[simp] theorem isEqual_exactly (a b : Int) : isEqual (exactly a) (exactly b) = (a == b) := by
  simp [isEqual, exactly, mantissaAt_exactly]

end CharacterLedger.Number.Binary64
