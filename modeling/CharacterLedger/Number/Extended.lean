import CharacterLedger.Number.Binary64

/-!
# Numbers in extended precision

A number of extended precision has a mantissa of 64 bits, and its exponent is not limited. The
result of every operation is the nearest number, of two equally near the one with the even mantissa.
There are only numbers that are not negative.
-/

namespace CharacterLedger.Number

/-- The number `mantissa * 2 ^ exponent`. -/
structure Extended where
  mantissa : Nat
  exponent : Int
deriving DecidableEq, Repr

namespace Extended

/-- The number of bits of a mantissa. -/
def precision : Nat := 64

/-- The number nearest to `num / den * 2 ^ e`. The first guess of the unit to round to is right or
half of it. -/
def ofRatio (num den : Nat) (e : Int) : Extended :=
  let shift : Int := (num.log2 : Int) - den.log2 - precision
  let scaled := num * twoTo (-shift).toNat
  let unit := den * twoTo shift.toNat
  let guess := Binary64.roundDiv scaled unit
  if twoTo precision < guess then ⟨Binary64.roundDiv scaled (unit * 2), e + shift + 1⟩
  else ⟨guess, e + shift⟩

/-- The number nearest to a natural number. -/
def ofNat (n : Nat) : Extended := ofRatio n 1 0

/-- The size of a double. -/
def ofBinary64 : Binary64 → Extended
  | .finite _ m e => ⟨m, e⟩
  | _ => ⟨0, 0⟩

/-- The double nearest to the number. -/
def toBinary64 (negative : Bool) (x : Extended) : Binary64 :=
  .ofRatio negative (x.mantissa * twoTo x.exponent.toNat) (twoTo (-x.exponent).toNat)

/-- The product. -/
def mul (x y : Extended) : Extended := ofRatio (x.mantissa * y.mantissa) 1 (x.exponent + y.exponent)

/-- The quotient. -/
def div (x y : Extended) : Extended := ofRatio x.mantissa y.mantissa (x.exponent - y.exponent)

/-- The mantissa of the number written with the exponent `low` instead of its own, which is not
smaller. -/
def mantissaAt (x : Extended) (low : Int) : Nat := x.mantissa * twoTo (x.exponent - low).toNat

/-- The sum. -/
def add (x y : Extended) : Extended :=
  let low := min x.exponent y.exponent
  ofRatio (x.mantissaAt low + y.mantissaAt low) 1 low

/-- Whether the number is at least another. -/
def isAtLeast (x y : Extended) : Bool :=
  let low := min x.exponent y.exponent
  y.mantissaAt low ≤ x.mantissaAt low

/-- The whole part. -/
def whole (x : Extended) : Nat := x.mantissa * twoTo x.exponent.toNat / twoTo (-x.exponent).toNat

/-- What is left without the whole part. -/
def fraction (x : Extended) : Extended :=
  if 0 ≤ x.exponent then ⟨0, 0⟩ else ⟨x.mantissa % twoTo (-x.exponent).toNat, x.exponent⟩

/-- The power of ten as the product of those powers `10 ^ 2 ^ i` that it is made of, the smallest
first. -/
def powerOfTen (n : Nat) : Extended :=
  ((List.range (n.log2 + 1)).foldl
    (fun (product, square) i =>
      (if n.testBit i then mul product square else product, mul square square))
    (ofNat 1, ofNat 10)).1

end Extended

end CharacterLedger.Number
