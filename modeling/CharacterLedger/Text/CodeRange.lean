/-!
# Ranges of code points

Character classes are tables of ranges of code points. A class is a list of ranges, and a
character belongs to it when its code point lies in one of them.
-/

namespace CharacterLedger.Text

/-- The code points from `first` to `last`, both included. -/
structure CodeRange where
  first : Nat
  last : Nat
deriving DecidableEq, Repr

/-- Whether the code point `n` lies in the range. -/
def CodeRange.covers (r : CodeRange) (n : Nat) : Bool := r.first ≤ n && n ≤ r.last

@[simp] theorem CodeRange.covers_iff (r : CodeRange) (n : Nat) :
    r.covers n = true ↔ r.first ≤ n ∧ n ≤ r.last := by
  simp [CodeRange.covers]

/-- Whether one of the ranges of `table` covers the code point of `c`. -/
def inTable (table : List CodeRange) (c : Char) : Bool := table.any fun r => r.covers c.toNat

@[simp] theorem inTable_iff (table : List CodeRange) (c : Char) :
    inTable table c = true ↔ ∃ r ∈ table, r.first ≤ c.toNat ∧ c.toNat ≤ r.last := by
  simp [inTable]

end CharacterLedger.Text
