import CharacterLedger.Value.Order

/-!
# Dice pools

A pool is a number of dice. Pools are asked for as numbers of any size and type; those below zero
and those above a limit are refused, the former first.
-/

namespace CharacterLedger.Dice

/-- Why a pool is refused. -/
inductive PoolDefect where
  | negative
  | tooLarge
deriving DecidableEq, Repr

/-- The short name of a defect. -/
def PoolDefect.key : PoolDefect → String
  | negative => "dice_pool_negative"
  | tooLarge => "dice_pool_too_large"

/-- A refused pool and its number of dice. -/
structure BadPool where
  defect : PoolDefect
  dice : Value

/-- Why a roll has no outcome. -/
inductive RollError where
  | badPool (b : BadPool)
  | mismatch (m : Mismatch)
  | exhausted

/-- The most dice of one pool. -/
def mostDice : Int := 100

/-- How many dice are rolled for a pool of none. -/
def zeroPoolDice : Nat := 2

/-- The number of faces of a die. -/
def faceCount : Nat := 6

/-- The number of dice, if it is neither negative nor above the limit. -/
def checkPool (dice limit : Value) : Except RollError Value :=
  match Value.compare .below dice (.int 0), Value.compare .above dice limit with
  | .error m, _ => .error (.mismatch m)
  | .ok true, _ => .error (.badPool ⟨.negative, dice⟩)
  | .ok false, .error m => .error (.mismatch m)
  | .ok false, .ok true => .error (.badPool ⟨.tooLarge, dice⟩)
  | .ok false, .ok false => .ok dice

/-- The pool for a rating: as many dice, none for a negative rating. -/
def poolOf (rating : Value) : Except RollError Value :=
  match Value.compare .above (.int 0) rating with
  | .error m => .error (.mismatch m)
  | .ok isNegative => checkPool (if isNegative then .int 0 else rating) (.int mostDice)

/-- How many dice a pool has. Reals are no numbers of dice, except for zero. -/
def countOf (pool : Value) : Except Mismatch Nat :=
  if pool.isEqual (.int 0) then .ok 0
  else
    match pool.toInteger? with
    | some n => .ok n.toNat
    | none => .error (.notWhole pool.kind)

theorem checkPool_int (dice limit : Int) :
    checkPool (.int dice) (.int limit) =
      if dice < 0 then .error (.badPool ⟨.negative, .int dice⟩)
      else if limit < dice then .error (.badPool ⟨.tooLarge, .int dice⟩)
      else .ok (.int dice) := by
  simp only [checkPool, Value.compare_below_int, Value.compare_above_int]
  by_cases hn : dice < 0
  · simp [hn]
  · by_cases hl : limit < dice <;> simp [hn, hl]

theorem poolOf_int (rating : Int) :
    poolOf (.int rating) =
      if mostDice < rating then .error (.badPool ⟨.tooLarge, .int rating⟩)
      else .ok (.int (max rating 0)) := by
  simp only [poolOf, Value.compare_above_int]
  by_cases hn : rating < 0
  · have hm : max rating 0 = 0 := by omega
    have hl : rating ≤ 100 := by omega
    simp [hn, hm, hl, checkPool_int, mostDice]
  · have hm : max rating 0 = rating := by omega
    simp [hn, hm, checkPool_int]

theorem countOf_int (n : Int) : countOf (.int n) = .ok n.toNat := by
  unfold countOf
  rw [Value.isEqual_int]
  by_cases hz : n = 0
  · simp [hz]
  · simp [hz, Value.toInteger?]

end CharacterLedger.Dice
