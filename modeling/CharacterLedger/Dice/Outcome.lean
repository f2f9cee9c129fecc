import CharacterLedger.Dice.Entropy

/-!
# The outcome of a roll

A pool of dice keeps its highest face. A pool of none rolls two dice and keeps the lowest. The kept
face decides the degree of success, and two sixes in a pool of two or more are critical.
-/

namespace CharacterLedger.Dice

/-- How well a roll went. -/
inductive Degree where
  | failure
  | partialSuccess
  | fullSuccess
  | criticalSuccess
deriving DecidableEq, Repr

namespace Degree

/-- Every degree, the best first. -/
def all : List Degree := [criticalSuccess, fullSuccess, partialSuccess, failure]

/-- The name of a degree. -/
def name : Degree → String
  | criticalSuccess => "CriticalSuccess"
  | fullSuccess => "FullSuccess"
  | partialSuccess => "PartialSuccess"
  | failure => "Failure"

end Degree

/-- Which face of a roll is kept. -/
inductive Keep where
  | highest
  | lowest
deriving DecidableEq, Repr

/-- The name of a choice of face. -/
def Keep.name : Keep → String
  | highest => "max"
  | lowest => "min"

/-- A finished roll. -/
structure Outcome where
  diceRolled : Value
  faces : List Value
  degree : Degree
  result : Value
  keep : Keep

/-- Whether a roll is critical. -/
def Outcome.isCritical (o : Outcome) : Bool := o.degree == .criticalSuccess

/-- The degree of a kept face. -/
def classify (face : Value) (critical : Bool) : Except Mismatch Degree :=
  if critical then .ok .criticalSuccess
  else
    match Value.compare .atLeast face (.int 6), Value.compare .atLeast face (.int 4) with
    | .error m, _ | _, .error m => .error m
    | .ok true, _ => .ok .fullSuccess
    | .ok false, .ok true => .ok .partialSuccess
    | .ok false, .ok false => .ok .failure

/-- The face that is kept so far, or the next one if it is the better choice. -/
def keepBetter (keep : Keep) (kept face : Value) : Except Mismatch Value :=
  let relation : Value.Relation := match keep with
    | .highest => .above
    | .lowest => .below
  (Value.compare relation face kept).map fun isBetter => if isBetter then face else kept

/-- The face that is kept of several. -/
def keptFace (keep : Keep) : List Value → Except Mismatch Value
  | [] => .ok (.int 0)
  | face :: faces => faces.foldlM (keepBetter keep) face

/-- Whether dice of a pool of `n` that show these faces are critical. -/
def areCritical (n : Nat) (faces : List Value) : Bool :=
  decide (2 ≤ n) && decide (2 ≤ faces.countP fun face => face.isEqual (.int faceCount))

/-- The outcome of a pool of `n` dice that show these faces, of which the face `keep` is kept. -/
def resolveKeeping (keep : Keep) (diceRolled : Value) (n : Nat) (faces : List Value) :
    Except Mismatch Outcome :=
  match keptFace keep faces with
  | .error m => .error m
  | .ok result =>
    (classify result (areCritical n faces)).map fun degree =>
      ⟨diceRolled, faces, degree, result, keep⟩

/-- The outcome of a pool of `n` dice that show these faces; the dice of an empty pool count as
zero dice even though they were rolled. -/
def resolve (pool : Value) (n : Nat) (faces : List Value) : Except Mismatch Outcome :=
  if n = 0 then resolveKeeping .lowest (.int zeroPoolDice) 0 faces
  else resolveKeeping .highest pool n faces

/-- How many dice are on the table for a pool of `n`. -/
def diceFor (n : Nat) : Nat := if n = 0 then zeroPoolDice else n

/-- Rolls a pool of `n` dice. -/
def rollPool (pool : Value) (n : Nat) (e : Entropy) : Except RollError Outcome × Entropy :=
  let (faces, complete, e) := e.draw (diceFor n)
  (if complete then (resolve pool n faces).mapError .mismatch else .error .exhausted, e)

/-- Rolls a pool of `rating` dice, a negative one as none. -/
def roll (rating : Value) (e : Entropy) : Except RollError Outcome × Entropy :=
  match poolOf rating with
  | .error err => (.error err, e)
  | .ok pool =>
    match countOf pool with
    | .error m => (.error (.mismatch m), e)
    | .ok n => rollPool pool n e

/-- Rolls one pool after the other from one source. -/
def rollAll : List Value → Entropy → List (Except RollError Outcome) × Entropy
  | [], e => ([], e)
  | rating :: ratings, e =>
    let (first, e) := roll rating e
    let (others, e) := rollAll ratings e
    (first :: others, e)

theorem classify_int (face : Int) (critical : Bool) :
    classify (.int face) critical =
      .ok (if critical then .criticalSuccess else if 6 ≤ face then .fullSuccess
        else if 4 ≤ face then .partialSuccess else .failure) := by
  simp only [classify, Value.compare_atLeast_int]
  by_cases h6 : 6 ≤ face <;> by_cases h4 : 4 ≤ face <;> cases critical <;> simp [h6, h4]

theorem roll_int (rating : Int) (e : Entropy) :
    roll (.int rating) e =
      if mostDice < rating then (.error (.badPool ⟨.tooLarge, .int rating⟩), e)
      else rollPool (.int (max rating 0)) rating.toNat e := by
  rw [roll, poolOf_int]
  by_cases h : mostDice < rating
  · simp [h]
  · have hn : (max rating 0).toNat = rating.toNat := by omega
    simp [h, countOf_int, hn]

end CharacterLedger.Dice
