import CharacterLedger.Character.Record
import CharacterLedger.Dice.Outcome
import CharacterLedger.Error

/-!
# Arguments

Values read as what they have to be: the name of an action or attribute, a number of dice, a rating,
a change of a rating. Numbers may be of any type. What cannot be compared with a number or added to
one is a mismatch.
-/

namespace CharacterLedger.Ledger

open CharacterLedger.Dice

/-- The action that a value names. -/
def readAction (name : Value) : Except Error Action :=
  match Action.named? name with
  | some a => .ok a
  | none => .error (.unknownName name)

/-- The attribute that a value names. -/
def readAttribute (name : Value) : Except Error Attribute :=
  match Attribute.named? name with
  | some t => .ok t
  | none => .error (.unknownName name)

/-- A number of dice up to a limit. -/
def readPool (dice limit : Value) : Except Error Value := (checkPool dice limit).mapError .ofRoll

/-- The rating nearest to a number. A number within the range stays as it is, with its type and its
fraction. -/
def nearestRating (v : Value) : Except Mismatch Value :=
  match Value.compare .below v (.int Rating.greatest),
    Value.compare .above v (.int Rating.least) with
  | .error m, _ => .error m
  | .ok false, _ => .ok (.int Rating.greatest)
  | .ok true, .error m => .error m
  | .ok true, .ok false => .ok (.int Rating.least)
  | .ok true, .ok true => .ok v

/-- What a rating becomes that is to change by a number. -/
def changedRating (r : Rating) (delta : Value) : Except Mismatch Value :=
  (Value.plus r.toInt delta).bind nearestRating

theorem nearestRating_int (n : Int) :
    nearestRating (.int n) = .ok (.int (Rating.clamp n).toInt) := by
  simp only [nearestRating, Value.compare_below_int, Value.compare_above_int, Rating.toInt_clamp,
    Rating.least, Rating.greatest]
  by_cases hg : n < 4
  · by_cases hl : 0 < n
    · have : max 0 (min 4 n) = n := by omega
      simp [hg, hl, this]
    · have : max 0 (min 4 n) = 0 := by omega
      simp [hg, hl, this]
  · have : max 0 (min 4 n) = 4 := by omega
    simp [hg, this]

theorem changedRating_int (r : Rating) (delta : Int) :
    changedRating r (.int delta) = .ok (.int (Rating.clamp (r.toInt + delta)).toInt) :=
  nearestRating_int (r.toInt + delta)

end CharacterLedger.Ledger
