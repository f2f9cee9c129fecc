import CharacterLedger.Issue
import CharacterLedger.Number.Reading

/-!
# Reading the fields of a form

One reader for each type of field. A reader takes a value as it came and gives what the field
holds, or the defect. Readers are lenient: an integer may be written as a text, a flag or a real
without a fraction, a flag as one of a few words.
-/

namespace CharacterLedger.Field

open CharacterLedger.Number

/-- Reads a text; nothing else is taken for one. -/
def text : Value → Except Defect String
  | .text s => .ok s
  | _ => .error .notText

/-- Where reals are too large to be taken for integers. -/
def integerLimit : Int := 0x8000000000000000

/-- Reads an integer from a real. -/
def integerOfReal (x : Binary64) : Except Defect Int :=
  if !x.isFinite then .error .infiniteInteger
  else
    match x.toInt? with
    | none => .error .fractional
    | some n => if n < integerLimit ∧ -integerLimit < n then .ok n else .error .oversizedInteger

/-- Reads an integer from a text. -/
def integerOfText (s : String) : Except Defect Int :=
  match readInteger s with
  | .ok n => .ok n
  | .error .tooLong => .error .oversizedInteger
  | .error .malformed => .error .unreadableInteger

/-- Reads an integer. -/
def integer : Value → Except Defect Int
  | .int n => .ok n
  | .flag b => .ok (if b then 1 else 0)
  | .real x => integerOfReal x
  | .text s => integerOfText s
  | _ => .error .notInteger

/-- Reads an integer of at least `bound`. -/
def integerAtLeast (bound : Int) (v : Value) : Except Defect Int :=
  match integer v with
  | .ok n => if n < bound then .error (.below bound) else .ok n
  | .error d => .error d

/-- Reads an integer or null. -/
def optionalInteger : Value → Except Defect (Option Int)
  | .null => .ok none
  | v =>
    match integer v with
    | .ok n => .ok (some n)
    | .error d => .error d

/-- Reads a real. -/
def real : Value → Except Defect Binary64
  | .real x => .ok x
  | .int n => if (Binary64.ofInt n).isFinite then .ok (Binary64.ofInt n) else .error .notReal
  | .flag b => .ok (Binary64.ofInt (if b then 1 else 0))
  | .text s =>
    match readReal? s with
    | some x => .ok x
    | none => .error .unreadableReal
  | _ => .error .notReal

/-- Reads a real greater than zero. -/
def positiveReal (v : Value) : Except Defect Binary64 :=
  match real v with
  | .ok x => if x.isPositive then .ok x else .error (.notAbove 0)
  | .error d => .error d

/-- The words for true. -/
def yesWords : List String := ["1", "true", "t", "yes", "y", "on"]

/-- The words for false. -/
def noWords : List String := ["0", "false", "f", "no", "n", "off"]

/-- The text with its ASCII capitals in lower case. -/
def lowerAscii (s : String) : String := String.ofList (s.toList.map Char.toLower)

/-- Reads a flag from an integer, which has to have 64 bits at most to be taken for one. -/
def flagOfInteger (n : Int) : Except Defect Bool :=
  if n = 1 then .ok true
  else if n = 0 then .ok false
  else if fitsWord n then .error .unreadableFlag
  else .error .notFlag

/-- Reads a flag. -/
def flag : Value → Except Defect Bool
  | .flag b => .ok b
  | .int n => flagOfInteger n
  | .real x =>
    match integerOfReal x with
    | .ok n => flagOfInteger n
    | .error _ => .error .notFlag
  | .text s =>
    if yesWords.contains (lowerAscii s) then .ok true
    else if noWords.contains (lowerAscii s) then .ok false
    else .error .unreadableFlag
  | _ => .error .notFlag

@[simp] theorem integer_int (n : Int) : integer (.int n) = .ok n := rfl

@[simp] theorem text_eq_ok_iff (v : Value) (s : String) : text v = .ok s ↔ v = .text s := by
  cases v <;> simp [text]

theorem le_of_integerAtLeast {bound n : Int} {v : Value} (h : integerAtLeast bound v = .ok n) :
    bound ≤ n := by
  unfold integerAtLeast at h
  split at h
  · split at h
    · cases h
    · cases h
      omega
  · cases h

theorem isPositive_of_positiveReal {x : Binary64} {v : Value} (h : positiveReal v = .ok x) :
    x.isPositive = true := by
  unfold positiveReal at h
  split at h
  · split at h
    · next hx =>
      cases h
      exact hx
    · cases h
  · cases h

end CharacterLedger.Field
