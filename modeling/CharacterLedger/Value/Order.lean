import CharacterLedger.Number.Arithmetic
import CharacterLedger.Value.Mismatch

/-!
# The order of values

Numbers of all types compare by their exact values, flags as one and zero; texts compare by their
characters, and lists by the first items that are not equal. Other values do not compare.
-/

namespace CharacterLedger.Value

open CharacterLedger.Number

/-- The number that a value is, if it is one, as an exact number. -/
def number? : Value → Option Binary64
  | .int n => some (.exactly n)
  | .flag b => some (.exactly (if b then 1 else 0))
  | .real x => some x
  | _ => none

mutual

/-- Whether two values are equal. The order of the fields of an object does not count. -/
def isEqual : Value → Value → Bool
  | .null, .null => true
  | .text s, .text t => s == t
  | .list vs, .list ws => areEqual vs ws
  | .object fs, .object gs => fs.length == gs.length && areFieldsOf fs gs
  | .flag b, w => w.number?.any ((Binary64.exactly (if b then 1 else 0)).isEqual)
  | .int n, w => w.number?.any ((Binary64.exactly n).isEqual)
  | .real x, w => w.number?.any x.isEqual
  | _, _ => false

/-- Whether two lists have equal items. -/
def areEqual : List Value → List Value → Bool
  | [], [] => true
  | v :: vs, w :: ws => isEqual v w && areEqual vs ws
  | _, _ => false

/-- Whether all fields are also among others, with equal values. -/
def areFieldsOf : List (String × Value) → List (String × Value) → Bool
  | [], _ => true
  | (name, v) :: fs, gs => (gs.lookup name).any (isEqual v) && areFieldsOf fs gs

end

/-- How two values may be related. -/
inductive Relation where
  | below
  | above
  | atLeast
deriving DecidableEq, Repr

namespace Relation

/-- The sign of a relation. -/
def symbol : Relation → String
  | below => "<"
  | above => ">"
  | atLeast => ">="

/-- Whether two numbers are related. -/
def ofNumbers : Relation → Binary64 → Binary64 → Bool
  | below, x, y => x.isLess y
  | above, x, y => y.isLess x
  | atLeast, x, y => y.isLess x || x.isEqual y

/-- Whether two texts are related. -/
def ofTexts : Relation → String → String → Bool
  | below, s, t => s < t
  | above, s, t => t < s
  | atLeast, s, t => !(s < t)

/-- Whether two lists of which one begins with the other are related, by their lengths. -/
def ofLengths : Relation → Nat → Nat → Bool
  | below, m, n => m < n
  | above, m, n => n < m
  | atLeast, m, n => n ≤ m

/-- The mismatch of two values. -/
def mismatch (r : Relation) (v w : Value) : Mismatch := .compare r.symbol v.kind w.kind

end Relation

mutual

/-- Whether two values are related. -/
def compare (r : Relation) : Value → Value → Except Mismatch Bool
  | .text s, .text t => .ok (r.ofTexts s t)
  | .list vs, .list ws => compareLists r vs ws
  | v, w =>
    match v.number?, w.number? with
    | some x, some y => .ok (r.ofNumbers x y)
    | _, _ => .error (r.mismatch v w)

/-- Whether two lists are related. -/
def compareLists (r : Relation) : List Value → List Value → Except Mismatch Bool
  | v :: vs, w :: ws => if v.isEqual w then compareLists r vs ws else compare r v w
  | vs, ws => .ok (r.ofLengths vs.length ws.length)

end

/-- The sum of an integer and a value. -/
def plus (n : Int) (v : Value) : Except Mismatch Value :=
  match v with
  | .int m => .ok (.int (n + m))
  | .flag b => .ok (.int (n + if b then 1 else 0))
  | .real x => .ok (.real ((Binary64.ofInt n).add x))
  | v => .error (.add v.kind)

/-- The number as an integer, a real without its fraction. -/
def truncated : Value → Int
  | .int n => n
  | .flag b => if b then 1 else 0
  | .real x => x.truncated
  | _ => 0

@[simp] theorem compare_below_int (a b : Int) :
    compare .below (.int a) (.int b) = .ok (decide (a < b)) := by
  simp [compare, number?, Relation.ofNumbers]

@[simp] theorem compare_above_int (a b : Int) :
    compare .above (.int a) (.int b) = .ok (decide (b < a)) := by
  simp [compare, number?, Relation.ofNumbers]

@[simp] theorem compare_atLeast_int (a b : Int) :
    compare .atLeast (.int a) (.int b) = .ok (decide (b ≤ a)) := by
  have h : (decide (b < a) || a == b) = decide (b ≤ a) := by
    rw [Bool.eq_iff_iff]
    simp
    omega
  simp [compare, number?, Relation.ofNumbers, h]

@[simp] theorem isEqual_int (a b : Int) : isEqual (.int a) (.int b) = (a == b) := by
  simp [isEqual, number?]

end CharacterLedger.Value
