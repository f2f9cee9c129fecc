import CharacterLedger.Dice.Outcome

/-!
# Faces in their order

A source of faces is a stream: what is drawn next depends on nothing but how much has been drawn.
Of faces that are integers, the highest or the lowest is kept.

* `Entropy.behind`, `Entropy.face?` — a source behind some of its faces, and its faces by number;
* `Entropy.behind_draw` — drawing goes on behind what has been drawn;
* `keptFace_highest`, `keptFace_lowest` — the kept face of integers.
-/

namespace CharacterLedger.Dice

/-! ### The faces of a source -/

namespace Entropy

/-- The source behind its next `n` faces, if there are as many. -/
def behind : Nat → Entropy → Option Entropy
  | 0, e => some e
  | n + 1, e =>
    match e.next with
    | none => none
    | some (_, e) => behind n e

/-- The face that is drawn after `i` others. -/
def face? (e : Entropy) (i : Nat) : Option Value :=
  (behind i e).bind fun e => e.next.map Prod.fst

theorem behind_add (m n : Nat) (e : Entropy) : behind (m + n) e = (behind m e).bind (behind n) := by
  induction m generalizing e with
  | zero =>
    rw [Nat.zero_add]
    rfl
  | succ m ih =>
    rw [Nat.add_right_comm]
    cases h : e.next with
    | none => simp [behind, h]
    | some r => simp [behind, h, ih]

/-- The faces of a script are its values. -/
theorem face?_script (drawn : Nat) (rest : List Value) (i : Nat) :
    face? (script drawn rest) i = rest[i]? := by
  induction i generalizing drawn rest with
  | zero => cases rest <;> rfl
  | succ i ih =>
    cases rest with
    | nil => rfl
    | cons face rest => exact ih (drawn + 1) rest

/-- Drawing leaves the source behind as many faces as are drawn. -/
theorem behind_draw (n : Nat) (e : Entropy) :
    behind (draw n e).1.length e = some (draw n e).2.2 := by
  induction n generalizing e with
  | zero => rfl
  | succ n ih =>
    cases h : e.next with
    | none => simp [draw, h, behind]
    | some r => simp [draw, h, behind, ih]

end Entropy

/-! ### Kept faces -/

theorem keepBetter_highest (kept face : Int) :
    keepBetter .highest (.int kept) (.int face) = .ok (.int (max kept face)) := by
  rw [keepBetter, Value.compare_above_int, Except.map]
  by_cases h : kept < face
  · have : max kept face = face := by omega
    simp [h, this]
  · have : max kept face = kept := by omega
    simp [h, this]

theorem keepBetter_lowest (kept face : Int) :
    keepBetter .lowest (.int kept) (.int face) = .ok (.int (min kept face)) := by
  rw [keepBetter, Value.compare_below_int, Except.map]
  by_cases h : face < kept
  · have : min kept face = face := by omega
    simp [h, this]
  · have : min kept face = kept := by omega
    simp [h, this]

/-- Keeping one face after the other is a fold over the faces. -/
theorem foldlM_keepBetter {keep : Keep} {better : Int → Int → Int}
    (hbetter : ∀ kept face, keepBetter keep (.int kept) (.int face) = .ok (.int (better kept face)))
    (faces : List Int) (kept : Int) :
    (faces.map Value.int).foldlM (keepBetter keep) (.int kept) =
      .ok (.int (faces.foldl better kept)) := by
  induction faces generalizing kept with
  | nil => rfl
  | cons face faces ih =>
    rw [List.map_cons, List.foldlM_cons, hbetter]
    exact ih (better kept face)

theorem keptFace_highest (faces : List Int) :
    keptFace .highest (faces.map Value.int) = .ok (.int (faces.max?.getD 0)) := by
  cases faces with
  | nil => rfl
  | cons face faces => exact foldlM_keepBetter keepBetter_highest faces face

theorem keptFace_lowest (faces : List Int) :
    keptFace .lowest (faces.map Value.int) = .ok (.int (faces.min?.getD 0)) := by
  cases faces with
  | nil => rfl
  | cons face faces => exact foldlM_keepBetter keepBetter_lowest faces face

/-- A pool is critical when it has two sixes. -/
theorem areCritical_int (n : Nat) (faces : List Int) :
    areCritical n (faces.map Value.int) = decide (2 ≤ n ∧ 2 ≤ faces.count 6) := by
  have hcount : (faces.map Value.int).countP (fun face => face.isEqual (.int faceCount)) =
      faces.count 6 := by
    rw [List.countP_map, List.count]
    congr
    funext face
    exact Value.isEqual_int face 6
  rw [areCritical, hcount, Bool.decide_and]

end CharacterLedger.Dice
