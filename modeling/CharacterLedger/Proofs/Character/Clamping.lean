import Mathlib.Algebra.Order.BigOperators.Group.List
import Mathlib.Algebra.Ring.Int.Defs
import CharacterLedger.Character.Rating

/-!
# Series of adjustments

Adjusting a rating adds a number to it and stays within the range.  Numbers of one direction may be
added one by one, in any order, or all at once: the rating that comes of them is nearest to the whole
sum.  Numbers of both directions may not, since the rating may have to be held at an end on the way.
Still a higher rating stays higher, ratings do not draw apart, and an adjustment by the whole range
makes all that was before it forgotten.

* `Rating.adjust`, `Rating.adjusted`, `Rating.course` — a rating after one adjustment, after a series
  of them, and after each of them;
* `OneWay` — numbers of one direction;
* `adjusted_of_oneWay`, `getElem?_course_of_oneWay`, `pairwise_course` — series of one direction;
* `adjusted_mono`, `distance_adjusted_le`, `adjusted_forgets` — any series.
-/

namespace CharacterLedger

namespace Rating

/-! ### Series -/

/-- The rating after an adjustment. -/
def adjust (r : Rating) (delta : Int) : Rating := clamp (r.toInt + delta)

/-- The rating after a series of adjustments. -/
def adjusted (r : Rating) (deltas : List Int) : Rating := deltas.foldl adjust r

/-- The ratings after each adjustment of a series. -/
def course (r : Rating) : List Int → List Rating
  | [] => []
  | delta :: deltas => r.adjust delta :: course (r.adjust delta) deltas

@[simp] theorem adjusted_cons (r : Rating) (delta : Int) (deltas : List Int) :
    r.adjusted (delta :: deltas) = (r.adjust delta).adjusted deltas := rfl

@[simp] theorem adjusted_append (r : Rating) (deltas more : List Int) :
    r.adjusted (deltas ++ more) = (r.adjusted deltas).adjusted more := List.foldl_append

theorem toInt_adjust (r : Rating) (delta : Int) :
    (r.adjust delta).toInt = max least (min greatest (r.toInt + delta)) := toInt_clamp _

theorem toInt_bounds (r : Rating) : least ≤ r.toInt ∧ r.toInt ≤ greatest := by
  have hlt := r.isLt
  simp only [least, greatest, toInt]
  omega

theorem toInt_le_iff (r r' : Rating) : r.toInt ≤ r'.toInt ↔ r ≤ r' := by
  simp only [toInt, Fin.le_def, Int.ofNat_le]

theorem toInt_injective {r r' : Rating} (h : r.toInt = r'.toInt) : r = r' :=
  Fin.ext (Int.ofNat_inj.1 h)

theorem length_course (r : Rating) (deltas : List Int) :
    (r.course deltas).length = deltas.length := by
  induction deltas generalizing r with
  | nil => rfl
  | cons delta deltas ih => rw [course, List.length_cons, List.length_cons, ih]

/-- Each rating on the way is what comes of the series up to there. -/
theorem getElem?_course (r : Rating) (deltas : List Int) (n : Nat) :
    (r.course deltas)[n]? =
      if n < deltas.length then some (r.adjusted (deltas.take (n + 1))) else none := by
  induction deltas generalizing r n with
  | nil => rfl
  | cons delta deltas ih =>
    cases n with
    | zero => rfl
    | succ n =>
      rw [course, List.getElem?_cons_succ, ih]
      simp only [List.length_cons, Nat.add_lt_add_iff_right, List.take_succ_cons, adjusted_cons]

/-- The last rating on the way is the one in the end. -/
theorem getLast?_course (r : Rating) {deltas : List Int} (h : deltas ≠ []) :
    (r.course deltas).getLast? = some (r.adjusted deltas) := by
  have hpositive := List.length_pos_of_ne_nil h
  rw [List.getLast?_eq_getElem?, length_course, getElem?_course, if_pos (by omega),
    Nat.sub_add_cancel hpositive, List.take_length]

/-! ### Series of one direction -/

/-- Numbers none of which is negative, or none of which is positive. -/
def OneWay (deltas : List Int) : Prop := (∀ d ∈ deltas, 0 ≤ d) ∨ ∀ d ∈ deltas, d ≤ 0

variable {r : Rating} {deltas : List Int}

theorem OneWay.of_subset {other : List Int} (h : OneWay deltas)
    (hsubset : ∀ d ∈ other, d ∈ deltas) : OneWay other := by
  obtain hup | hdown := h
  · exact .inl fun d hd => hup d (hsubset d hd)
  · exact .inr fun d hd => hdown d (hsubset d hd)

theorem OneWay.of_perm {other : List Int} (h : OneWay deltas) (hperm : other.Perm deltas) :
    OneWay other :=
  h.of_subset fun _ hd => hperm.mem_iff.1 hd

/-- The first number and the sum of the others are of one direction. -/
theorem OneWay.cons {delta : Int} (h : OneWay (delta :: deltas)) :
    (0 ≤ delta ∧ 0 ≤ deltas.sum ∨ delta ≤ 0 ∧ deltas.sum ≤ 0) ∧ OneWay deltas := by
  refine ⟨?_, h.of_subset fun d => List.mem_cons_of_mem delta⟩
  obtain hup | hdown := h
  · obtain ⟨hfirst, hrest⟩ := List.forall_mem_cons.1 hup
    exact .inl ⟨hfirst, List.sum_nonneg hrest⟩
  · obtain ⟨hfirst, hrest⟩ := List.forall_mem_cons.1 hdown
    exact .inr ⟨hfirst, (List.sum_le_card_nsmul deltas 0 hrest).trans_eq (nsmul_zero _)⟩

/-- **A series of one direction comes to what its sum comes to.**  It is held at an end once at most,
and from then on the sum lies beyond this end. -/
theorem adjusted_of_oneWay (h : OneWay deltas) :
    r.adjusted deltas = clamp (r.toInt + deltas.sum) := by
  induction deltas generalizing r with
  | nil =>
    rw [List.sum_nil, Int.add_zero, clamp_toInt]
    rfl
  | cons delta deltas ih =>
    obtain ⟨hsigns, hrest⟩ := h.cons
    have hbounds := r.toInt_bounds
    rw [adjusted_cons, ih hrest, List.sum_cons]
    apply toInt_injective
    simp only [toInt_clamp, toInt_adjust, least, greatest] at hbounds ⊢
    omega

/-- Every rating on the way comes of a partial sum. -/
theorem getElem?_course_of_oneWay (h : OneWay deltas) (n : Nat) :
    (r.course deltas)[n]? =
      if n < deltas.length then some (clamp (r.toInt + (deltas.take (n + 1)).sum)) else none := by
  rw [getElem?_course, adjusted_of_oneWay (h.of_subset fun d => List.mem_of_mem_take)]

/-- The ratings on the way up do not fall. -/
theorem pairwise_course_of_nonneg (h : ∀ d ∈ deltas, 0 ≤ d) :
    (∀ r' ∈ r.course deltas, r ≤ r') ∧ (r.course deltas).Pairwise (· ≤ ·) := by
  induction deltas generalizing r with
  | nil => exact ⟨nofun, .nil⟩
  | cons delta deltas ih =>
    obtain ⟨hfirst, hrest⟩ := List.forall_mem_cons.1 h
    obtain ⟨habove, hpairwise⟩ := ih hrest (r := r.adjust delta)
    have hrises : r ≤ r.adjust delta := by
      have hbounds := r.toInt_bounds
      rw [← toInt_le_iff, toInt_adjust]
      simp only [least, greatest] at hbounds ⊢
      omega
    refine ⟨?_, List.pairwise_cons.2 ⟨habove, hpairwise⟩⟩
    exact List.forall_mem_cons.2 ⟨hrises, fun r' hr' => Fin.le_trans hrises (habove r' hr')⟩

/-- The ratings on the way down do not rise. -/
theorem pairwise_course_of_nonpos (h : ∀ d ∈ deltas, d ≤ 0) :
    (∀ r' ∈ r.course deltas, r' ≤ r) ∧ (r.course deltas).Pairwise (· ≥ ·) := by
  induction deltas generalizing r with
  | nil => exact ⟨nofun, .nil⟩
  | cons delta deltas ih =>
    obtain ⟨hfirst, hrest⟩ := List.forall_mem_cons.1 h
    obtain ⟨hbelow, hpairwise⟩ := ih hrest (r := r.adjust delta)
    have hfalls : r.adjust delta ≤ r := by
      have hbounds := r.toInt_bounds
      rw [← toInt_le_iff, toInt_adjust]
      simp only [least, greatest] at hbounds ⊢
      omega
    refine ⟨?_, List.pairwise_cons.2 ⟨hbelow, hpairwise⟩⟩
    exact List.forall_mem_cons.2 ⟨hfalls, fun r' hr' => Fin.le_trans (hbelow r' hr') hfalls⟩

/-- **The ratings on the way go one way** when all numbers do. -/
theorem pairwise_course (h : OneWay deltas) :
    (r.course deltas).Pairwise (· ≤ ·) ∨ (r.course deltas).Pairwise (· ≥ ·) := by
  obtain hup | hdown := h
  · exact .inl (pairwise_course_of_nonneg hup).2
  · exact .inr (pairwise_course_of_nonpos hdown).2

/-- Up and down again is not the same as down and up again. -/
example : (4 : Rating).adjusted [1, -1] = 3 ∧ (4 : Rating).adjusted [-1, 1] = 4 := by decide

/-! ### Any series -/

variable {r' : Rating}

/-- **A higher rating stays higher.** -/
theorem adjusted_mono (h : r ≤ r') (deltas : List Int) : r.adjusted deltas ≤ r'.adjusted deltas := by
  induction deltas generalizing r r' with
  | nil => exact h
  | cons delta deltas ih =>
    refine ih ?_
    rw [← toInt_le_iff] at h ⊢
    rw [toInt_adjust, toInt_adjust]
    omega

/-- How far two ratings are apart. -/
def distance (r r' : Rating) : Nat := (r.toInt - r'.toInt).natAbs

/-- **Ratings do not draw apart.** -/
theorem distance_adjusted_le (r r' : Rating) (deltas : List Int) :
    distance (r.adjusted deltas) (r'.adjusted deltas) ≤ distance r r' := by
  induction deltas generalizing r r' with
  | nil => exact Nat.le_refl _
  | cons delta deltas ih =>
    have hstep : distance (r.adjust delta) (r'.adjust delta) ≤ distance r r' := by
      unfold distance
      rw [toInt_adjust, toInt_adjust]
      omega
    exact (ih _ _).trans hstep

/-- An adjustment by the whole range comes to an end of it. -/
theorem adjust_of_greatest {delta : Int} (h : greatest ≤ delta ∨ delta ≤ -greatest)
    (r r' : Rating) : r.adjust delta = r'.adjust delta := by
  have hbounds := r.toInt_bounds
  have hbounds' := r'.toInt_bounds
  apply toInt_injective
  rw [toInt_adjust, toInt_adjust]
  simp only [least, greatest] at h hbounds hbounds' ⊢
  omega

/-- **An adjustment by the whole range forgets** the rating and all adjustments before it. -/
theorem adjusted_forgets {delta : Int} (h : greatest ≤ delta ∨ delta ≤ -greatest)
    (r r' : Rating) (before before' after : List Int) :
    r.adjusted (before ++ delta :: after) = r'.adjusted (before' ++ delta :: after) := by
  rw [adjusted_append, adjusted_append, adjusted_cons, adjusted_cons,
    adjust_of_greatest h (r.adjusted before) (r'.adjusted before')]

end Rating

end CharacterLedger
