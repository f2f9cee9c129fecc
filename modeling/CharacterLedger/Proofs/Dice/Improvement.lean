import CharacterLedger.Proofs.Dice.Rules
import Mathlib.Data.List.Forall2

/-!
# More dice and higher faces

A roll never gets worse by more dice, nor by higher faces.  That is not plain from the rules: with no
dice two are rolled and the lowest is kept, with one die only the first of these counts, and two
sixes are critical only when there are dice for them.

* `Degree.rank` — the degrees in their order;
* `Outcome.NoBetter` — an outcome has no higher result and no better degree than another;
* `keptOf_le_keptOf` — a lower rating on lower faces keeps no higher face;
* `count_six_le` — nor does it have more sixes;
* `roll_noBetter` — so the roll is no better, and `roll_improves` is the same for the two ways in
  which it may be worse.
-/

namespace CharacterLedger.Dice

/-! ### The order of outcomes -/

/-- The place of a degree, the worst first. -/
def Degree.rank : Degree → Nat
  | failure => 0
  | partialSuccess => 1
  | fullSuccess => 2
  | criticalSuccess => 3

/-- An outcome has no higher result and no better degree than another. -/
structure Outcome.NoBetter (o o' : Outcome) : Prop where
  result : ∃ kept kept' : Int, o.result = .int kept ∧ o'.result = .int kept' ∧ kept ≤ kept'
  degree : o.degree.rank ≤ o'.degree.rank

/-- An outcome is no better if the kept face is no higher, and is critical only if the other is. -/
theorem noBetter_outcomeOf {rating rating' : Int} {faces faces' : List Int}
    (hkept : keptOf (keepFor rating) faces ≤ keptOf (keepFor rating') faces')
    (hcritical : 2 ≤ rating ∧ 2 ≤ faces.count 6 → 2 ≤ rating' ∧ 2 ≤ faces'.count 6) :
    (outcomeOf rating faces).NoBetter (outcomeOf rating' faces') := by
  refine ⟨⟨_, _, rfl, rfl, hkept⟩, ?_⟩
  change (degreeFor rating faces).rank ≤ (degreeFor rating' faces').rank
  unfold degreeFor
  by_cases hboth : 2 ≤ rating ∧ 2 ≤ faces.count 6
  · simp only [if_pos hboth, if_pos (hcritical hboth), Nat.le_refl]
  · rw [if_neg hboth]
    split_ifs <;> first | decide | omega

/-! ### Lower faces -/

/-- Of lists that are related one by one, each member of the first is related to one of the
second. -/
theorem exists_mem_of_forall₂ {R : Int → Int → Prop} {faces faces' : List Int}
    (h : List.Forall₂ R faces faces') {face : Int} (hface : face ∈ faces) :
    ∃ face' ∈ faces', R face face' := by
  induction h with
  | nil => cases hface
  | cons hrelated _ ih =>
    obtain rfl | hrest := List.mem_cons.1 hface
    · exact ⟨_, List.mem_cons_self, hrelated⟩
    · obtain ⟨face', hface', hrelated'⟩ := ih hrest
      exact ⟨face', List.mem_cons_of_mem _ hface', hrelated'⟩

section Lower

variable {faces faces' : List Int} (h : List.Forall₂ (· ≤ ·) faces faces')
include h

/-- Lower faces have no more sixes. -/
theorem count_six_le (hwithin : ∀ face ∈ faces', face ≤ 6) : faces.count 6 ≤ faces'.count 6 := by
  induction h with
  | nil => exact Nat.le_refl _
  | @cons face face' faces faces' hle _ ih =>
    have hface := hwithin face' List.mem_cons_self
    have hrest := ih fun other hother => hwithin other (List.mem_cons_of_mem _ hother)
    rw [List.count_cons, List.count_cons]
    -- a six that is not lowered stays a six
    by_cases hsix : face = 6
    · have hsix' : face' = 6 := by omega
      simpa [hsix, hsix'] using hrest
    · simp only [hsix, beq_iff_eq, if_false]
      omega

/-- The lowest of lower faces is no higher. -/
theorem keptOf_lowest_le (hne : faces' ≠ []) : keptOf .lowest faces ≤ keptOf .lowest faces' := by
  have hflipped : List.Forall₂ (fun a b => b ≤ a) faces' faces := h.flip
  obtain ⟨face, hface, hle⟩ := exists_mem_of_forall₂ hflipped (keptOf_mem .lowest hne)
  exact Int.le_trans (keptOf_le hface) hle

/-- The highest of lower faces is no higher, whatever faces there are besides the others. -/
theorem keptOf_highest_le (hne : faces ≠ []) {more : List Int} (hmore : faces' ⊆ more) :
    keptOf .highest faces ≤ keptOf .highest more := by
  obtain ⟨face', hface', hle⟩ := exists_mem_of_forall₂ h (keptOf_mem .highest hne)
  exact Int.le_trans hle (le_keptOf (hmore hface'))

end Lower

/-! ### Lower ratings on lower faces -/

section Rolls

variable {rating rating' : Int} {faces faces' : List Int}

/-- Every roll has a die, even that of an empty pool. -/
theorem diceFor_pos (n : Nat) : 0 < diceFor n := by
  unfold diceFor zeroPoolDice
  split <;> omega

/-- The first face that is shown belongs to every roll. -/
theorem head_mem_take (face : Int) (faces : List Int) (n : Nat) :
    face ∈ (face :: faces).take (diceFor n) := by
  obtain ⟨k, hk⟩ := Nat.exists_eq_succ_of_ne_zero (Nat.ne_of_gt (diceFor_pos n))
  rw [hk, List.take_succ_cons]
  exact List.mem_cons_self

theorem take_ne_nil {n : Nat} (h : diceFor n ≤ faces.length) : faces.take (diceFor n) ≠ [] := by
  cases faces with
  | nil => exact absurd h (Nat.not_le.2 (diceFor_pos n))
  | cons face faces => exact List.ne_nil_of_mem (head_mem_take face faces n)

/-- A roll of no dice keeps no higher face than one of some dice: the first face lies between
them. -/
theorem keptOf_lowest_le_highest {n n' : Nat} (h : List.Forall₂ (· ≤ ·) faces faces')
    (hdice : diceFor n ≤ faces.length) :
    keptOf .lowest (faces.take (diceFor n)) ≤ keptOf .highest (faces'.take (diceFor n')) := by
  cases h with
  | nil => exact absurd hdice (Nat.not_le.2 (diceFor_pos n))
  | @cons face face' faces faces' hle _ =>
    calc keptOf .lowest ((face :: faces).take (diceFor n)) ≤ face :=
          keptOf_le (head_mem_take face faces n)
      _ ≤ face' := hle
      _ ≤ keptOf .highest ((face' :: faces').take (diceFor n')) :=
          le_keptOf (head_mem_take face' faces' n')

/-- **A lower rating on lower faces keeps no higher face.** -/
theorem keptOf_le_keptOf (hrating : rating ≤ rating') (h : List.Forall₂ (· ≤ ·) faces faces')
    (hdice : diceFor rating.toNat ≤ faces.length) (hdice' : diceFor rating'.toNat ≤ faces'.length) :
    keptOf (keepFor rating) (faces.take (diceFor rating.toNat)) ≤
      keptOf (keepFor rating') (faces'.take (diceFor rating'.toNat)) := by
  have hprefix := List.forall₂_take (diceFor rating.toNat) h
  by_cases hnone' : rating' ≤ 0
  · have hnone : rating ≤ 0 := Int.le_trans hrating hnone'
    have hsame : rating.toNat = rating'.toNat := by omega
    rw [keepFor, if_pos hnone, keepFor, if_pos hnone', ← hsame]
    exact keptOf_lowest_le hprefix (take_ne_nil (hsame ▸ hdice'))
  · rw [keepFor, keepFor, if_neg hnone']
    by_cases hnone : rating ≤ 0
    · rw [if_pos hnone]
      exact keptOf_lowest_le_highest h hdice
    · have hmore : diceFor rating.toNat ≤ diceFor rating'.toNat := by
        unfold diceFor
        split <;> split <;> omega
      rw [if_neg hnone]
      exact keptOf_highest_le hprefix (take_ne_nil hdice) (List.take_subset_take_left faces' hmore)

/-- Nor does it have two sixes for two dice without the other. -/
theorem critical_of_le (hrating : rating ≤ rating') (h : List.Forall₂ (· ≤ ·) faces faces')
    (hwithin : ∀ face ∈ faces', face ≤ 6)
    (hcritical : 2 ≤ rating ∧ 2 ≤ (faces.take (diceFor rating.toNat)).count 6) :
    2 ≤ rating' ∧ 2 ≤ (faces'.take (diceFor rating'.toNat)).count 6 := by
  obtain ⟨htwo, hsixes⟩ := hcritical
  have hmore : diceFor rating.toNat ≤ diceFor rating'.toNat := by
    unfold diceFor
    split <;> split <;> omega
  refine ⟨Int.le_trans htwo hrating, ?_⟩
  calc 2 ≤ (faces.take (diceFor rating.toNat)).count 6 := hsixes
    _ ≤ (faces'.take (diceFor rating.toNat)).count 6 :=
      count_six_le (List.forall₂_take _ h) fun face hface => hwithin face (List.mem_of_mem_take hface)
    _ ≤ (faces'.take (diceFor rating'.toNat)).count 6 :=
      (List.take_sublist_take_left hmore).count_le 6

/-- A source that shows enough faces has an outcome, that of the first of them. -/
theorem roll_of_longer (hrating : rating ≤ 100) {e e' : Entropy} (hshows : e.Shows faces e')
    (hdice : diceFor rating.toNat ≤ faces.length) :
    (roll (.int rating) e).1 = .ok (outcomeOf rating (faces.take (diceFor rating.toNat))) := by
  obtain ⟨e'', hprefix⟩ := hshows.take (diceFor rating.toNat)
  rw [roll_of_shows hrating hprefix (List.length_take_of_le hdice)]

/-- **A lower rating on lower faces is no better.** -/
theorem roll_noBetter (hrating : rating ≤ rating') (hlimit : rating' ≤ 100) {e e' f f' : Entropy}
    (hshows : e.Shows faces e') (hshows' : f.Shows faces' f')
    (h : List.Forall₂ (· ≤ ·) faces faces') (hdice : diceFor rating.toNat ≤ faces.length)
    (hdice' : diceFor rating'.toNat ≤ faces'.length) :
    ∃ o o', (roll (.int rating) e).1 = .ok o ∧ (roll (.int rating') f).1 = .ok o' ∧
      o.NoBetter o' :=
  ⟨_, _, roll_of_longer (Int.le_trans hrating hlimit) hshows hdice,
    roll_of_longer hlimit hshows' hdice',
    noBetter_outcomeOf (keptOf_le_keptOf hrating h hdice hdice')
      (critical_of_le hrating h fun face hface => (hshows'.within face hface).2)⟩

end Rolls

/-- **Rolls improve with their dice and with the faces.**  Of two ratings that are rolled on one
source, the higher has no lower result and no worse degree; and so has one rating on a source whose
faces are one by one no lower. -/
theorem roll_improves :
    (∀ (rating rating' : Int) (e e' : Entropy) (faces : List Int), rating ≤ rating' →
      rating' ≤ 100 → e.Shows faces e' → diceFor rating.toNat ≤ faces.length →
      diceFor rating'.toNat ≤ faces.length →
      ∃ o o', (roll (.int rating) e).1 = .ok o ∧ (roll (.int rating') e).1 = .ok o' ∧
        o.NoBetter o') ∧
    ∀ (rating : Int) (e e' f f' : Entropy) (faces faces' : List Int), rating ≤ 100 →
      e.Shows faces e' → f.Shows faces' f' → List.Forall₂ (· ≤ ·) faces faces' →
      diceFor rating.toNat ≤ faces.length →
      ∃ o o', (roll (.int rating) e).1 = .ok o ∧ (roll (.int rating) f).1 = .ok o' ∧
        o.NoBetter o' := by
  constructor
  · intro rating rating' e e' faces hrating hlimit hshows hdice hdice'
    exact roll_noBetter hrating hlimit hshows hshows
      (List.forall₂_same.2 fun face _ => Int.le_refl face) hdice hdice'
  · intro rating e e' f f' faces faces' hlimit hshows hshows' h hdice
    exact roll_noBetter (Int.le_refl rating) hlimit hshows hshows' h hdice
      (h.length_eq ▸ hdice)

/-- No dice show a six and a two, and one die shows the six; and two dice get better when the two
becomes a six. -/
theorem roll_improves_of_six_and_two :
    (∃ o o', (roll (.int (-3)) (.script 0 ([6, 2].map .int ++ []))).1 = .ok o ∧
      (roll (.int 1) (.script 0 ([6, 2].map .int ++ []))).1 = .ok o' ∧ o.NoBetter o') ∧
    ∃ o o', (roll (.int 2) (.script 0 ([6, 2].map .int ++ []))).1 = .ok o ∧
      (roll (.int 2) (.script 0 ([6, 6].map .int ++ []))).1 = .ok o' ∧ o.NoBetter o' := by
  have hshows := @Entropy.shows_script 0 [6, 2] [] (by decide)
  have hshows' := @Entropy.shows_script 0 [6, 6] [] (by decide)
  exact ⟨roll_improves.1 (-3) 1 _ _ [6, 2] (by decide) (by decide) hshows (by decide) (by decide),
    roll_improves.2 2 _ _ _ _ [6, 2] [6, 6] (by decide) hshows hshows' (by decide) (by decide)⟩

end CharacterLedger.Dice
