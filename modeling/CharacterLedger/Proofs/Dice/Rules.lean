import CharacterLedger.Proofs.Dice.Blocks

/-!
# The rules of a roll

What a roll comes to is settled by its rating and by the faces that the source shows: by how many
dice there are, which face is kept, and how well that went.  The order of the faces does not count.

* `Entropy.Shows` — a source shows some faces of dice;
* `outcomeOf` — the outcome of a rating and of faces;
* `roll_of_shows` — rolling on a source that shows enough faces has that outcome;
* `Outcome.Obeys` — the rules, of which `obeys_outcomeOf` says that the outcome obeys them;
* `roll_obeys` — all of it for every rating and every source.

A source may be a script that ends too soon.  What a roll comes to then is `RollError.exhausted`, and
the rules say nothing of it.
-/

namespace CharacterLedger.Dice

/-! ### Faces that a source shows -/

/-- A source shows these faces one after the other, all of them faces of a die, and is the other
source then. -/
structure Entropy.Shows (e : Entropy) (faces : List Int) (e' : Entropy) : Prop where
  yields : e.Yields (faces.map .int) e'
  within : ∀ face ∈ faces, 1 ≤ face ∧ face ≤ faceCount

namespace Entropy

/-- Drawing as many values as a source gives takes them all. -/
theorem draw_of_yields {e e' : Entropy} {values : List Value} (h : e.Yields values e') :
    draw values.length e = (values, true, e') := by
  induction h with
  | nothing => rfl
  | value next _ ih =>
    simp only [List.length_cons, draw, next]
    rw [ih]

/-- What a source gives begins with what it gives. -/
theorem Yields.take {e e' : Entropy} {values : List Value} (h : e.Yields values e') (n : Nat) :
    ∃ e'', e.Yields (values.take n) e'' := by
  induction h generalizing n with
  | nothing => exact ⟨_, by rw [List.take_nil]; exact .nothing⟩
  | @value e _ _ face faces next _ ih =>
    cases n with
    | zero => exact ⟨e, .nothing⟩
    | succ n =>
      obtain ⟨e'', hrest⟩ := ih n
      exact ⟨e'', .value next hrest⟩

theorem Shows.take {e e' : Entropy} {faces : List Int} (h : e.Shows faces e') (n : Nat) :
    ∃ e'', e.Shows (faces.take n) e'' := by
  obtain ⟨e'', hyields⟩ := h.yields.take n
  rw [← List.map_take] at hyields
  exact ⟨e'', hyields, fun face hface => h.within face (List.mem_of_mem_take hface)⟩

/-- A script gives its values. -/
theorem yields_script (drawn : Nat) (values rest : List Value) :
    (script drawn (values ++ rest)).Yields values (script (drawn + values.length) rest) := by
  induction values generalizing drawn with
  | nil => exact .nothing
  | cons value values ih =>
    have hrest := ih (drawn + 1)
    rw [Nat.add_assoc, Nat.add_comm 1] at hrest
    exact .value rfl hrest

theorem shows_script (drawn : Nat) {faces : List Int} (rest : List Value)
    (hwithin : ∀ face ∈ faces, 1 ≤ face ∧ face ≤ faceCount) :
    (script drawn (faces.map .int ++ rest)).Shows faces (script (drawn + faces.length) rest) := by
  have hyields := yields_script drawn (faces.map .int) rest
  rw [List.length_map] at hyields
  exact ⟨hyields, hwithin⟩

end Entropy

/-! ### The outcome of a rating and of faces -/

/-- Which face is kept of a roll of `rating` dice. -/
def keepFor (rating : Int) : Keep := if rating ≤ 0 then .lowest else .highest

/-- The face of several that is kept. -/
def keptOf : Keep → List Int → Int
  | .highest, faces => faces.max?.getD 0
  | .lowest, faces => faces.min?.getD 0

/-- How well a roll of `rating` dice went that shows these faces. -/
def degreeFor (rating : Int) (faces : List Int) : Degree :=
  if 2 ≤ rating ∧ 2 ≤ faces.count 6 then .criticalSuccess
  else if 6 ≤ keptOf (keepFor rating) faces then .fullSuccess
  else if 4 ≤ keptOf (keepFor rating) faces then .partialSuccess
  else .failure

/-- The outcome of a roll of `rating` dice that shows these faces. -/
def outcomeOf (rating : Int) (faces : List Int) : Outcome where
  diceRolled := .int (diceFor rating.toNat)
  faces := faces.map .int
  degree := degreeFor rating faces
  result := .int (keptOf (keepFor rating) faces)
  keep := keepFor rating

theorem keptFace_int (keep : Keep) (faces : List Int) :
    keptFace keep (faces.map .int) = .ok (.int (keptOf keep faces)) := by
  cases keep with
  | highest => exact keptFace_highest faces
  | lowest => exact keptFace_lowest faces

theorem resolve_int (rating : Int) (faces : List Int) :
    resolve (.int (max rating 0)) rating.toNat (faces.map .int) = .ok (outcomeOf rating faces) := by
  have hcritical : (2 ≤ rating.toNat ∧ 2 ≤ faces.count 6) ↔ (2 ≤ rating ∧ 2 ≤ faces.count 6) := by
    omega
  unfold resolve resolveKeeping outcomeOf degreeFor keepFor diceFor
  by_cases hzero : rating ≤ 0
  · have hnat : rating.toNat = 0 := by omega
    have htwo : ¬2 ≤ rating := by omega
    simp only [hnat, hzero, htwo, if_true, keptFace_int, areCritical_int, classify_int, Except.map]
    rfl
  · have hnat : rating.toNat ≠ 0 := by omega
    have hdice : max rating 0 = (rating.toNat : Int) := by omega
    simp only [hdice, hnat, hzero, if_false, keptFace_int, areCritical_int, classify_int,
      Except.map, decide_eq_true_eq, hcritical]

/-- **A roll on a source that shows enough faces** takes them all, and has their outcome. -/
theorem roll_of_shows {rating : Int} (hrating : rating ≤ 100) {e e' : Entropy} {faces : List Int}
    (hshows : e.Shows faces e') (hlength : faces.length = diceFor rating.toNat) :
    roll (.int rating) e = (.ok (outcomeOf rating faces), e') := by
  have hdraw := Entropy.draw_of_yields hshows.yields
  rw [List.length_map, hlength] at hdraw
  rw [roll_int, if_neg (show ¬mostDice < rating from Int.not_lt.2 hrating), rollPool, hdraw]
  simp only [resolve_int, if_true]
  rfl

/-! ### The rules -/

/-- The rules for an outcome of `rating` dice that show these faces. -/
structure Outcome.Obeys (o : Outcome) (rating : Int) (shown : List Int) (kept : Int) : Prop where
  /-- The faces stand in the order in which they are shown. -/
  faces : o.faces = shown.map .int
  /-- As many dice are rolled as the rating says, or two. -/
  dice : o.diceRolled = .int (if 1 ≤ rating then rating else 2)
  keep : o.keep = .lowest ↔ rating ≤ 0
  /-- The kept face is one of those that are shown, and bounds them. -/
  result : o.result = .int kept
  mem : kept ∈ shown
  highest : o.keep = .highest → ∀ face ∈ shown, face ≤ kept
  lowest : o.keep = .lowest → ∀ face ∈ shown, kept ≤ face
  /-- Two sixes are critical, for two dice or more. -/
  critical : o.degree = .criticalSuccess ↔ 2 ≤ rating ∧ 2 ≤ shown.count 6
  full : o.degree = .fullSuccess ↔ o.degree ≠ .criticalSuccess ∧ kept = 6
  partly : o.degree = .partialSuccess ↔ o.degree ≠ .criticalSuccess ∧ (kept = 4 ∨ kept = 5)
  failure : o.degree = .failure ↔ o.degree ≠ .criticalSuccess ∧ 1 ≤ kept ∧ kept ≤ 3

/-- The kept face is one of the faces. -/
theorem keptOf_mem (keep : Keep) {faces : List Int} (h : faces ≠ []) : keptOf keep faces ∈ faces := by
  cases keep with
  | highest =>
    rw [keptOf, List.max?_eq_some_max h, Option.getD_some]
    exact List.max_mem h
  | lowest =>
    rw [keptOf, List.min?_eq_some_min h, Option.getD_some]
    exact List.min_mem h

/-- No face is above the highest. -/
theorem le_keptOf {faces : List Int} {face : Int} (h : face ∈ faces) :
    face ≤ keptOf .highest faces := by
  have hne := List.ne_nil_of_mem h
  rw [keptOf, List.max?_eq_some_max hne, Option.getD_some]
  exact List.le_max_of_mem h

/-- No face is below the lowest. -/
theorem keptOf_le {faces : List Int} {face : Int} (h : face ∈ faces) :
    keptOf .lowest faces ≤ face := by
  have hne := List.ne_nil_of_mem h
  rw [keptOf, List.min?_eq_some_min hne, Option.getD_some]
  exact List.min_le_of_mem h

/-- A kept face is one that is shown and that bounds the others. -/
theorem eq_keptOf_highest {faces : List Int} {kept : Int} (hmem : kept ∈ faces)
    (hbounds : ∀ face ∈ faces, face ≤ kept) : kept = keptOf .highest faces :=
  Int.le_antisymm (le_keptOf hmem) (hbounds _ (keptOf_mem .highest (List.ne_nil_of_mem hmem)))

theorem eq_keptOf_lowest {faces : List Int} {kept : Int} (hmem : kept ∈ faces)
    (hbounds : ∀ face ∈ faces, kept ≤ face) : kept = keptOf .lowest faces :=
  Int.le_antisymm (hbounds _ (keptOf_mem .lowest (List.ne_nil_of_mem hmem))) (keptOf_le hmem)

/-- The order of the faces does not count for the one that is kept. -/
theorem keptOf_perm (keep : Keep) {faces others : List Int} (h : faces.Perm others) :
    keptOf keep faces = keptOf keep others := by
  by_cases hempty : faces = []
  · subst hempty
    rw [h.nil_eq]
  · have hmem := h.mem_iff.1 (keptOf_mem keep hempty)
    cases keep with
    | highest => exact eq_keptOf_highest hmem fun face hface => le_keptOf (h.mem_iff.2 hface)
    | lowest => exact eq_keptOf_lowest hmem fun face hface => keptOf_le (h.mem_iff.2 hface)

/-- Nor does it count for the degree. -/
theorem degreeFor_perm (rating : Int) {faces others : List Int} (h : faces.Perm others) :
    degreeFor rating faces = degreeFor rating others := by
  rw [degreeFor, degreeFor, h.count_eq, keptOf_perm _ h]

/-- **The outcome obeys the rules**, if as many faces are shown as there are dice. -/
theorem obeys_outcomeOf {rating : Int} {faces : List Int}
    (hlength : faces.length = diceFor rating.toNat)
    (hwithin : ∀ face ∈ faces, 1 ≤ face ∧ face ≤ faceCount) :
    (outcomeOf rating faces).Obeys rating faces (keptOf (keepFor rating) faces) := by
  have hdice : (diceFor rating.toNat : Int) = if 1 ≤ rating then rating else 2 := by
    unfold diceFor zeroPoolDice
    split <;> split <;> omega
  have hne : faces ≠ [] := by
    rintro rfl
    rw [List.length_nil] at hlength
    unfold diceFor zeroPoolDice at hlength
    split at hlength <;> omega
  have hmem := keptOf_mem (keepFor rating) hne
  obtain ⟨hleast, hgreatest⟩ := hwithin _ hmem
  rw [show (faceCount : Int) = 6 from rfl] at hgreatest
  have hkeep : keepFor rating = .lowest ↔ rating ≤ 0 := by
    unfold keepFor
    split <;> simp_all
  exact {
    faces := rfl
    dice := congrArg Value.int hdice
    keep := hkeep
    result := rfl
    mem := hmem
    highest := fun hhighest face hface => by
      rw [show keepFor rating = .highest from hhighest]
      exact le_keptOf hface
    lowest := fun hlowest face hface => by
      rw [show keepFor rating = .lowest from hlowest]
      exact keptOf_le hface
    critical := by grind [outcomeOf, degreeFor]
    full := by grind [outcomeOf, degreeFor]
    partly := by grind [outcomeOf, degreeFor]
    failure := by grind [outcomeOf, degreeFor] }

/-! ### Every roll -/

/-- Once there are dice on the table, their number is not refused. -/
theorem rollPool_ne_badPool (pool : Value) (n : Nat) (e : Entropy) (b : BadPool) :
    (rollPool pool n e).1 ≠ .error (.badPool b) := by
  unfold rollPool
  rcases e.draw (diceFor n) with ⟨faces, complete, e'⟩
  cases complete with
  | false => simp
  | true =>
    cases hresolve : resolve pool n faces <;>
      (simp only [hresolve, if_true]; exact fun h => by cases h)

/-- A rating is refused exactly when it is above the limit. -/
theorem roll_badPool_iff (rating : Int) (e : Entropy) :
    (roll (.int rating) e).1 = .error (.badPool ⟨.tooLarge, .int rating⟩) ↔ 100 < rating := by
  rw [roll_int]
  constructor
  · intro hrefused
    split at hrefused
    · next hlarge => exact hlarge
    · exact absurd hrefused (rollPool_ne_badPool _ _ _ _)
  · intro hlarge
    rw [if_pos (show mostDice < rating from hlarge)]

/-- What does not depend on the order of the faces: all of an outcome but the faces. -/
structure Outcome.SameButFaces (o o' : Outcome) : Prop where
  dice : o.diceRolled = o'.diceRolled
  degree : o.degree = o'.degree
  result : o.result = o'.result
  keep : o.keep = o'.keep

/-- **What rolls come to.**  A rating is refused if it is above the limit, and nothing is drawn then.
With any other the next faces that the source shows are drawn, two of them for a rating below one,
and the outcome obeys the rules.  From a source that shows the same faces in another order, nothing
but the faces of the outcome would be different. -/
theorem roll_obeys (rating : Int) (e : Entropy) :
    ((roll (.int rating) e).1 = .error (.badPool ⟨.tooLarge, .int rating⟩) ↔ 100 < rating) ∧
      (100 < rating → (roll (.int rating) e).2 = e) ∧
      (rating ≤ 100 → ∀ (faces : List Int) (e' : Entropy), e.Shows faces e' →
        faces.length = (if 1 ≤ rating then rating.toNat else 2) →
        ∃ o kept, roll (.int rating) e = (.ok o, e') ∧ o.Obeys rating faces kept ∧
          ∀ (others : List Int) (f f' : Entropy), faces.Perm others → f.Shows others f' →
            ∃ o', roll (.int rating) f = (.ok o', f') ∧ o'.faces = others.map .int ∧
              o.SameButFaces o') := by
  refine ⟨roll_badPool_iff rating e, ?_, ?_⟩
  · intro hlarge
    rw [roll_int, if_pos (show mostDice < rating from hlarge)]
  · intro hrating faces e' hshows hcount
    have hlength : faces.length = diceFor rating.toNat := by
      rw [hcount]
      unfold diceFor zeroPoolDice
      split <;> split <;> omega
    refine ⟨outcomeOf rating faces, keptOf (keepFor rating) faces,
      roll_of_shows hrating hshows hlength, obeys_outcomeOf hlength hshows.within, ?_⟩
    intro others f f' hperm hothers
    exact ⟨outcomeOf rating others,
      roll_of_shows hrating hothers (hperm.length_eq.symm.trans hlength), rfl,
      ⟨rfl, degreeFor_perm rating hperm, congrArg Value.int (keptOf_perm _ hperm), rfl⟩⟩

/-- Three dice show two sixes and a two, and show the same in another order. -/
theorem roll_obeys_of_two_sixes :
    ∃ o kept, roll (.int 3) (.script 0 (([6, 2, 6].map .int) ++ [.int 1])) =
        (.ok o, .script 3 [.int 1]) ∧ o.Obeys 3 [6, 2, 6] kept ∧
      ∃ o', roll (.int 3) (.script 0 (([2, 6, 6].map .int) ++ [])) = (.ok o', .script 3 []) ∧
        o'.faces = [2, 6, 6].map .int ∧ o.SameButFaces o' := by
  obtain ⟨o, kept, hroll, hobeys, hothers⟩ :=
    (roll_obeys 3 (.script 0 (([6, 2, 6].map .int) ++ [.int 1]))).2.2 (by decide) [6, 2, 6] _
      (Entropy.shows_script 0 [.int 1] (by decide)) rfl
  exact ⟨o, kept, hroll, hobeys,
    hothers [2, 6, 6] _ _ (by decide) (Entropy.shows_script 0 [] (by decide))⟩

end CharacterLedger.Dice
