import CharacterLedger.Proofs.Dice.Redraws
import CharacterLedger.Proofs.Dice.Rules
import Mathlib.Data.List.Forall2

/-!
# Pools in a row on a seeded generator

Pools that are rolled one after the other on one generator cut its faces into blocks.  How many
words a face takes, and where the generator renews its state, does not show: what is drawn, and the
state that is left, is settled by how many dice there are in all.

* `rollAll_append` — a series of pools is rolled part by part;
* `Entropy.IsSeeded` — seeded generators, which have a face for every die (`IsSeeded.shows`);
* `diceDrawn`, `diceInAll` — how many dice are drawn for a rating, and for several;
* `Comes` — what a rating comes to on a generator;
* `Entropy.IsSeeded.roll`, `Entropy.IsSeeded.rollAll` — what a roll and a series of rolls come to;
* `rollOnSeed_draws` — all of it for every seed.

That a die is not redrawn for ever is no assumption: `Entropy.exists_seededFace` proves it.
-/

namespace CharacterLedger.Dice

variable {e : Entropy}

/-- **A series of pools is rolled part by part**, the later part from the source that is left. -/
theorem rollAll_append (ratings others : List Value) (e : Entropy) :
    rollAll (ratings ++ others) e =
      ((rollAll ratings e).1 ++ (rollAll others (rollAll ratings e).2).1,
        (rollAll others (rollAll ratings e).2).2) := by
  induction ratings generalizing e with
  | nil => rfl
  | cons rating ratings ih => simp only [List.cons_append, rollAll, ih]

/-! ### Seeded generators -/

namespace Entropy

/-- A source that is a generator as seeding gives it, or as it is left by drawing. -/
inductive IsSeeded : Entropy → Prop
  | generator {t : Twister} (sound : t.IsSound) : IsSeeded (seeded t)

theorem isSeeded_ofSeed (seed : Int) : (ofSeed (some seed)).IsSeeded :=
  .generator (Twister.isSound_ofSeed seed)

/-- A seeded generator has a face for every die. -/
theorem IsSeeded.next (h : e.IsSeeded) :
    ∃ (face : Int) (e' : Entropy), e.next = some (.int face, e') ∧
      (1 ≤ face ∧ face ≤ faceCount) ∧ e'.IsSeeded := by
  obtain ⟨hsound⟩ := h
  obtain ⟨face, t', hface, hleast, hgreatest, hsound'⟩ := exists_seededFace hsound
  refine ⟨face, seeded t', ?_, ⟨hleast, hgreatest⟩, .generator hsound'⟩
  rw [Entropy.next, hface]
  rfl

/-- **A seeded generator shows as many faces as are asked for.** -/
theorem IsSeeded.shows (h : e.IsSeeded) (n : Nat) :
    ∃ (faces : List Int) (e' : Entropy), e.Shows faces e' ∧ faces.length = n ∧ e'.IsSeeded := by
  induction n generalizing e with
  | zero => exact ⟨[], e, ⟨.nothing, fun _ hface => absurd hface List.not_mem_nil⟩, rfl, h⟩
  | succ n ih =>
    obtain ⟨face, e', hnext, hface, hseeded⟩ := h.next
    obtain ⟨faces, e'', hshows, hlength, hseeded'⟩ := ih hseeded
    refine ⟨face :: faces, e'', ⟨.value hnext hshows.yields, ?_⟩, ?_, hseeded'⟩
    · intro other hother
      obtain rfl | hrest := List.mem_cons.1 hother
      · exact hface
      · exact hshows.within other hrest
    · rw [List.length_cons, hlength]

theorem Shows.append {e' e'' : Entropy} {faces others : List Int} (h : e.Shows faces e')
    (h' : e'.Shows others e'') : e.Shows (faces ++ others) e'' := by
  refine ⟨?_, ?_⟩
  · rw [List.map_append]
    exact h.yields.append h'.yields
  · intro face hface
    exact (List.mem_append.1 hface).elim (h.within face) (h'.within face)

end Entropy

/-! ### Rolls and series of rolls -/

/-- How many dice are drawn for a rating: none if it is refused, and two for a pool of none. -/
def diceDrawn (rating : Int) : Nat :=
  if 100 < rating then 0 else if rating ≤ 0 then 2 else rating.toNat

/-- How many dice are drawn for several ratings. -/
def diceInAll (ratings : List Int) : Nat := (ratings.map diceDrawn).sum

/-- The faces of a result; a refused pool has none. -/
def facesOf : Except RollError Outcome → List Value
  | .ok o => o.faces
  | .error _ => []

/-- What a rating comes to on a generator: it is refused if it is above the limit, else it has an
outcome, of as many faces as dice are drawn. -/
inductive Comes : Int → Except RollError Outcome → Prop
  | refused {rating : Int} (large : 100 < rating) :
      Comes rating (.error (.badPool ⟨.tooLarge, .int rating⟩))
  | rolled {rating : Int} {faces : List Int} (small : rating ≤ 100)
      (count : faces.length = diceDrawn rating)
      (within : ∀ face ∈ faces, 1 ≤ face ∧ face ≤ 6) : Comes rating (.ok (outcomeOf rating faces))

theorem diceFor_toNat {rating : Int} (h : rating ≤ 100) :
    diceFor rating.toNat = diceDrawn rating := by
  unfold diceFor diceDrawn zeroPoolDice
  split_ifs <;> omega

/-- A rating above the limit is refused, and the source is left as it was. -/
theorem roll_of_large {rating : Int} (h : 100 < rating) (e : Entropy) :
    roll (.int rating) e = (.error (.badPool ⟨.tooLarge, .int rating⟩), e) := by
  rw [roll_int, if_pos (show mostDice < rating from h)]

/-- **A roll on a seeded generator** shows the next faces of it, one for each die that is drawn. -/
theorem Entropy.IsSeeded.roll (h : e.IsSeeded) (rating : Int) :
    Comes rating (roll (.int rating) e).1 ∧ (roll (.int rating) e).2.IsSeeded ∧
      ∃ faces : List Int, faces.length = diceDrawn rating ∧
        facesOf (roll (.int rating) e).1 = faces.map .int ∧
        e.Shows faces (roll (.int rating) e).2 := by
  by_cases hlarge : 100 < rating
  · rw [roll_of_large hlarge]
    refine ⟨.refused hlarge, h, [], ?_, rfl, .nothing, fun _ hface => absurd hface List.not_mem_nil⟩
    rw [diceDrawn, if_pos hlarge]
    rfl
  · have hsmall : rating ≤ 100 := Int.not_lt.1 hlarge
    obtain ⟨faces, e', hshows, hlength, hseeded⟩ := h.shows (diceDrawn rating)
    rw [roll_of_shows hsmall hshows (hlength.trans (diceFor_toNat hsmall).symm)]
    exact ⟨.rolled hsmall hlength hshows.within, hseeded, faces, hlength, rfl, hshows⟩

/-- **A series of rolls on a seeded generator** shows the next faces of it, one for each die of the
series. -/
theorem Entropy.IsSeeded.rollAll (h : e.IsSeeded) (ratings : List Int) :
    List.Forall₂ Comes ratings (rollAll (ratings.map .int) e).1 ∧
      ∃ faces : List Int, faces.length = diceInAll ratings ∧
        (rollAll (ratings.map .int) e).1.flatMap facesOf = faces.map .int ∧
        e.Shows faces (rollAll (ratings.map .int) e).2 := by
  induction ratings generalizing e with
  | nil => exact ⟨.nil, [], rfl, rfl, .nothing, fun _ hface => absurd hface List.not_mem_nil⟩
  | cons rating ratings ih =>
    obtain ⟨hcomes, hseeded, faces, hlength, hfaces, hshows⟩ := h.roll rating
    obtain ⟨hothers, others, hlength', hfaces', hshows'⟩ := ih hseeded
    refine ⟨.cons hcomes hothers, faces ++ others, ?_, ?_, hshows.append hshows'⟩
    · rw [List.length_append, hlength, hlength', diceInAll, diceInAll, List.map_cons, List.sum_cons]
    · rw [List.map_append, ← hfaces, ← hfaces']
      rfl

/-! ### Series on a seed -/

/-- Rolls ratings one after the other on a fresh generator of a seed. -/
def rollOnSeed (seed : Int) (ratings : List Int) : List (Except RollError Outcome) × Entropy :=
  rollAll (ratings.map .int) (.ofSeed (some seed))

/-- **A series of rolls draws as many faces as it has dice**, all at once or one by one: they are
the first faces of the generator, and the state that is left is the one behind them. -/
theorem exists_faces_rollOnSeed (seed : Int) (ratings : List Int) :
    ∃ faces : List Int, (∀ face ∈ faces, 1 ≤ face ∧ face ≤ 6) ∧
      (rollOnSeed seed ratings).1.flatMap facesOf = faces.map .int ∧
      (Entropy.ofSeed (some seed)).draw (diceInAll ratings) =
        (faces.map .int, true, (rollOnSeed seed ratings).2) := by
  obtain ⟨-, faces, hlength, hfaces, hshows⟩ := (Entropy.isSeeded_ofSeed seed).rollAll ratings
  refine ⟨faces, hshows.within, hfaces, ?_⟩
  have hdraw := Entropy.draw_of_yields hshows.yields
  rw [List.length_map, hlength] at hdraw
  exact hdraw

/-- **Series of rolls on one generator.**  Two series in a row come to what the first comes to, and
then to what the second comes to from the state that is left.  Every rating has its result in its
place: one above the limit is refused and leaves the generator as it was, any other has an outcome
of as many faces as dice are drawn.  All faces are faces of a die.  Together they are what drawing
as many dice as there are in all gives, and so is the state that is left; series of as many dice
show the same faces and leave the same state. -/
theorem rollOnSeed_draws (seed : Int) (xs ys : List Int) :
    rollOnSeed seed (xs ++ ys) =
        ((rollOnSeed seed xs).1 ++ (rollAll (ys.map .int) (rollOnSeed seed xs).2).1,
          (rollAll (ys.map .int) (rollOnSeed seed xs).2).2) ∧
      List.Forall₂ Comes xs (rollOnSeed seed xs).1 ∧
      (∀ rating, 100 < rating → rollOnSeed seed (xs ++ rating :: ys) =
        ((rollOnSeed seed xs).1 ++ .error (.badPool ⟨.tooLarge, .int rating⟩) ::
            (rollAll (ys.map .int) (rollOnSeed seed xs).2).1,
          (rollAll (ys.map .int) (rollOnSeed seed xs).2).2)) ∧
      (∃ faces : List Int, (∀ face ∈ faces, 1 ≤ face ∧ face ≤ 6) ∧
        (rollOnSeed seed xs).1.flatMap facesOf = faces.map .int ∧
        (Entropy.ofSeed (some seed)).draw (diceInAll xs) =
          (faces.map .int, true, (rollOnSeed seed xs).2)) ∧
      (diceInAll xs = diceInAll ys →
        (rollOnSeed seed xs).2 = (rollOnSeed seed ys).2 ∧
          (rollOnSeed seed xs).1.flatMap facesOf = (rollOnSeed seed ys).1.flatMap facesOf) := by
  have hresults := ((Entropy.isSeeded_ofSeed seed).rollAll xs).1
  refine ⟨?_, hresults, ?_, exists_faces_rollOnSeed seed xs, ?_⟩
  · simp only [rollOnSeed, List.map_append, rollAll_append]
  · intro rating hlarge
    simp only [rollOnSeed, List.map_append, List.map_cons, rollAll_append, rollAll,
      roll_of_large hlarge]
  · intro htotal
    obtain ⟨faces, -, hfaces, hdraw⟩ := exists_faces_rollOnSeed seed xs
    obtain ⟨others, -, hothers, hdraw'⟩ := exists_faces_rollOnSeed seed ys
    rw [htotal, hdraw', Prod.mk.injEq, Prod.mk.injEq] at hdraw
    obtain ⟨hsame, -, hleft⟩ := hdraw
    exact ⟨hleft.symm, by rw [hfaces, hothers, hsame]⟩

/-- Three dice, two and a refused pool draw as much as five dice.  The refused pool leaves the die
behind it the state that the two pools before it have left. -/
theorem rollOnSeed_draws_of_five :
    (rollOnSeed 7 [3, 0, 101]).2 = (rollOnSeed 7 [5]).2 ∧
      (rollOnSeed 7 [3, 0, 101]).1.flatMap facesOf = (rollOnSeed 7 [5]).1.flatMap facesOf ∧
      rollOnSeed 7 ([3, 0] ++ 101 :: [1]) =
        ((rollOnSeed 7 [3, 0]).1 ++ .error (.badPool ⟨.tooLarge, .int 101⟩) ::
            (rollAll ([1].map .int) (rollOnSeed 7 [3, 0]).2).1,
          (rollAll ([1].map .int) (rollOnSeed 7 [3, 0]).2).2) := by
  obtain ⟨hstate, hfaces⟩ := (rollOnSeed_draws 7 [3, 0, 101] [5]).2.2.2.2 rfl
  exact ⟨hstate, hfaces, (rollOnSeed_draws 7 [3, 0] [1]).2.2.1 101 (by decide)⟩

end CharacterLedger.Dice
