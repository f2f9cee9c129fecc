import CharacterLedger.Proofs.Dice.Faces

/-!
# Rolls and their blocks of faces

A roll draws all its faces at once, or none.  So rolls that come one after the other cut the source
into blocks, and what they come to depends on nothing but the source and the pools.

* `Entropy.Yields` — a source gives some values one after the other;
* `Entropy.yields_draw`, `Entropy.next_of_incomplete` — what drawing takes, and why it stops short;
* `Drawn` — the values that a roll has drawn, by its result;
* `drawn_roll` — every roll has drawn such values, from the front of its source;
* `poolFor?`, `rollChecked` — the pool that is rolled for a rating, and the roll of it;
* `rollPools` — pools that are rolled one after the other.
-/

namespace CharacterLedger.Dice

/-! ### What a source gives -/

namespace Entropy

/-- A source gives these values one after the other, and is the other source then. -/
inductive Yields : Entropy → List Value → Entropy → Prop
  | nothing {e : Entropy} : Yields e [] e
  | value {e e' e'' : Entropy} {face : Value} {faces : List Value}
      (next : e.next = some (face, e')) (rest : Yields e' faces e'') : Yields e (face :: faces) e''

theorem Yields.append {e e' e'' : Entropy} {faces faces' : List Value} (h : Yields e faces e')
    (h' : Yields e' faces' e'') : Yields e (faces ++ faces') e'' := by
  induction h with
  | nothing => exact h'
  | value next _ ih => exact .value next (ih h')

/-- Nothing comes from a source that is empty. -/
theorem Yields.of_empty {e e' : Entropy} {faces : List Value} (h : Yields e faces e')
    (hempty : e.next = none) : e' = e := by
  cases h with
  | nothing => rfl
  | value next =>
    rw [hempty] at next
    cases next

/-- Drawing takes what the source gives. -/
theorem yields_draw (n : Nat) (e : Entropy) : e.Yields (draw n e).1 (draw n e).2.2 := by
  induction n generalizing e with
  | zero => exact .nothing
  | succ n ih =>
    cases hnext : e.next with
    | none =>
      simp only [draw, hnext]
      exact .nothing
    | some r =>
      simp only [draw, hnext]
      exact .value hnext (ih r.2)

/-- Drawing stops short only where there is nothing left. -/
theorem next_of_incomplete {n : Nat} {e : Entropy} (h : (draw n e).2.1 = false) :
    (draw n e).2.2.next = none := by
  induction n generalizing e with
  | zero => cases h
  | succ n ih =>
    cases hnext : e.next with
    | none => simp [draw, hnext]
    | some r =>
      simp only [draw, hnext] at h ⊢
      exact ih h

end Entropy

/-! ### What a roll draws -/

/-- Faces are integers, or some face is none. -/
theorem exists_int_or_odd (faces : List Value) :
    (∃ ns : List Int, faces = ns.map .int) ∨ ∃ face, face ∈ faces ∧ ∀ n, face ≠ .int n := by
  induction faces with
  | nil => exact .inl ⟨[], rfl⟩
  | cons face faces ih =>
    obtain ⟨ns, rfl⟩ | ⟨odd, hodd, hno⟩ := ih
    · by_cases hface : ∃ n, face = .int n
      · obtain ⟨n, rfl⟩ := hface
        exact .inl ⟨n :: ns, rfl⟩
      · exact .inr ⟨face, List.mem_cons_self, fun n hn => hface ⟨n, hn⟩⟩
    · exact .inr ⟨odd, List.mem_cons_of_mem face hodd, hno⟩

/-- The outcome of a pool shows the faces, and says how many dice there were. -/
theorem resolve_eq_ok {pool : Value} {n : Nat} {faces : List Value} {o : Outcome}
    (h : resolve pool n faces = .ok o) :
    o.faces = faces ∧ o.diceRolled = if n = 0 then .int zeroPoolDice else pool := by
  have hkeeping : ∀ {keep : Keep} {dice : Value},
      resolveKeeping keep dice n faces = .ok o → o.faces = faces ∧ o.diceRolled = dice := by
    intro keep dice hkept
    unfold resolveKeeping at hkept
    split at hkept
    · cases hkept
    · next kept _ =>
      cases hdegree : classify kept (areCritical n faces) with
      | error m =>
        rw [hdegree] at hkept
        cases hkept
      | ok degree =>
        rw [hdegree] at hkept
        cases hkept
        exact ⟨rfl, rfl⟩
  unfold resolve at h
  split at h
  · next hzero =>
    subst hzero
    rw [if_pos rfl]
    exact hkeeping h
  · next hpositive =>
    rw [if_neg hpositive]
    exact hkeeping h

/-- Faces that are integers have an outcome. -/
theorem exists_resolve_int (pool : Value) (n : Nat) (faces : List Int) :
    ∃ o, resolve pool n (faces.map .int) = .ok o := by
  unfold resolve
  split
  · exact ⟨_, by rw [resolveKeeping, keptFace_lowest]; dsimp only; rw [classify_int]; rfl⟩
  · exact ⟨_, by rw [resolveKeeping, keptFace_highest]; dsimp only; rw [classify_int]; rfl⟩

/-- The values that a roll has drawn, by its result and by the source that it leaves. -/
inductive Drawn : Except RollError Outcome → Entropy → List Value → Prop
  /-- As many as the dice that were rolled, and those are shown. -/
  | outcome {o : Outcome} {e : Entropy} (count : o.diceRolled.toInteger? = some o.faces.length) :
      Drawn (.ok o) e o.faces
  /-- All that were left. -/
  | exhausted {e : Entropy} {faces : List Value} (empty : e.next = none) :
      Drawn (.error .exhausted) e faces
  /-- Some of them are no integers, and cannot be compared. -/
  | odd {e : Entropy} {m : Mismatch} {faces : List Value}
      (odd : ∃ face, face ∈ faces ∧ ∀ n, face ≠ .int n) : Drawn (.error (.mismatch m)) e faces
  /-- None, for the pool is refused. -/
  | refused {e : Entropy} {err : RollError} (refused : err ≠ .exhausted) : Drawn (.error err) e []

/-- The number of dice of a pool is what the pool says. -/
theorem toInteger?_of_countOf {pool : Value} {n : Nat} (h : countOf pool = .ok n) (hn : n ≠ 0) :
    pool.toInteger? = some (n : Int) := by
  unfold countOf at h
  split at h
  · cases h
    exact absurd rfl hn
  · split at h
    · next k hk =>
      cases h
      rw [hk, Option.some.injEq]
      omega
    · cases h

/-- **Rolling a pool takes its faces from the front of the source**, as many as it has dice if there
are as many. -/
theorem drawn_rollPool {pool : Value} {n : Nat} (hcount : countOf pool = .ok n) (e : Entropy) :
    ∃ faces, e.Yields faces (rollPool pool n e).2 ∧
      Drawn (rollPool pool n e).1 (rollPool pool n e).2 faces := by
  have hyields := Entropy.yields_draw (diceFor n) e
  unfold rollPool
  rcases hdraw : e.draw (diceFor n) with ⟨faces, complete, e'⟩
  rw [hdraw] at hyields
  refine ⟨faces, hyields, ?_⟩
  cases complete with
  | false =>
    have hempty := Entropy.next_of_incomplete (n := diceFor n) (e := e) (by rw [hdraw])
    rw [hdraw] at hempty
    exact .exhausted hempty
  | true =>
    have hlength := Entropy.draw_length_of_complete (diceFor n) e (by rw [hdraw])
    rw [hdraw] at hlength
    dsimp only at hlength ⊢
    rw [if_pos rfl]
    cases hresolve : resolve pool n faces with
    | ok o =>
      obtain ⟨rfl, hdice⟩ := resolve_eq_ok hresolve
      refine .outcome ?_
      rw [hdice, hlength, diceFor]
      split
      · rfl
      · next hpositive => exact toInteger?_of_countOf hcount hpositive
    | error m =>
      refine .odd ?_
      obtain ⟨ns, rfl⟩ | hodd := exists_int_or_odd faces
      · obtain ⟨o, ho⟩ := exists_resolve_int pool n ns
        rw [hresolve] at ho
        cases ho
      · exact hodd

/-! ### Pools one after the other -/

/-- The pool that is rolled for a rating, unless the rating is refused. -/
def poolFor? (rating : Value) : Option Value := (poolOf rating).toOption

/-- Rolls a pool that is not refused. -/
def rollChecked (pool : Value) (e : Entropy) : Except RollError Outcome × Entropy :=
  match countOf pool with
  | .error m => (.error (.mismatch m), e)
  | .ok n => rollPool pool n e

/-- Rolls one pool after the other from one source. -/
def rollPools : List Value → Entropy → List (Except RollError Outcome) × Entropy
  | [], e => ([], e)
  | pool :: pools, e =>
    let (first, e) := rollChecked pool e
    let (others, e) := rollPools pools e
    (first :: others, e)

theorem rollPools_append (pools : List Value) (pool : Value) (e : Entropy) :
    rollPools (pools ++ [pool]) e =
      ((rollPools pools e).1 ++ [(rollChecked pool (rollPools pools e).2).1],
        (rollChecked pool (rollPools pools e).2).2) := by
  induction pools generalizing e with
  | nil => rfl
  | cons first pools ih =>
    simp only [List.cons_append, rollPools, ih]

/-- A roll is that of the pool for its rating. -/
theorem roll_of_poolFor? {rating pool : Value} (h : poolFor? rating = some pool) (e : Entropy) :
    roll rating e = rollChecked pool e := by
  unfold poolFor? at h
  unfold roll rollChecked
  cases hpool : poolOf rating with
  | error err =>
    rw [hpool] at h
    cases h
  | ok pool' =>
    rw [hpool] at h
    cases h
    rfl

/-- A number of dice is never refused for want of faces. -/
theorem checkPool_ne_exhausted (dice limit : Value) :
    checkPool dice limit ≠ .error .exhausted := by
  unfold checkPool
  split <;> simp

/-- A rating that is refused draws nothing. -/
theorem roll_of_refused {rating : Value} (h : poolFor? rating = none) (e : Entropy) :
    ∃ err, roll rating e = (.error err, e) ∧ err ≠ .exhausted := by
  unfold poolFor? at h
  unfold roll
  cases hpool : poolOf rating with
  | ok pool =>
    rw [hpool] at h
    cases h
  | error err =>
    refine ⟨err, rfl, ?_⟩
    rintro rfl
    unfold poolOf at hpool
    split at hpool
    · cases hpool
    · exact checkPool_ne_exhausted _ _ hpool

/-- **Every roll draws its faces from the front of the source**, or none. -/
theorem drawn_roll (rating : Value) (e : Entropy) :
    ∃ faces, e.Yields faces (roll rating e).2 ∧
      Drawn (roll rating e).1 (roll rating e).2 faces := by
  cases hpool : poolFor? rating with
  | none =>
    obtain ⟨err, hroll, hrefused⟩ := roll_of_refused hpool e
    rw [hroll]
    exact ⟨[], .nothing, .refused hrefused⟩
  | some pool =>
    rw [roll_of_poolFor? hpool, rollChecked]
    cases hcount : countOf pool with
    | error m => exact ⟨[], .nothing, .refused (by simp)⟩
    | ok n => exact drawn_rollPool hcount e

end CharacterLedger.Dice
