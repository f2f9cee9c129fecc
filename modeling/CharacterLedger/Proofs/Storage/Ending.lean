import CharacterLedger.Proofs.Storage.Place
import CharacterLedger.Proofs.Storage.Waiting

/-!
# Visits come to their end

Every step takes a visit nearer to its end.  How far that is at most can be told from its phase, the
size of the pool and the connections that are tracked: an opening makes as many connections as the
pool has places, and one that has failed closes all that are tracked.

* `Phase.stepsLeft` — how many steps a visit takes at most, while nobody else moves;
* `Visit.Moves.stepsLeft_lt` — every step that does not end a visit leaves fewer;
* `Visit.exists_step_of_ask` — a visit that asks a question can take a step, unless others are
  before it in the line to open the pool.
-/

namespace CharacterLedger.Storage

/-! ### Steps that are left -/

/-- How many steps a visit at a phase takes at most until it ends, while nobody else moves. A
connection that is made may have to be closed again, and the first one is set up besides. -/
def Phase.stepsLeft (pool : Pool) {α : Type} : Phase α → Nat
  | entering => 3 * pool.size.toNat + pool.tracked.length + 12
  | awaitingOpening => 3 * pool.size.toNat + pool.tracked.length + 11
  | connecting made => 3 * (pool.size.toNat - made.length) + pool.tracked.length + 10
  | preparing _ => 3 * pool.size.toNat + pool.tracked.length + 8
  | abandoning _ => pool.tracked.length + 1
  | awaiting _ => 7
  | checking .. => 6
  | replacing .. => 5
  | working .. => 4
  | committing .. => 3
  | undoing .. => 2
  | returning .. => 1

namespace Visit

variable {me : Nat} {p : Purpose} {s t : Store} {phase next : Phase p.Answer}

theorem stepsLeft_of_arrival {q : Nat} (h : arrival p q = .going next) :
    next.stepsLeft s.pool = 7 := by
  cases p with
  | borrow => cases h; rfl
  | openPool => cases h

theorem Begins.stepsLeft_le (h : Begins p s t (.going next)) :
    next.stepsLeft t.pool ≤ 3 * s.pool.size.toNat + s.pool.tracked.length + 10 := by
  obtain ⟨-, hsize, htracked⟩ := h.location
  generalize hnext : Progress.going next = progress at h
  cases h with
  | refused => cases hnext
  | empty =>
    rw [stepsLeft_of_arrival hnext.symm]
    omega
  | going =>
    cases hnext
    simp [Phase.stepsLeft, hsize, htracked]

/-- Counting a connection in leaves fewer steps than there were with this one still to be made. -/
theorem CountsIn.stepsLeft_le {made : List Nat} {c : Nat}
    (h : CountsIn p s made c t (.going next)) :
    next.stepsLeft t.pool ≤
      max 7 (3 * (s.pool.size.toNat - made.length) + s.pool.tracked.length + 7) := by
  generalize hnext : Progress.going next = progress at h
  cases h with
  | last =>
    rw [stepsLeft_of_arrival hnext.symm]
    omega
  | more few =>
    cases hnext
    simp only [Phase.stepsLeft, List.length_append, List.length_singleton]
    omega

/-- **Every step that does not end a visit leaves it fewer steps.** -/
theorem Moves.stepsLeft_lt (h : Moves me p s phase t (.going next)) :
    next.stepsLeft t.pool < phase.stepsLeft s.pool := by
  generalize hnext : Progress.going next = progress at h
  cases h with
  | arrive | arriveLater =>
    rw [stepsLeft_of_arrival hnext.symm]
    simp only [Phase.stepsLeft]
    omega
  | lineUp =>
    cases hnext
    simp [Phase.stepsLeft, Store.withPool, Pool.join]
  | beginFirst _ _ begins | beginLater _ _ begins =>
    subst hnext
    refine Nat.lt_of_le_of_lt begins.stepsLeft_le ?_
    simp only [Phase.stepsLeft, Store.withPool, Pool.join]
    omega
  | connectFirst made =>
    cases hnext
    obtain ⟨-, hpool, -⟩ := Store.connect_eq_ok made
    simp only [Phase.stepsLeft, track, Store.withPool, hpool, List.length_append,
      List.length_singleton, List.length_nil]
    omega
  | connectNext _ connected counts =>
    subst hnext
    obtain ⟨-, hpool, -⟩ := Store.connect_eq_ok connected
    refine Nat.lt_of_le_of_lt counts.stepsLeft_le ?_
    simp only [Phase.stepsLeft, track, Store.withPool, hpool, List.length_append,
      List.length_singleton]
    omega
  | connectFails =>
    cases hnext
    simp only [Phase.stepsLeft]
    omega
  | prepared alike counts =>
    subst hnext
    refine Nat.lt_of_le_of_lt counts.stepsLeft_le ?_
    simp only [Phase.stepsLeft, alike.pool, List.length_nil]
    omega
  | setUp alike _ _ counts =>
    subst hnext
    refine Nat.lt_of_le_of_lt counts.stepsLeft_le ?_
    simp only [Phase.stepsLeft, Store.pool_write, alike.pool, List.length_nil]
    omega
  | preparingFails alike =>
    cases hnext
    simp only [Phase.stepsLeft, alike.pool]
    omega
  | abandonOne last =>
    cases hnext
    have hsome : s.pool.tracked ≠ [] := by
      intro hnil
      rw [hnil] at last
      cases last
    have hpositive := List.length_pos_iff.2 hsome
    simp only [Phase.stepsLeft, Store.closeLast, Store.withPool, Pool.untrackLast,
      List.length_dropLast]
    omega
  | takeInMemory | takeToFile | sound | unsound | replace | answer | draft | writeAtOnce | strike
  | keptOut | commitFails =>
    cases hnext
    simp [Phase.stepsLeft]
  | turnAway | turnAwayLater | abandoned | giveUp | replaceFails | refuse | letGo | breakOff
  | commit | commitLost | undo | undoLost | giveBack => cases hnext

/-! ### Steps that can be taken -/

/-- A question can be asked on any connection. -/
theorem exists_step_working_of_ask (me : Nat) (s : Store) (question : Question) (q c : Nat) :
    ∃ choice st, step me (.borrow (.ask question)) choice (.working q c) s = some st := by
  refine ⟨.go, ?_⟩
  simp only [step, go, onErrand, work]
  split
  · exact ⟨_, rfl⟩
  · exact ⟨_, rfl⟩

/-- **A visit that asks a question can take a step**, unless others are before it in the line to open
the pool. -/
theorem exists_step_of_ask (me : Nat) (s : Store) {question : Question}
    {phase : Phase (Purpose.borrow (.ask question)).Answer} (hreads : phase.transaction? = none) :
    (∃ choice st, step me (.borrow (.ask question)) choice phase s = some st) ∨
      phase = .awaitingOpening ∧ s.pool.opening.head? ≠ some me := by
  have htransacts : Visiting.Transacts (some ⟨.borrow (.ask question), phase⟩) := by
    intro p' phase' hsame htransaction
    cases hsame
    exact absurd hreads htransaction
  have herrand : Visiting.OnErrand (some ⟨.borrow (.ask question), phase⟩) := by
    intro p' phase' hsame _
    cases hsame
    simp
  obtain hgoes | ⟨n, hlacks⟩ := goes_or_lacks me s
    (show (Purpose.borrow (.ask question)).IsOrdinary from trivial) htransacts herrand
  · obtain ⟨st, hst⟩ := Option.isSome_iff_exists.1 hgoes
    exact .inl ⟨.go, st, hst⟩
  · cases hlacks with
    | turn others => exact .inr ⟨rfl, others⟩
    | connection => exact .inl ⟨.expire, _, rfl⟩
    | transaction used _ busy =>
      cases phase with
      | preparing c =>
        cases used
        exact .inl ⟨.expire, _, if_pos busy⟩
      | working q c => exact .inl (exists_step_working_of_ask me s question q c)
      | committing | undoing => cases hreads
      | _ => cases used

end Visit

end CharacterLedger.Storage
