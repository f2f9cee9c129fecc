import CharacterLedger.Proofs.Storage.OpeningEvents

/-!
# Attempts to open the pool

An attempt to open the pool connects as often as the pool has places and sets up the database on the
first connection.  It may fail anywhere on the way, and then it closes what it has made, the last
connection first.  This module follows one attempt through the moves of its visit.

* `making` — all there is to do to open the pool;
* `Attempt` — an attempt and how far it has got;
* `Attempt.Comes` — where an attempt is after a step: it goes on, or has failed, or the pool is open;
* `Visit.exists_attempt`, `Attempt.At.moves` — a step begins an attempt with the first connection
  still to be made, or takes one further;
* `Visit.first_of_step` — only the first in line begins an attempt, and only when the pool is closed.

That no two attempts go on at the same time is shown where all tasks are seen together.
-/

namespace CharacterLedger.Storage

open CharacterLedger.Table

/-! ### All there is to do -/

/-- All there is to do to open the pool with these connections: each is made, and the database is
set up on the first one, before there is another. -/
def making : List Nat → List OpeningEvent
  | [] => []
  | c :: rest => .connects c :: .setsUp c :: rest.map .connects

theorem filterMap_making (numbers : List Nat) :
    (making numbers).filterMap OpeningEvent.made? = numbers := by
  cases numbers with
  | nil => rfl
  | cons c rest =>
    show c :: (rest.map OpeningEvent.connects).filterMap OpeningEvent.made? = c :: rest
    rw [List.filterMap_map]
    exact congrArg (List.cons c) List.filterMap_some

/-- After the first connection there is nothing to do for another one but to make it. -/
theorem making_concat {numbers : List Nat} (h : numbers ≠ []) (c : Nat) :
    making (numbers ++ [c]) = making numbers ++ [.connects c] := by
  cases numbers with
  | nil => exact absurd rfl h
  | cons first rest => simp [making]

theorem isPrefix_making {numbers more : List Nat} (h : numbers <+: more) :
    making numbers <+: making more := by
  obtain ⟨rest, rfl⟩ := h
  cases numbers with
  | nil => exact List.nil_prefix
  | cons first others =>
    refine ⟨rest.map .connects, ?_⟩
    simp [making]

theorem isPrefix_numbers (n : Nat) {k m : Nat} (h : k ≤ m) : List.range' n k <+: List.range' n m := by
  obtain ⟨rest, rfl⟩ := Nat.exists_eq_add_of_le h
  exact ⟨List.range' (n + k) rest, List.range'_append_1⟩

/-- A part of what there is to do makes the first few of the connections. -/
theorem filterMap_of_prefix {efforts : List OpeningEvent} {n size : Nat}
    (h : efforts <+: making (List.range' n size)) :
    ∃ k, k ≤ size ∧ efforts.filterMap OpeningEvent.made? = List.range' n k := by
  obtain ⟨rest, hrest⟩ := h.filterMap OpeningEvent.made?
  rw [filterMap_making] at hrest
  obtain ⟨k, hk, hmade, -⟩ := List.range'_eq_append_iff.1 hrest.symm
  exact ⟨k, hk, hmade⟩

/-! ### Attempts -/

/-- An attempt to open the pool: the task that makes it, what it has done towards opening the pool,
the connections that it has closed again, and what came of it, if it is over. -/
structure Attempt where
  opener : Nat
  efforts : List OpeningEvent
  closed : List Nat
  outcome : Option (Except Fault Nat)

namespace Attempt

/-- The connections that an attempt has made. -/
def made (a : Attempt) : List Nat := a.efforts.filterMap OpeningEvent.made?

/-- The last event of an attempt that is over. -/
def ending : Option (Except Fault Nat) → List OpeningEvent
  | none => []
  | some (.error f) => [.fails f]
  | some (.ok q) => [.opens q]

/-- The events of an attempt. -/
def events (a : Attempt) : List OpeningEvent :=
  .begins :: (a.efforts ++ a.closed.map .closes ++ ending a.outcome)

/-- The attempt of a task that has only begun. -/
def new (opener : Nat) : Attempt := ⟨opener, [], [], none⟩

/-- The attempt with more done. -/
def more (a : Attempt) (efforts : List OpeningEvent) : Attempt :=
  { a with efforts := a.efforts ++ efforts }

/-- The attempt with one more connection closed. -/
def close (a : Attempt) (c : Nat) : Attempt := { a with closed := a.closed ++ [c] }

/-- The attempt when it is over, with what has come of it. -/
def endIn (a : Attempt) (outcome : Except Fault Nat) : Attempt := { a with outcome := some outcome }

variable {a : Attempt}

theorem events_more (hclosed : a.closed = []) (houtcome : a.outcome = none)
    (efforts : List OpeningEvent) : (a.more efforts).events = a.events ++ efforts := by
  simp [events, more, hclosed, houtcome, ending]

theorem events_close (houtcome : a.outcome = none) (c : Nat) :
    (a.close c).events = a.events ++ [.closes c] := by
  simp [events, close, houtcome, ending]

theorem events_endIn (houtcome : a.outcome = none) (outcome : Except Fault Nat) :
    (a.endIn outcome).events = a.events ++ ending (some outcome) := by
  simp [events, endIn, houtcome, ending]

theorem made_more (efforts : List OpeningEvent) :
    (a.more efforts).made = a.made ++ efforts.filterMap OpeningEvent.made? :=
  List.filterMap_append

/-- An attempt that has done a part of what there is to do has made the first few connections. -/
theorem made_of_partly {n size : Nat} (h : a.efforts <+: making (List.range' n size)) :
    a.made = List.range' n a.made.length := by
  obtain ⟨k, -, hmade⟩ := filterMap_of_prefix h
  have hnumbers : a.made = List.range' n k := hmade
  rw [hnumbers, List.length_range']

/-- What an attempt has done that is not over, when its visit is at a phase. -/
def Fits (size : Int) (a : Attempt) {α : Type} : Phase α → Prop
  | .connecting made => a.efforts = making made ∧ a.closed = [] ∧ (made.length : Int) < size
  | .preparing c => a.efforts = [.connects c] ∧ a.closed = [] ∧ 0 < size
  | .abandoning _ => True
  | _ => False

/-- An attempt that is not over, when its visit is at a phase. The first connection that it makes
has the number `n`. -/
structure At (a : Attempt) (n : Nat) (s : Store) {α : Type} (phase : Phase α) : Prop where
  outcome : a.outcome = none
  partly : a.efforts <+: making (List.range' n s.pool.size.toNat)
  /-- What it has made and not closed again is what the pool tracks. -/
  tracked : a.made = s.pool.tracked ++ a.closed.reverse
  length : s.connections.length = n + a.made.length
  shut : ∀ c, c ∈ a.closed → s.isOpen c = false
  fits : a.Fits s.pool.size phase

/-- An attempt that has failed: whatever it has made it has closed again, the last connection
first. -/
structure Fails (a : Attempt) (n : Nat) (t : Store) (f : Fault) : Prop where
  outcome : a.outcome = some (.error f)
  partly : a.efforts <+: making (List.range' n t.pool.size.toNat)
  undone : a.closed = a.made.reverse
  length : t.connections.length = n + a.made.length
  shut : ∀ c, c ∈ a.made → t.isOpen c = false

/-- An attempt that has opened the pool with a queue: it has done all there is to do. -/
structure Succeeds (a : Attempt) (n : Nat) (t : Store) (q : Nat) : Prop where
  outcome : a.outcome = some (.ok q)
  wholly : a.efforts = making (List.range' n t.pool.size.toNat)
  kept : a.closed = []
  tracked : t.pool.tracked = a.made
  length : t.connections.length = n + a.made.length

/-- Where an attempt is after a step of its visit. -/
inductive Comes (a : Attempt) (n : Nat) (t : Store) {α : Type} : Progress α → Prop
  | goesOn {phase : Phase α} (isOpening : phase.isOpening = true)
      (isClosed : t.pool.current = none) (there : a.At n t phase) : Comes a n t (.going phase)
  | failed {f : Fault} (isClosed : t.pool.current = none) (empty : t.pool.tracked = [])
      (fails : a.Fails n t f) : Comes a n t (.ended (.error (.fault f)))
  | opened {q : Nat} {next : Progress α} (isOpen : t.pool.current = some q)
      (leaves : next.isOpening = false) (succeeds : a.Succeeds n t q) : Comes a n t next

end Attempt

namespace Visit

variable {α : Type} {me : Nat} {p : Purpose} {s t u : Store} {phase : Phase p.Answer}
  {next : Progress p.Answer} {n : Nat}

/-! ### Beginning -/

/-- A connection that is closed stays so. -/
theorem Moves.isClosed (h : Moves me p s phase t next) {c : Nat} (hlt : c < s.connections.length)
    (hclosed : s.isOpen c = false) : t.isOpen c = false := by
  cases hopen : t.isOpen c with
  | false => rfl
  | true =>
    obtain hwas | hnew := h.effect.isOpen hopen
    · rw [hclosed] at hwas
      cases hwas
    · omega

theorem Begins.head?_beginningEvents (h : Begins p s t next) :
    (beginningEvents t next).head? = some .begins := by
  cases h with
  | refused | going => rfl
  | empty => cases p <;> rfl

/-- Beginning to open a pool without connections begins an attempt. -/
theorem Begins.exists_attempt (h : Begins p s t next) (hclosed : s.pool.current = none)
    (hempty : s.pool.tracked = []) (id : Nat) :
    ∃ a : Attempt, a.opener = id ∧ a.events = beginningEvents t next ∧
      a.Comes s.connections.length t next := by
  cases h with
  | @refused u f made =>
    obtain ⟨hpool, hconnections⟩ := Store.pool_makeDirectory made
    refine ⟨(Attempt.new id).endIn (.error f), rfl, rfl, .failed ?_ ?_ ?_⟩
    · rw [← hclosed, ← hpool]
      rfl
    · rw [← hempty, ← hpool]
      rfl
    · exact ⟨rfl, List.nil_prefix, rfl, congrArg List.length hconnections,
        List.forall_mem_nil _⟩
  | @empty u made small =>
    obtain ⟨hpool, hconnections⟩ := Store.pool_makeDirectory made
    refine ⟨(Attempt.new id).endIn (.ok u.pool.queues.length), rfl, ?_, .opened rfl ?_ ?_⟩
    · cases p <;> rfl
    · cases p <;> rfl
    · refine ⟨rfl, ?_, rfl, ?_, congrArg List.length hconnections⟩
      · show [] = making (List.range' _ u.pool.size.toNat)
        rw [Int.toNat_of_nonpos small]
        rfl
      · show u.pool.tracked = []
        rw [hpool, hempty]
  | going made large =>
    obtain ⟨hpool, hconnections⟩ := Store.pool_makeDirectory made
    have hcurrent : t.pool.current = none := by rw [hpool, hclosed]
    refine ⟨Attempt.new id, rfl, ?_, .goesOn rfl hcurrent ?_⟩
    · simp [beginningEvents, openedEvents_of_closed hcurrent, Attempt.events, Attempt.new,
        Attempt.ending]
    · refine ⟨rfl, List.nil_prefix, ?_, congrArg List.length hconnections, List.forall_mem_nil _,
        rfl, rfl, large⟩
      rw [hpool, hempty]
      rfl

/-- **A step that begins an attempt** begins with none of the connections made. -/
theorem exists_attempt (h : Moves me p s phase t next) (hphase : phase.isOpening = false)
    (hevents : openingEvents s t next phase ≠ []) (hclosed : s.pool.current = none)
    (hempty : s.pool.tracked = []) :
    ∃ a : Attempt, a.opener = me ∧ a.events = openingEvents s t next phase ∧
      a.Comes s.connections.length t next := by
  have hshut : s.pool.isOpen = false := by rw [Pool.isOpen, hclosed]; rfl
  have hbegins : ∀ {f : Fault}, t.pool.current = none → t.pool.tracked = [] →
      t.connections.length = s.connections.length →
      ∃ a : Attempt, a.opener = me ∧ a.events = [.begins, .fails f] ∧
        a.Comes s.connections.length t (.ended (.error (.fault f)) : Progress p.Answer) := by
    intro f hcurrent htracked hlength
    exact ⟨(Attempt.new me).endIn (.error f), rfl, rfl, .failed hcurrent htracked
      ⟨rfl, List.nil_prefix, rfl, hlength, List.forall_mem_nil _⟩⟩
  cases h with
  | arrive isOpen | arriveLater isOpen =>
    rw [hclosed] at isOpen
    cases isOpen
  | lineUp => exact absurd (by simp [openingEvents, hshut, beginningEvents]) hevents
  | beginFirst _ _ begins =>
    simp only [openingEvents, hshut, Bool.false_eq_true, if_false]
    exact begins.exists_attempt hclosed hempty me
  | beginLater _ _ begins =>
    simp only [openingEvents, hshut, Bool.false_eq_true, if_false]
    exact begins.exists_attempt hclosed hempty me
  | turnAway =>
    simp only [openingEvents, hshut, Bool.false_eq_true, if_false]
    exact hbegins hclosed hempty rfl
  | turnAwayLater =>
    simp only [openingEvents, hshut, Bool.false_eq_true, if_false]
    exact hbegins hclosed hempty rfl
  | connectFirst | connectNext | connectFails | prepared | setUp | preparingFails | abandonOne
  | abandoned => cases hphase
  | _ => exact absurd rfl hevents

/-- **Only the first in line begins an attempt**, or a visit that finds nobody in line, and only when
the pool is closed. -/
theorem first_of_step {choice : Choice} {st : Step p.Answer}
    (h : step me p choice phase s = some st) (hphase : phase.isOpening = false)
    (hevents : openingEvents s st.store st.progress phase ≠ []) :
    s.pool.current = none ∧ (phase = .entering ∧ s.pool.opening = [] ∨
      phase = .awaitingOpening ∧ s.pool.opening.head? = some me) := by
  have hclosed : s.pool.current = none := by
    cases hcurrent : s.pool.current with
    | none => rfl
    | some q => exact absurd (openingEvents_of_open hcurrent hphase) hevents
  refine ⟨hclosed, ?_⟩
  cases phase with
  | entering =>
    refine .inl ⟨rfl, ?_⟩
    cases hline : s.pool.opening with
    | nil => rfl
    | cons first others =>
      cases choice with
      | go =>
        simp only [step, go, enter, hclosed, hline, List.isEmpty_cons, Bool.false_eq_true, if_false,
          Option.some.injEq] at h
        subst h
        exact absurd (by simp [openingEvents, Pool.isOpen, hclosed, goOn, beginningEvents]) hevents
      | fail f => simp [step, fail, hline] at h
      | expire | finish => cases h
  | awaitingOpening =>
    refine .inr ⟨rfl, ?_⟩
    cases choice with
    | go =>
      simp only [step, go, Option.ite_none_right_eq_some] at h
      exact h.1
    | fail f =>
      simp only [step, fail, Option.ite_none_right_eq_some, Bool.and_eq_true, beq_iff_eq] at h
      exact h.1.2
    | expire | finish => cases h
  | connecting | preparing | abandoning => cases hphase
  | _ => exact absurd rfl hevents

/-- A visit that comes to a closed pool and begins no attempt stands in line. -/
theorem Moves.lineUp_of_nothing (h : Moves me p s phase t next) (hclosed : s.pool.current = none)
    (hphase : phase.isOpening = false) (hqueue : phase.queue? = none)
    (hnothing : openingEvents s t next phase = []) :
    t = s.withPool (s.pool.join me) ∧ next = .going .awaitingOpening := by
  have hshut : s.pool.isOpen = false := by rw [Pool.isOpen, hclosed]; rfl
  cases h with
  | arrive isOpen | arriveLater isOpen =>
    rw [hclosed] at isOpen
    cases isOpen
  | lineUp => exact ⟨rfl, rfl⟩
  | beginFirst _ _ begins | beginLater _ _ begins =>
    simp only [openingEvents, hshut, Bool.false_eq_true, if_false] at hnothing
    have hhead := begins.head?_beginningEvents
    rw [hnothing] at hhead
    cases hhead
  | turnAway | turnAwayLater =>
    simp [openingEvents, hshut, beginningEvents] at hnothing
  | connectFirst | connectNext | connectFails | prepared | setUp | preparingFails | abandonOne
  | abandoned => cases hphase
  | _ => cases hqueue

/-- **Whoever's turn it is to open a closed pool begins an attempt**, whatever comes of it. -/
theorem Moves.head?_openingEvents (h : Moves me p s .awaitingOpening t next)
    (hclosed : s.pool.current = none) :
    (openingEvents s t next .awaitingOpening).head? = some .begins := by
  have hshut : s.pool.isOpen = false := by rw [Pool.isOpen, hclosed]; rfl
  simp only [openingEvents, hshut, Bool.false_eq_true, if_false]
  cases h with
  | arriveLater isOpen =>
    rw [hclosed] at isOpen
    cases isOpen
  | beginLater _ _ begins => exact begins.head?_beginningEvents
  | turnAwayLater => rfl

/-! ### Going on -/

/-- An attempt that has made one more connection opens the pool if that was the last, and goes on to
the next one otherwise. -/
theorem CountsIn.comes {a : Attempt} {made : List Nat} {c : Nat} (h : CountsIn p u made c t next)
    (hcurrent : u.pool.current = none) (houtcome : a.outcome = none) (hclosed : a.closed = [])
    (hefforts : a.efforts = making (made ++ [c]))
    (hpartly : a.efforts <+: making (List.range' n u.pool.size.toNat))
    (htracked : u.pool.tracked = made ++ [c])
    (hlength : u.connections.length = n + (made ++ [c]).length) :
    ∃ a' : Attempt, a'.opener = a.opener ∧ a'.events = a.events ++ openedEvents t ∧
      a'.Comes n t next := by
  have hmade : a.made = made ++ [c] := by rw [Attempt.made, hefforts, filterMap_making]
  cases h with
  | last enough =>
    obtain ⟨k, hk, hnumbers⟩ := filterMap_of_prefix hpartly
    have hall : made ++ [c] = List.range' n u.pool.size.toNat := by
      have hfew : k = made.length + 1 := by
        have := congrArg List.length (hmade.symm.trans hnumbers)
        rw [List.length_range', List.length_append, List.length_singleton] at this
        omega
      rw [← hmade, show u.pool.size.toNat = k by omega]
      exact hnumbers
    refine ⟨a.endIn (.ok u.pool.queues.length), rfl, ?_, .opened rfl ?_ ?_⟩
    · rw [Attempt.events_endIn houtcome, openedEvents_of_open rfl]
      rfl
    · cases p <;> rfl
    · refine ⟨rfl, ?_, hclosed, htracked.trans hmade.symm, ?_⟩
      · exact hefforts.trans (congrArg making hall)
      · exact hlength.trans (by rw [← hmade]; rfl)
  | more few =>
    refine ⟨a, rfl, ?_, .goesOn rfl hcurrent ⟨houtcome, hpartly, ?_, ?_, ?_, hefforts, hclosed, ?_⟩⟩
    · rw [openedEvents_of_closed hcurrent, List.append_nil]
    · rw [hmade, htracked, hclosed, List.reverse_nil, List.append_nil]
    · rw [hmade, hlength]
    · rw [hclosed]
      exact nofun
    · simpa using few

theorem CountsIn.openingEvents_connecting {made numbers : List Nat} {c : Nat}
    (h : CountsIn p u made c t next) : openingEvents s t next (.connecting numbers) =
      .connects s.connections.length :: openedEvents t := by
  cases h with
  | last => cases p <;> rfl
  | more => rfl

theorem CountsIn.openingEvents_preparing {made : List Nat} {c d : Nat}
    (h : CountsIn p u made c t next) :
    openingEvents s t next (.preparing d) = .setsUp d :: openedEvents t := by
  cases h with
  | last => cases p <;> rfl
  | more => rfl

/-- A connection that is made is tracked from the start. -/
theorem track_spec {c : Nat} (h : s.connect = .ok (u, c)) :
    c = s.connections.length ∧
      (track u c).pool = { s.pool with tracked := s.pool.tracked ++ [c] } ∧
      (track u c).connections.length = s.connections.length + 1 := by
  obtain ⟨hc, hpool, k, hconnections, -⟩ := Store.connect_eq_ok h
  refine ⟨hc, ?_, ?_⟩
  · rw [← hpool]
    rfl
  · show u.connections.length = _
    rw [hconnections, List.length_append, List.length_singleton]

/-- Whoever opens the pool can go on, unless another connection has a transaction. -/
theorem exists_step_of_isOpening (me : Nat) (hphase : phase.isOpening = true)
    (hfree : ∀ c, s.isBusy c = false) : ∃ st, step me p .go phase s = some st := by
  cases phase with
  | connecting => exact ⟨_, rfl⟩
  | preparing c => exact Option.isSome_iff_exists.1 (isSome_prepare (hfree c))
  | abandoning f =>
    simp only [step, go]
    split <;> exact ⟨_, rfl⟩
  | _ => cases hphase

/-! ### Once the pool is open -/

/-- Once the pool is open it stays so, with the same queue. -/
theorem Moves.current_of_open (h : Moves me p s phase t next) {q : Nat}
    (hopen : s.pool.current = some q) (hphase : phase.isOpening = false) :
    t.pool.current = some q := by
  have hnone : s.pool.current ≠ none := by rw [hopen]; nofun
  cases h with
  | arrive | lineUp | turnAway | arriveLater | turnAwayLater | takeInMemory | takeToFile | giveUp
  | sound | unsound | replaceFails | keptOut | letGo | breakOff | commitLost | commitFails | undo
  | undoLost | giveBack => exact hopen
  | beginFirst isClosed | beginLater isClosed => exact absurd isClosed hnone
  | connectFirst | connectNext | connectFails | prepared | setUp | preparingFails | abandonOne
  | abandoned => cases hphase
  | replace made =>
    obtain ⟨-, hpool, -⟩ := Store.connect_eq_ok made
    exact (congrArg Pool.current hpool).trans hopen
  | answer alike | draft alike | refuse alike =>
    exact (congrArg Pool.current alike.pool).trans hopen
  | writeAtOnce alike =>
    exact (congrArg Pool.current ((Store.pool_write _ _ _).trans alike.pool)).trans hopen
  | strike alike =>
    exact (congrArg Pool.current ((Store.pool_beginTransaction _ _).trans alike.pool)).trans hopen
  | commit => exact (congrArg Pool.current (Store.pool_commit _ _)).trans hopen

/-- An open pool tracks as many connections after a move as before. -/
theorem Moves.length_tracked (h : Moves me p s phase t next) (hphase : phase.isOpening = false)
    (hnodup : s.pool.tracked.Nodup) (hheld : ∀ c, c ∈ phase.held → c ∈ s.pool.tracked) :
    t.pool.tracked.length = s.pool.tracked.length := by
  cases h.tracking.2.2 with
  | same tracked => rw [tracked]
  | grown phase | shrunk phase =>
    rw [phase] at hphase
    cases hphase
  | @changed q c new u phase made same tracked =>
    have hc : c ∈ s.pool.tracked := hheld c (by rw [phase]; exact List.mem_singleton.2 rfl)
    have hpositive := List.length_pos_of_mem hc
    have herase : s.pool.tracked.filter (fun d => d != c) = s.pool.tracked.erase c :=
      (hnodup.erase_eq_filter c).symm
    rw [tracked, Pool.retrack, List.length_append, herase, List.length_erase_of_mem hc,
      List.length_singleton]
    omega

/-- The first in line leaves an open pool as it is, but for the line. -/
theorem step_of_first {q : Nat} (hopen : s.pool.current = some q)
    (hfirst : s.pool.opening.head? = some me) :
    step me p .go .awaitingOpening s = some ⟨s.withPool s.pool.leave, [], arrival p q⟩ := by
  simp only [step, go, hfirst, if_true, takeTurn, hopen, withOpenPool_eq]

/-! ### Visits that only open the pool -/

/-- **A visit that only opens the pool ends at once when it is open**, and connects to nothing. -/
theorem step_of_open {choice : Choice} {phase : Phase (Purpose.Answer .openPool)}
    {st : Step (Purpose.Answer .openPool)} (h : step me .openPool choice phase s = some st) {q : Nat}
    (hopen : s.pool.current = some q) (hphase : phase.isOpening = false)
    (hqueue : phase.queue? = none) :
    st.progress = .ended (.ok ()) ∧ (st.store = s ∨ st.store = s.withPool s.pool.leave) := by
  cases phase with
  | entering =>
    cases choice with
    | go =>
      simp only [step, go, enter, hopen, withOpenPool, Option.some.injEq] at h
      subst h
      exact ⟨rfl, .inl rfl⟩
    | fail f => simp [step, fail, mayLackDirectory, hopen] at h
    | expire | finish => cases h
  | awaitingOpening =>
    cases choice with
    | go =>
      simp only [step, go, takeTurn, hopen, withOpenPool, Option.ite_none_right_eq_some,
        Option.some.injEq] at h
      obtain ⟨-, rfl⟩ := h
      exact ⟨rfl, .inr rfl⟩
    | fail f => simp [step, fail, mayLackDirectory, hopen] at h
    | expire | finish => cases h
  | connecting | preparing | abandoning => cases hphase
  | _ => cases hqueue

/-- Whoever's turn it is to open the pool fails only if it is closed. -/
theorem isClosed_of_error {choice : Choice} {st : Step p.Answer} {failure : Failure}
    (h : step me p choice .awaitingOpening s = some st)
    (hended : st.progress = .ended (.error failure)) : s.pool.current = none := by
  cases hcurrent : s.pool.current with
  | none => rfl
  | some q =>
    cases choice with
    | go =>
      simp only [step, go, takeTurn, hcurrent, Option.ite_none_right_eq_some,
        Option.some.injEq] at h
      obtain ⟨-, rfl⟩ := h
      cases p <;> cases hended
    | fail f => simp [step, fail, mayLackDirectory, hcurrent] at h
    | expire | finish => cases h

/-- A visit that has only opened the pool leaves it open. -/
theorem Moves.isOpen_of_ended {phase : Phase (Purpose.Answer .openPool)}
    {a : Purpose.Answer .openPool} (h : Moves me .openPool s phase t (.ended (.ok a)))
    (hqueue : phase.queue? = none) : t.pool.current ≠ none := by
  generalize hnext : Progress.ended (Except.ok a) = next at h
  have hbegins : ∀ {u : Store}, Begins .openPool u t next → t.pool.current ≠ none := by
    intro u begins
    cases begins with
    | refused | going => cases hnext
    | empty => exact nofun
  have hcounts : ∀ {u : Store} {made : List Nat} {c : Nat},
      CountsIn .openPool u made c t next → t.pool.current ≠ none := by
    intro u made c counts
    cases counts with
    | last => exact nofun
    | more => cases hnext
  cases h with
  | arrive isOpen =>
    rw [isOpen]
    exact nofun
  | arriveLater isOpen =>
    show s.pool.current ≠ none
    rw [isOpen]
    exact nofun
  | beginFirst _ _ begins | beginLater _ _ begins => exact hbegins begins
  | connectNext _ _ counts | prepared _ counts | setUp _ _ _ counts => exact hcounts counts
  | lineUp | turnAway | turnAwayLater | connectFirst | connectFails | preparingFails | abandonOne
  | abandoned => cases hnext
  | _ => cases hqueue

/-- **A visit that only opens the pool fails with its own attempt.** -/
theorem fails_of_step {choice : Choice} {phase : Phase (Purpose.Answer .openPool)}
    {st : Step (Purpose.Answer .openPool)} {failure : Failure}
    (h : step me .openPool choice phase s = some st) (hqueue : phase.queue? = none)
    (hended : st.progress = .ended (.error failure)) :
    ∃ f, failure = .fault f ∧ OpeningEvent.fails f ∈ openingEvents s st.store st.progress phase := by
  have hmove : Moves me .openPool s phase st.store st.progress := moves_of_step h
  have hclosed : phase = .awaitingOpening → s.pool.current = none := by
    rintro rfl
    exact isClosed_of_error h hended
  rcases st with ⟨t, notes, next⟩
  dsimp only at hmove hended ⊢
  have hbegins : ∀ {u : Store}, Begins .openPool u t next →
      ∃ f, failure = .fault f ∧ OpeningEvent.fails f ∈ beginningEvents t next := by
    intro u begins
    cases begins with
    | @refused _ f =>
      cases hended
      exact ⟨f, rfl, by simp [beginningEvents]⟩
    | empty | going => cases hended
  have hcounts : ∀ {u : Store} {made : List Nat} {c : Nat},
      ¬ CountsIn .openPool u made c t next := by
    intro u made c counts
    cases counts with
    | last | more => cases hended
  cases hmove with
  | beginFirst isClosed _ begins | beginLater isClosed _ begins =>
    simp only [openingEvents, Pool.isOpen, isClosed, Option.isSome_none, Bool.false_eq_true,
      if_false]
    exact hbegins begins
  | turnAway isClosed =>
    cases hended
    exact ⟨_, rfl, by simp [openingEvents, Pool.isOpen, isClosed, beginningEvents]⟩
  | turnAwayLater =>
    cases hended
    exact ⟨_, rfl, by simp [openingEvents, Pool.isOpen, hclosed rfl, beginningEvents]⟩
  | abandoned none =>
    cases hended
    exact ⟨_, rfl, by simp [openingEvents, none]⟩
  | connectNext _ _ counts | prepared _ counts | setUp _ _ _ counts => exact (hcounts counts).elim
  | arrive | arriveLater | lineUp | connectFirst | connectFails | preparingFails | abandonOne =>
    cases hended
  | _ => cases hqueue

end Visit

namespace Attempt.At

variable {me : Nat} {p : Purpose} {s t : Store} {phase : Phase p.Answer}
  {next : Progress p.Answer} {a : Attempt} {n : Nat}

/-- The connections of an attempt have the numbers from `n` on. -/
theorem made_eq (h : a.At n s phase) : a.made = List.range' n a.made.length :=
  made_of_partly h.partly

/-- What an attempt has made is there. -/
theorem lt_of_mem_made (h : a.At n s phase) {c : Nat} (hc : c ∈ a.made) :
    c < s.connections.length := by
  rw [h.made_eq, List.mem_range'_1] at hc
  rw [h.length]
  exact hc.2

/-- There is room for one more connection. -/
theorem partly_concat (h : a.At n s phase) {numbers : List Nat}
    (hefforts : a.efforts = making numbers) (hfew : (numbers.length : Int) < s.pool.size) :
    making (numbers ++ [s.connections.length]) <+: making (List.range' n s.pool.size.toNat) := by
  have hmade : a.made = numbers := by rw [made, hefforts, filterMap_making]
  have hnumbers := h.made_eq
  rw [hmade] at hnumbers
  have hnext : numbers ++ [s.connections.length] = List.range' n (numbers.length + 1) := by
    rw [h.length, hmade, List.range'_concat, ← hnumbers, Nat.one_mul]
  rw [hnext]
  exact isPrefix_making (isPrefix_numbers n (by omega))

/-- The database is set up by way of the first connection. -/
theorem setsUp {u : Store} {c : Nat} (h : a.At n s (.preparing c : Phase p.Answer))
    (hcounts : Visit.CountsIn p u [] c t next) (hpool : u.pool = s.pool)
    (hlength : u.connections.length = s.connections.length) (hclosed : s.pool.current = none) :
    ∃ a' : Attempt, a'.opener = a.opener ∧
      a'.events = a.events ++ .setsUp c :: Visit.openedEvents t ∧ a'.Comes n t next := by
  obtain ⟨hefforts, hnone, hroom⟩ := h.fits
  have hmade : a.made = [c] := by rw [made, hefforts]; rfl
  have hmore : (a.more [.setsUp c]).efforts = making ([] ++ [c]) := by rw [more, hefforts]; rfl
  have hnumbers := h.made_eq
  rw [hmade] at hnumbers
  obtain ⟨a', hopener, hevents, hcomes⟩ := hcounts.comes (n := n) (by rw [hpool]; exact hclosed)
    (a := a.more [.setsUp c]) h.outcome hnone hmore
    (by
      rw [hmore, List.nil_append, hnumbers, hpool]
      exact isPrefix_making (isPrefix_numbers n (by simp; omega)))
    (by rw [hpool, List.nil_append, ← hmade, h.tracked, hnone]; simp)
    (by rw [hlength, h.length, hmade]; rfl)
  refine ⟨a', hopener, ?_, hcomes⟩
  rw [hevents, events_more hnone h.outcome, List.append_assoc]
  rfl

/-- **A step of an attempt takes it further.** -/
theorem moves (h : a.At n s phase) (hmove : Visit.Moves me p s phase t next)
    (hphase : phase.isOpening = true) (hclosed : s.pool.current = none) :
    ∃ a' : Attempt, a'.opener = a.opener ∧
      a'.events = a.events ++ Visit.openingEvents s t next phase ∧ a'.Comes n t next := by
  have hshut : ∀ c, c ∈ a.closed → t.isOpen c = false := by
    intro c hc
    have hmade : c ∈ a.made := by simp [h.tracked, hc]
    exact hmove.isClosed (h.lt_of_mem_made hmade) (h.shut c hc)
  cases hmove with
  | @connectFirst u c made =>
    obtain ⟨hefforts, hnone, hfew⟩ := h.fits
    obtain ⟨rfl, hpool, hlength⟩ := Visit.track_spec made
    have hcurrent : (Visit.track u s.connections.length).pool.current = none := by
      rw [hpool]
      exact hclosed
    refine ⟨a.more [.connects s.connections.length], rfl, ?_, .goesOn rfl hcurrent
      ⟨h.outcome, ?_, ?_, ?_, hshut, ?_, hnone, ?_⟩⟩
    · rw [events_more hnone h.outcome]
      simp [Visit.openingEvents, Visit.openedEvents_of_closed hcurrent]
    · have hfirst := h.partly_concat hefforts hfew
      rw [hpool, more, hefforts]
      exact .trans ⟨[.setsUp s.connections.length], rfl⟩ hfirst
    · rw [made_more, h.tracked, hpool]
      simp [OpeningEvent.made?, more, hnone]
    · rw [made_more, hlength, h.length]
      simp [OpeningEvent.made?, Nat.add_assoc]
    · rw [more, hefforts]
      rfl
    · rw [hpool]
      exact hfew
  | @connectNext made u _ c _ some connected counts =>
    obtain ⟨hefforts, hnone, hfew⟩ := h.fits
    obtain ⟨rfl, hpool, hlength⟩ := Visit.track_spec connected
    have hmade : a.made = made := by rw [Attempt.made, hefforts, filterMap_making]
    have hmore : (a.more [.connects s.connections.length]).efforts =
        making (made ++ [s.connections.length]) := by
      rw [making_concat some, ← hefforts]
      rfl
    obtain ⟨a', hopener, hevents, hcomes⟩ := counts.comes (n := n) (by rw [hpool]; exact hclosed)
      (a := a.more [.connects s.connections.length]) h.outcome hnone hmore
      (by rw [hmore, hpool]; exact h.partly_concat hefforts hfew)
      (by rw [hpool, ← hmade, h.tracked, hnone]; simp)
      (by rw [hlength, h.length, hmade, List.length_append, List.length_singleton, Nat.add_assoc])
    refine ⟨a', hopener, ?_, hcomes⟩
    rw [hevents, events_more hnone h.outcome, List.append_assoc, counts.openingEvents_connecting]
    rfl
  | connectFails =>
    refine ⟨a, rfl, (List.append_nil _).symm, .goesOn rfl hclosed ?_⟩
    exact { h with fits := trivial }
  | @prepared c u _ _ alike counts =>
    obtain ⟨hefforts, hnone, hroom⟩ := h.fits
    obtain ⟨a', hopener, hevents, hcomes⟩ := h.setsUp counts (by rw [alike.pool]) alike.length hclosed
    refine ⟨a', hopener, ?_, hcomes⟩
    rw [hevents, counts.openingEvents_preparing]
  | @setUp c u _ d _ alike free carried counts =>
    obtain ⟨a', hopener, hevents, hcomes⟩ := h.setsUp counts
      ((Store.pool_write u c d).trans alike.pool) ((Store.length_write u c d).trans alike.length)
      hclosed
    refine ⟨a', hopener, ?_, hcomes⟩
    rw [hevents, counts.openingEvents_preparing]
  | preparingFails alike =>
    refine ⟨a, rfl, (List.append_nil _).symm, .goesOn rfl ?_ ?_⟩
    · rw [alike.pool]
      exact hclosed
    · refine ⟨h.outcome, ?_, ?_, alike.length.trans h.length, hshut, trivial⟩
      · rw [alike.pool]
        exact h.partly
      · rw [alike.pool]
        exact h.tracked
  | @abandonOne f c last =>
    obtain ⟨front, hfront⟩ := List.getLast?_eq_some_iff.1 last
    refine ⟨a.close c, rfl, ?_, .goesOn rfl hclosed ⟨h.outcome, h.partly, ?_, ?_, ?_, trivial⟩⟩
    · rw [events_close h.outcome]
      simp [Visit.openingEvents, last]
    · show a.made = s.pool.tracked.dropLast ++ (a.closed ++ [c]).reverse
      rw [h.tracked, hfront]
      simp
    · exact (Store.length_close s c).trans h.length
    · intro d hd
      obtain hd | hd := List.mem_append.1 hd
      · exact hshut d hd
      · rw [List.mem_singleton.1 hd]
        exact Store.isOpen_close_self s c
  | @abandoned f none =>
    have hreverse : a.made = a.closed.reverse := by rw [h.tracked, none, List.nil_append]
    refine ⟨a.endIn (.error f), rfl, ?_, .failed hclosed none ⟨rfl, h.partly, ?_, h.length, ?_⟩⟩
    · rw [events_endIn h.outcome]
      simp [Visit.openingEvents, none, ending]
    · show a.closed = a.made.reverse
      rw [hreverse, List.reverse_reverse]
    · intro c hc
      have hc : c ∈ a.made := hc
      rw [hreverse, List.mem_reverse] at hc
      exact h.shut c hc
  | _ => cases hphase

end Attempt.At

end CharacterLedger.Storage
