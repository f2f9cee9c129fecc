import CharacterLedger.Proofs.Storage.Opened
import CharacterLedger.Proofs.Storage.Tracked
import CharacterLedger.Proofs.Storage.Waiting

/-!
# What happens in an attempt to open the pool

An attempt to open the pool shows in the steps of its visit.  Each step contributes at most a few
events, and what an event says is what has become of the store in that step.

* `OpeningEvent` — what happens in an attempt;
* `Visit.openingEvents` — what a step of a visit contributes;
* `OpeningEvent.Says`, `Visit.says_of_step` — what the events say about the stores before and after
  the step.
-/

namespace CharacterLedger.Storage

open CharacterLedger.Table

/-! ### Events -/

/-- What happens in an attempt to open the pool. -/
inductive OpeningEvent where
  | begins
  | connects (c : Nat)
  /-- The database is set up by way of a connection. -/
  | setsUp (c : Nat)
  | closes (c : Nat)
  | fails (f : Fault)
  /-- The pool is open, with a queue. -/
  | opens (q : Nat)
deriving DecidableEq, Repr

/-- The connection that is made. -/
def OpeningEvent.made? : OpeningEvent → Option Nat
  | connects c => some c
  | begins | setsUp _ | closes _ | fails _ | opens _ => none

/-! ### What a step contributes -/

namespace Visit

variable {α : Type}

/-- The event that the pool has been opened, if it has. -/
def openedEvents (t : Store) : List OpeningEvent := t.pool.current.toList.map .opens

/-- What happens when a visit comes to a pool that is closed, or its turn to open it comes. -/
def beginningEvents (t : Store) : Progress α → List OpeningEvent
  | .going .awaitingOpening => []
  | .ended (.error (.fault f)) => [.begins, .fails f]
  | _ => .begins :: openedEvents t

/-- What a step of a visit contributes to opening the pool, from one store to another. -/
def openingEvents (s t : Store) (next : Progress α) : Phase α → List OpeningEvent
  | .entering | .awaitingOpening => if s.pool.isOpen then [] else beginningEvents t next
  | .connecting _ =>
    match next with
    | .going (.abandoning _) => []
    | _ => .connects s.connections.length :: openedEvents t
  | .preparing c =>
    match next with
    | .going (.abandoning _) => []
    | _ => .setsUp c :: openedEvents t
  | .abandoning f =>
    match s.pool.tracked.getLast? with
    | some c => [.closes c]
    | none => [.fails f]
  | _ => []

variable {me : Nat} {p : Purpose} {s t u : Store} {phase : Phase p.Answer}
  {next : Progress p.Answer} {n : Nat}

theorem openedEvents_of_closed (h : t.pool.current = none) : openedEvents t = [] := by
  simp [openedEvents, h]

theorem openedEvents_of_open {q : Nat} (h : t.pool.current = some q) :
    openedEvents t = [.opens q] := by
  simp [openedEvents, h]

/-- Nothing happens to a pool that is open. -/
theorem openingEvents_of_open {q : Nat} (h : s.pool.current = some q)
    (hphase : phase.isOpening = false) : openingEvents s t next phase = [] := by
  cases phase with
  | entering | awaitingOpening => simp [openingEvents, Pool.isOpen, h]
  | connecting | preparing | abandoning => cases hphase
  | _ => rfl

/-! ### What the events say -/

end Visit

/-- What an event says about the stores before and after its step. -/
def OpeningEvent.Says (s t : Store) : OpeningEvent → Prop
  | begins => s.pool.current = none
  | connects c =>
    c = s.connections.length ∧ t.connections.length = c + 1 ∧ t.isOpen c = true
  | setsUp c => ∃ k, s.connection? c = some k ∧ k.isOpen = true ∧
      t.disk = s.disk.setContent k.file (s.disk.content k.file).setUp
  | closes c => s.pool.tracked.getLast? = some c ∧ t = s.closeLast c
  | fails _ => t.pool.current = none
  | opens q => s.pool.current = none ∧ t.pool.current = some q

namespace Visit

variable {me : Nat} {p : Purpose} {s t u : Store} {phase : Phase p.Answer}
  {next : Progress p.Answer} {e : OpeningEvent}

/-- A connection without a transaction sees its file. -/
theorem content_of_draft {k : Connection} (h : k.draft = none) :
    s.content k = s.disk.content k.file := by
  rw [Store.content, h, Option.getD_none]

/-- **The database is set up when it has been found in order**, or has been written so. -/
theorem setsUp_of_prepare {c : Nat} {st : Step p.Answer} (h : prepare p s c = some st)
    (hdraft : ∀ k, s.connection? c = some k → k.draft = none) :
    (∃ f, st.progress = .going (.abandoning f)) ∨
      (OpeningEvent.setsUp c).Says s st.store := by
  obtain ⟨halike, hasked⟩ := Store.ask_spec s c .version (.ok ()) fun d => .ok d.version
  unfold prepare at h
  rcases hask : s.ask c .version (.ok ()) (fun d => .ok d.version) with ⟨t, r⟩
  rw [hask] at h halike hasked
  cases r with
  | error f =>
    cases h
    exact .inl ⟨f, rfl⟩
  | ok version =>
    obtain ⟨k, hk, hopen, hversion⟩ := hasked version rfl
    rw [content_of_draft (hdraft k hk), Except.ok.injEq] at hversion
    dsimp only at h halike
    cases hwrites : setUpWrites version with
    | false =>
      simp only [hwrites, Bool.not_false, if_true, Option.some.injEq] at h
      subst h
      refine .inr ⟨k, hk, hopen, ?_⟩
      rw [(countsIn_countIn p t [] c _).spec.1.disk, halike.disk,
        setUp_of_not_writes (hversion ▸ hwrites), Disk.setContent_content]
    | true =>
      simp only [hwrites, Bool.not_true, Bool.false_eq_true, if_false,
        Option.ite_none_left_eq_some] at h
      obtain ⟨-, h⟩ := h
      obtain ⟨halike', haltered⟩ := Store.alter_spec t c .setUp (.ok ()) fun d => .ok d.setUp
      rcases halter : t.alter c .setUp (.ok ()) (fun d => .ok d.setUp) with ⟨u, r⟩
      rw [halter] at h halike' haltered
      cases r with
      | error f =>
        cases h
        exact .inl ⟨f, rfl⟩
      | ok d =>
        cases h
        obtain ⟨k', hk', -, hd⟩ := halike.carriedOut (haltered d rfl)
        rw [hk, Option.some.injEq] at hk'
        subst hk'
        rw [content_of_draft (hdraft k hk), Except.ok.injEq] at hd
        have hmatches := (halike.trans halike').toMatches.write c d
        refine .inr ⟨k, hk, hopen, ?_⟩
        rw [(countsIn_countIn p _ [] c _).spec.1.disk, hmatches.disk, Store.disk_write hk, hd]

/-- A visit that has made a connection has made an open one. -/
theorem Moves.connects {numbers : List Nat} (h : Moves me p s (.connecting numbers) t next) :
    (∃ f, next = .going (.abandoning f)) ∨
      (OpeningEvent.connects s.connections.length).Says s t := by
  have htrack : ∀ {u : Store} {c : Nat}, s.connect = .ok (u, c) →
      (track u c).connections.length = s.connections.length + 1 ∧
        (track u c).isOpen s.connections.length = true := by
    intro u c made
    obtain ⟨rfl, -, k, hconnections, -⟩ := Store.connect_eq_ok made
    refine ⟨?_, ?_⟩
    · show u.connections.length = _
      rw [hconnections, List.length_append, List.length_singleton]
    · show u.isOpen s.connections.length = true
      exact Store.isOpen_of_connect made
  cases h with
  | connectFirst made => exact .inr ⟨rfl, htrack made⟩
  | connectNext _ made counts =>
    obtain ⟨hlength, hopen⟩ := htrack made
    have hmatches := counts.spec.1
    exact .inr ⟨rfl, hmatches.length.trans hlength, (hmatches.isOpen _).trans hopen⟩
  | connectFails => exact .inl ⟨_, rfl⟩

theorem not_fails_mem_openedEvents (t : Store) (f : Fault) :
    OpeningEvent.fails f ∉ openedEvents t := by
  intro hf
  obtain ⟨q, -, hq⟩ := List.mem_map.1 hf
  cases hq

/-- What begins and fails at once ends its visit. -/
theorem ended_of_fails {f : Fault} (h : OpeningEvent.fails f ∈ beginningEvents t next) :
    next = .ended (.error (.fault f)) := by
  unfold beginningEvents at h
  split at h
  · cases h
  · obtain hbegins | hfails := List.mem_cons.1 h
    · cases hbegins
    · cases List.mem_singleton.1 hfails
      rfl
  · obtain hbegins | hopens := List.mem_cons.1 h
    · cases hbegins
    · exact absurd hopens (not_fails_mem_openedEvents t f)

theorem Begins.current_of_ended {failure : Failure} (h : Begins p u t (.ended (.error failure)))
    (hclosed : u.pool.current = none) : t.pool.current = none := by
  generalize hnext : Progress.ended (.error failure) = next at h
  cases h with
  | refused made =>
    obtain ⟨hpool, -⟩ := Store.pool_makeDirectory made
    rw [← hclosed, ← hpool]
    rfl
  | empty => cases p <;> cases hnext
  | going => cases hnext

/-- **An attempt that fails ends its visit with the fault**, and the pool is closed. -/
theorem Moves.of_fails {f : Fault} (h : Moves me p s phase t next)
    (hclosed : phase.isOpening = true → s.pool.current = none)
    (hf : OpeningEvent.fails f ∈ openingEvents s t next phase) :
    next = .ended (.error (.fault f)) ∧ t.pool.current = none := by
  have hbegins : OpeningEvent.fails f ∈ (if s.pool.isOpen then [] else beginningEvents t next) →
      s.pool.current = none ∧ next = .ended (.error (.fault f)) := by
    intro hmem
    cases hcurrent : s.pool.current with
    | some q => simp [Pool.isOpen, hcurrent] at hmem
    | none =>
      simp only [Pool.isOpen, hcurrent, Option.isSome_none, Bool.false_eq_true, if_false] at hmem
      exact ⟨rfl, ended_of_fails hmem⟩
  cases phase with
  | entering =>
    obtain ⟨hnone, rfl⟩ := hbegins hf
    refine ⟨rfl, ?_⟩
    generalize hnext : Progress.ended (.error (.fault f)) = next at h
    cases h with
    | arrive => cases p <;> cases hnext
    | lineUp => cases hnext
    | turnAway => exact hnone
    | beginFirst _ _ begins => exact (hnext ▸ begins).current_of_ended hnone
  | awaitingOpening =>
    obtain ⟨hnone, rfl⟩ := hbegins hf
    refine ⟨rfl, ?_⟩
    generalize hnext : Progress.ended (.error (.fault f)) = next at h
    cases h with
    | arriveLater => cases p <;> cases hnext
    | turnAwayLater => exact hnone
    | beginLater _ _ begins => exact (hnext ▸ begins).current_of_ended hnone
  | connecting | preparing =>
    unfold openingEvents at hf
    dsimp only at hf
    split at hf
    · cases hf
    · obtain hmade | hopens := List.mem_cons.1 hf
      · cases hmade
      · exact absurd hopens (not_fails_mem_openedEvents t f)
  | abandoning g =>
    have hnone := hclosed rfl
    cases h with
    | abandonOne last => simp [openingEvents, last] at hf
    | abandoned none =>
      simp only [openingEvents, none, List.getLast?_nil, List.mem_singleton,
        OpeningEvent.fails.injEq] at hf
      subst hf
      exact ⟨rfl, hnone⟩
  | _ => cases hf

/-- **The events of a step say what has become of the store in it.** -/
theorem says_of_step {choice : Choice} {st : Step p.Answer}
    (h : step me p choice phase s = some st)
    (hclosed : phase.isOpening = true → s.pool.current = none)
    (hdraft : ∀ c, phase = .preparing c → ∀ k, s.connection? c = some k → k.draft = none)
    (he : e ∈ openingEvents s st.store st.progress phase) : e.Says s st.store := by
  have hopened : ∀ {t : Store}, s.pool.current = none → e ∈ openedEvents t → e.Says s t := by
    intro t hnone hopens
    obtain ⟨q, hq, rfl⟩ := List.mem_map.1 hopens
    exact ⟨hnone, Option.mem_toList.1 hq⟩
  have hfails : ∀ f, e = .fails f → e.Says s st.store := by
    rintro f rfl
    exact ((moves_of_step h).of_fails hclosed he).2
  have hbegins : e ∈ (if s.pool.isOpen then [] else beginningEvents st.store st.progress) →
      e.Says s st.store := by
    intro hmem
    have hnone : s.pool.current = none := by
      cases hcurrent : s.pool.current with
      | none => rfl
      | some q => simp [Pool.isOpen, hcurrent] at hmem
    rw [Pool.isOpen, hnone] at hmem
    unfold beginningEvents at hmem
    simp only [Option.isSome_none, Bool.false_eq_true, if_false] at hmem
    split at hmem
    · cases hmem
    · obtain rfl | hfailed : e = _ ∨ e = _ := by simpa using hmem
      · exact hnone
      · exact hfails _ hfailed
    · obtain rfl | hopens := List.mem_cons.1 hmem
      · exact hnone
      · exact hopened hnone hopens
  cases phase with
  | entering | awaitingOpening => exact hbegins he
  | connecting numbers =>
    have hnone := hclosed rfl
    have hconnects := (moves_of_step h).connects
    unfold openingEvents at he
    dsimp only at he
    split at he
    · cases he
    · next hgoing =>
      obtain rfl | hopens := List.mem_cons.1 he
      · exact hconnects.resolve_left fun ⟨f, hf⟩ => hgoing f hf
      · exact hopened hnone hopens
  | preparing c =>
    have hnone := hclosed rfl
    unfold openingEvents at he
    dsimp only at he
    split at he
    · cases he
    · next hgoing =>
      obtain rfl | hopens := List.mem_cons.1 he
      · cases choice with
        | go =>
          exact (setsUp_of_prepare h (hdraft c rfl)).resolve_left fun ⟨f, hf⟩ => hgoing f hf
        | expire =>
          simp only [step, expire, Option.ite_none_right_eq_some, Option.some.injEq] at h
          obtain ⟨-, rfl⟩ := h
          exact absurd rfl (hgoing .locked)
        | fail f =>
          simp only [step, fail, Option.ite_none_right_eq_some, Option.some.injEq] at h
          obtain ⟨-, rfl⟩ := h
          exact absurd rfl (hgoing f)
        | finish => cases h
      · exact hopened hnone hopens
  | abandoning f =>
    have hmove : Moves me p s (.abandoning f) st.store st.progress := moves_of_step h
    generalize st.store = t, st.progress = next at hmove
    cases hmove with
    | abandonOne last =>
      simp only [openingEvents, last, List.mem_singleton] at he
      subst he
      exact ⟨last, rfl⟩
    | abandoned none =>
      simp only [openingEvents, none, List.getLast?_nil, List.mem_singleton] at he
      subst he
      exact hclosed rfl
  | _ => cases he

end Visit

end CharacterLedger.Storage
