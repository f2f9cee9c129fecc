import CharacterLedger.Proofs.Ledger.Conservation
import CharacterLedger.Proofs.Ledger.Exclusion
import CharacterLedger.Proofs.Storage.Waiting

/-!
# There is no deadlock

A task waits for the lock of its character, for its turn to open the pool, for a connection and for
the transaction of another connection to end, and it needs them in this order.  Whoever has what
another waits for needs at most something of a lower rank, and so some task can always go on without
a wait that expires.

* `Call.IsOrdinary` — calls that keep a connection no longer than they use it;
* `Task.Lacks`, `System.Lacks` — a task waits for something;
* `System.Steady` — the system in order, with ordinary calls and a pool that has places;
* `System.Steady.lower` — if a task waits then some task can go on, or waits for something of a
  lower rank;
* `System.Steady.exists_goes` — as long as a task has not ended, some task can go on;
* `Run.never_stuck` — this holds in every state of every run, and a task waits for a lock only while
  another one that is about the same character is before it.
-/

namespace CharacterLedger.Ledger

open CharacterLedger.Storage

/-- An operation of the ledger, a call that asks a question or writes a record, or one that opens
the pool.  Nobody else borrows a connection, closes the pool or keeps a lock. -/
def Call.IsOrdinary : Call → Prop
  | .execute _ | .rating .. | .openPool => True
  | .borrow e => (Purpose.borrow e).IsOrdinary
  | .closePool | .holdLock .. => False

namespace Call.IsOrdinary

variable {call : Call}

theorem purpose? (h : call.IsOrdinary) {p : Purpose} (hp : call.purpose? = some p) :
    p.IsOrdinary := by
  cases call with
  | borrow | openPool =>
    cases hp
    exact h
  | execute | rating | closePool | holdLock => cases hp

end Call.IsOrdinary

/-! ### Tasks that wait -/

namespace Task

variable {id : Nat} {t : Task} {w : World}

/-- A task waits for something. -/
inductive Lacks (id : Nat) (w : World) (st : Stage) : Need → Prop
  /-- Others are before it in the line of the lock. -/
  | lock {lock : Nat} (queued : st.lock? = some (lock, false))
      (others : w.locks.isHeldBy lock id = false) : Lacks id w st .lock
  /-- Its visit to the pool waits. -/
  | visit {p : Purpose} {phase : Phase p.Answer} {n : Need} (on : st.visit? = some ⟨p, phase⟩)
      (lacks : Visit.Lacks id w.store phase n) : Lacks id w st n

/-- A task stands where its stage says. -/
theorem lock?_of_standing? {st : Standing} (h : t.standing? = some st) :
    t.stage.lock? = some (st.lock, st.holds) := by
  unfold standing? at h
  split at h
  · next hlock _ =>
    cases h
    exact hlock
  · cases h

/-- The visits of an ordinary call are ordinary. -/
theorem isOrdinary_of_visit {call : Call} {st : Stage} (hordinary : call.IsOrdinary)
    (hfits : Fits call st) {p : Purpose} {phase : Phase p.Answer}
    (hvisit : st.visit? = some ⟨p, phase⟩) : p.IsOrdinary := by
  cases st with
  | visiting =>
    cases hvisit
    exact hordinary.purpose? hfits
  | loading | saving =>
    cases hvisit
    exact trivial
  | ready | closing | queued | queuedToHold | holding | done => cases hvisit

/-- A task on a visit can take a step when its visit can. -/
theorem isSome_step_of_visit {p : Purpose} {phase : Phase p.Answer}
    (hvisit : t.stage.visit? = some ⟨p, phase⟩) (choice : Choice) :
    (t.step id choice w).isSome = (Visit.step id p choice phase w.store).isSome := by
  cases hs : t.stage with
  | visiting | loading | saving =>
    rw [hs] at hvisit
    cases hvisit
    simp only [step, hs, visit, Option.isSome_map]
  | ready | closing | queued | queuedToHold | holding | done =>
    rw [hs] at hvisit
    cases hvisit

/-- A task that waits for a lock can take it once it is the first in its line. -/
theorem isSome_step_of_isHeldBy {lock : Nat} (hqueued : t.stage.lock? = some (lock, false))
    (hfirst : w.locks.isHeldBy lock id = true) : (t.step id .go w).isSome = true := by
  cases hs : t.stage with
  | queued | queuedToHold =>
    rw [hs] at hqueued
    cases hqueued
    simp [step, advance, hs, hfirst]
  | ready | visiting | closing | loading | saving | holding | done =>
    rw [hs] at hqueued
    cases hqueued

/-- A visit of an ordinary call that does not wait takes its task on. -/
theorem goes_or_lacks_of_visit (id : Nat) (w : World) (hordinary : t.call.IsOrdinary)
    (hfits : Fits t.call t.stage) (htransacts : Visiting.Transacts t.stage.visit?)
    (herrand : Visiting.OnErrand t.stage.visit?) {p : Purpose} {phase : Phase p.Answer}
    (hvisit : t.stage.visit? = some ⟨p, phase⟩) :
    (t.step id .go w).isSome = true ∨ ∃ n, Visit.Lacks id w.store phase n := by
  rw [isSome_step_of_visit hvisit]
  rw [hvisit] at htransacts herrand
  exact Visit.goes_or_lacks id w.store (isOrdinary_of_visit hordinary hfits hvisit) htransacts
    herrand

/-- **An ordinary task can go on until it has ended, unless it waits.** -/
theorem goes_or_lacks (id : Nat) (w : World) (hordinary : t.call.IsOrdinary)
    (hfits : Fits t.call t.stage) (htransacts : Visiting.Transacts t.stage.visit?)
    (herrand : Visiting.OnErrand t.stage.visit?) :
    (∃ r, t.stage = .done r) ∨ (t.step id .go w).isSome = true ∨ ∃ n, Lacks id w t.stage n := by
  have hvisits : ∀ {p : Purpose} {phase : Phase p.Answer}, t.stage.visit? = some ⟨p, phase⟩ →
      (t.step id .go w).isSome = true ∨ ∃ n, Lacks id w t.stage n := by
    intro p phase hvisit
    refine (goes_or_lacks_of_visit id w hordinary hfits htransacts herrand hvisit).imp_right ?_
    rintro ⟨n, hlacks⟩
    exact ⟨n, .visit hvisit hlacks⟩
  have hlocks : ∀ {lock : Nat}, t.stage.lock? = some (lock, false) →
      (t.step id .go w).isSome = true ∨ ∃ n, Lacks id w t.stage n := by
    intro lock hqueued
    cases hfirst : w.locks.isHeldBy lock id with
    | true => exact .inl (isSome_step_of_isHeldBy hqueued hfirst)
    | false => exact .inr ⟨_, .lock hqueued hfirst⟩
  cases hs : t.stage with
  | ready => exact .inr (.inl (by simp [step, advance, hs]))
  | visiting | loading | saving =>
    rw [← hs]
    exact .inr (hvisits (by rw [hs]; rfl))
  | queued | queuedToHold =>
    rw [← hs]
    exact .inr (hlocks (by rw [hs]; rfl))
  | closing =>
    rw [hs] at hfits
    rw [hfits] at hordinary
    exact hordinary.elim
  | holding =>
    rw [hs] at hfits
    obtain ⟨huse, key, hkey⟩ := hfits
    obtain ⟨_, _, hholds⟩ := Call.exists_holdLock huse hkey
    rw [hholds] at hordinary
    exact hordinary.elim
  | done r => exact .inl ⟨r, rfl⟩

end Task

/-! ### Systems in which tasks wait -/

namespace System

variable {s s' : System} {id : Nat}

/-- A task waits for something. -/
def Lacks (s : System) (id : Nat) (n : Need) : Prop :=
  ∃ t, s.tasks[id]? = some t ∧ Task.Lacks id s.world t.stage n

/-- A task can go on, without a wait that expires or a failure. -/
def Goes (s : System) (id : Nat) : Prop := (s.step id .go).isSome = true

/-- If a task stands in the line of a lock, then there is a first in that line, for the same key. -/
theorem Sound.exists_first (h : s.Sound) {st : Standing} (hst : s.standing id = some st) :
    ∃ other st', s.standing other = some st' ∧ st'.lock = st.lock ∧ st'.key = st.key ∧
      s.world.locks.isHeldBy st.lock other = true := by
  have hlines := h.locks
  have hmem := (hlines.line id st.lock).2 ⟨st, hst, rfl⟩
  cases hline : s.world.locks.line st.lock with
  | nil =>
    rw [hline] at hmem
    cases hmem
  | cons other rest =>
    have hfirst : (s.world.locks.line st.lock).head? = some other := by rw [hline]; rfl
    have hother := List.mem_of_mem_head? hfirst
    obtain ⟨st', hst', hkey⟩ := (hlines.mem_line_iff (hlines.registered id st hst)).1 hother
    have hlock := hlines.sound.lock_unique (hkey ▸ hlines.registered other st' hst')
      (hlines.registered id st hst)
    exact ⟨other, st', hst', hlock, hkey, by simp [KeyLocks.isHeldBy, hfirst]⟩

/-- The system is in order, its calls are ordinary, and the pool has places. -/
structure Steady (s : System) : Prop where
  sound : s.Sound
  accounted : s.Accounted
  ordinary : ∀ call, call ∈ s.calls → call.IsOrdinary
  transacts : ∀ id, Visiting.Transacts (s.visits id)
  onErrand : ∀ id, Visiting.OnErrand (s.visits id)
  room : 0 < s.world.store.pool.size

/-- What is true of idle visits and kept by moves is true of all visits after a step. -/
theorem visits_of_step_induct {motive : Option Visiting → Prop} (h : s.Sound)
    (hidle : ∀ v, Visiting.IsIdle v → motive v)
    (hmoves : ∀ {p : Purpose} {phase : Phase p.Answer} {next : Progress p.Answer},
      Visit.Moves id p s.world.store phase s'.world.store next →
      Visiting.Moved id phase next s.visits s'.visits → motive (s'.visits id))
    {choice : Choice} (hstep : s.step id choice = some s')
    (hbefore : ∀ other, motive (s.visits other)) (other : Nat) : motive (s'.visits other) := by
  obtain ⟨t, t', ht, hset, -, hmove⟩ := moves_of_step hstep
  by_cases hother : other = id
  · subst hother
    cases visits_of_move h ht hset hmove with
    | none _ began => exact hidle _ began.after
    | moves _ move moved => exact hmoves move moved
  · rw [(visits_of_step ht hset).2.2 other hother]
    exact hbefore other

/-- **A step keeps a system steady.** -/
theorem Steady.step (h : s.Steady) {choice : Choice} (hstep : s.step id choice = some s') :
    s'.Steady := by
  refine ⟨h.sound.step hstep, h.accounted.step hstep, ?_, ?_, ?_, ?_⟩
  · rw [calls_of_step hstep]
    exact h.ordinary
  · exact visits_of_step_induct h.sound (fun _ => Visiting.transacts_of_isIdle)
      (h.transacts id).moves hstep h.transacts
  · exact visits_of_step_induct h.sound (fun _ => Visiting.onErrand_of_isIdle)
      (h.onErrand id).moves hstep h.onErrand
  · rw [size_of_step hstep]
    exact h.room

theorem Steady.forgetLocks (h : s.Steady) : s.forgetLocks.Steady := by
  obtain ⟨slots, fitting, tracksOnce, balance⟩ := h.accounted
  exact ⟨h.sound.forgetLocks, ⟨slots, fitting, tracksOnce, balance⟩, h.ordinary, h.transacts,
    h.onErrand, h.room⟩

/-- Ordinary calls to a pool with places that has never been opened begin steady. -/
theorem steady_start {w : World} {calls : List Call} {location : Location} {size : Int}
    (hfresh : w.store.pool = .make location size) (hrest : w.AtRest)
    (hsize : 1 ≤ Pool.sizeAt location size)
    (hordinary : ∀ call, call ∈ calls → call.IsOrdinary) : (start w calls).Steady := by
  refine ⟨sound_start hrest ?_, accounted_start hfresh, ?_, ?_, ?_, ?_⟩
  · rintro call hcall rfl
    exact hordinary _ hcall
  · rw [calls_start]
    exact hordinary
  · intro id
    rw [visits_start]
    exact Visiting.transacts_of_isIdle (.inl rfl)
  · intro id
    rw [visits_start]
    exact Visiting.onErrand_of_isIdle (.inl rfl)
  · rw [show (start w calls).world.store.pool = _ from hfresh]
    exact hsize

/-! ### What others wait for -/

namespace Steady

/-- A task that has not ended can go on, or waits. -/
theorem goes_or_lacks (h : s.Steady) {t : Task} (ht : s.tasks[id]? = some t) :
    (∃ r, t.stage = .done r) ∨ s.Goes id ∨ ∃ n, s.Lacks id n := by
  have hvisit : s.visits id = t.stage.visit? := by rw [visits, ht]; rfl
  have hcall : t.call ∈ s.calls := List.mem_map_of_mem (List.mem_of_getElem? ht)
  have hgoes : s.Goes id ↔ (t.step id .go s.world).isSome = true := by simp [Goes, System.step, ht]
  obtain hdone | hstep | ⟨n, hlacks⟩ := Task.goes_or_lacks id s.world
    (h.ordinary _ hcall) (h.sound.fits id t ht) (hvisit ▸ h.transacts id) (hvisit ▸ h.onErrand id)
  · exact .inl hdone
  · exact .inr (.inl (hgoes.2 hstep))
  · exact .inr (.inr ⟨n, t, ht, hlacks⟩)

/-- A task on a visit can go on, or its visit waits. -/
theorem goes_or_lacks_of_visit (h : s.Steady) {p : Purpose} {phase : Phase p.Answer}
    (hvisit : s.visits id = some ⟨p, phase⟩) :
    s.Goes id ∨ ∃ n, Visit.Lacks id s.world.store phase n ∧ s.Lacks id n := by
  obtain ⟨t, ht, hstage⟩ := Option.bind_eq_some_iff.1 hvisit
  have hcall : t.call ∈ s.calls := List.mem_map_of_mem (List.mem_of_getElem? ht)
  have htransacts := h.transacts id
  have herrand := h.onErrand id
  rw [hvisit, ← hstage] at htransacts herrand
  obtain hstep | ⟨n, hlacks⟩ := Task.goes_or_lacks_of_visit id s.world
    (h.ordinary _ hcall) (h.sound.fits id t ht) htransacts herrand hstage
  · exact .inl (by simp [Goes, System.step, ht, hstep])
  · exact .inr ⟨n, hlacks, t, ht, .visit hstage hlacks⟩

/-- A task in a transaction can go on. -/
theorem goes_of_transaction (h : s.Steady) {c : Nat}
    (htransaction : Visiting.transaction? (s.visits id) = some c) : s.Goes id := by
  have hbegun := h.transacts id
  cases hvisit : s.visits id with
  | none =>
    rw [hvisit] at htransaction
    cases htransaction
  | some v =>
    obtain ⟨p, phase⟩ := v
    rw [hvisit] at htransaction hbegun
    have hphase : phase.transaction? = some c := htransaction
    have hsaving := hbegun p phase rfl (by simp [hphase])
    obtain ⟨t, ht, hstage⟩ := Option.bind_eq_some_iff.1 hvisit
    have hcall : t.call ∈ s.calls := List.mem_map_of_mem (List.mem_of_getElem? ht)
    have hordinary := Task.isOrdinary_of_visit (h.ordinary _ hcall) (h.sound.fits id t ht) hstage
    have hstep : (t.step id .go s.world).isSome = true :=
      (Task.isSome_step_of_visit hstage .go).trans
        (Visit.goes_of_transaction? hordinary hsaving hphase)
    simpa [Goes, System.step, ht] using hstep

/-- Whoever has a transaction that others wait for can go on with it. -/
theorem exists_goes_of_isBusy (h : s.Steady) {c : Nat} (hbusy : s.world.store.isBusy c = true) :
    ∃ other, s.Goes other := by
  by_contra hnone
  cases hk : s.world.store.connection? c with
  | none => simp [Store.isBusy, hk] at hbusy
  | some k =>
    have hfree : s.world.store.isBusy c = false := by
      refine (Store.isBusy_eq_false_iff hk).2 fun i other hi _ _ => ?_
      cases hd : other.draft with
      | none => rfl
      | some d =>
        obtain ⟨owner, howner⟩ := h.sound.store.drafts.owned i other hi (by simp [hd])
        exact absurd ⟨owner, h.goes_of_transaction howner⟩ hnone
    rw [hfree] at hbusy
    cases hbusy

/-- If a queue is empty, then somebody owes it a connection who needs no other. -/
theorem lower_of_queue (h : s.Steady) {q : Nat} (hq : q < s.world.store.pool.queues.length)
    (hempty : s.world.store.pool.queue q = []) :
    ∃ other, s.Goes other ∨ s.Lacks other .transaction := by
  have hbalance := h.accounted.balance q hq
  have hroom := h.room
  rw [hempty, List.length_nil] at hbalance
  obtain ⟨other, hlender⟩ := loans_pos_iff.1 (show 0 < s.loans q by omega)
  refine ⟨other, ?_⟩
  cases hvisit : s.visits other with
  | none =>
    rw [hvisit] at hlender
    cases hlender
  | some v =>
    obtain ⟨p, phase⟩ := v
    rw [hvisit] at hlender
    refine (h.goes_or_lacks_of_visit hvisit).imp_right ?_
    rintro ⟨n, hvisits, hlacks⟩
    exact hvisits.of_lender? hlender ▸ hlacks

/-- If a task stands in line to open the pool, then the first in that line does not wait for its
turn. -/
theorem lower_of_line (h : s.Steady) (hline : Visiting.isInLine (s.visits id) = true) :
    ∃ other, s.Goes other ∨ s.Lacks other .transaction := by
  have hmem := (h.sound.store.openings.line id).2 hline
  cases hopening : s.world.store.pool.opening with
  | nil =>
    rw [hopening] at hmem
    cases hmem
  | cons other rest =>
    have hfirst : s.world.store.pool.opening.head? = some other := by rw [hopening]; rfl
    have hother := (h.sound.store.openings.line other).1 (List.mem_of_mem_head? hfirst)
    refine ⟨other, ?_⟩
    cases hvisit : s.visits other with
    | none =>
      rw [hvisit] at hother
      cases hother
    | some v =>
      obtain ⟨p, phase⟩ := v
      rw [hvisit] at hother
      refine (h.goes_or_lacks_of_visit hvisit).imp_right ?_
      rintro ⟨n, hvisits, hlacks⟩
      exact hvisits.of_isInLine hother hfirst ▸ hlacks

/-- The first in the line of a lock can go on, or waits for nothing but the pool. -/
theorem lower_of_first (h : s.Steady) {st : Standing} (hst : s.standing id = some st)
    (hfirst : s.world.locks.isHeldBy st.lock id = true) :
    s.Goes id ∨ ∃ n, n ≠ .lock ∧ s.Lacks id n := by
  obtain ⟨t, ht, hstanding⟩ := Option.bind_eq_some_iff.1 hst
  have hlock := Task.lock?_of_standing? hstanding
  obtain ⟨r, hdone⟩ | hgoes | ⟨n, u, hu, hlacks⟩ := h.goes_or_lacks ht
  · rw [hdone] at hlock
    cases hlock
  · exact .inl hgoes
  · rw [ht, Option.some.injEq] at hu
    subst hu
    refine .inr ⟨n, ?_, t, ht, hlacks⟩
    cases hlacks with
    | lock queued others =>
      rw [hlock, Option.some.injEq, Prod.mk.injEq] at queued
      rw [← queued.1, hfirst] at others
      cases others
    | visit _ lacks => exact lacks.ne_lock

/-- **If a task waits, then some task can go on, or waits for something of a lower rank.** -/
theorem lower (h : s.Steady) {n : Need} (hlacks : s.Lacks id n) :
    ∃ other, s.Goes other ∨ ∃ m : Need, m.rank < n.rank ∧ s.Lacks other m := by
  obtain ⟨t, ht, hlacks⟩ := hlacks
  have hvisit : s.visits id = t.stage.visit? := by rw [visits, ht]; rfl
  cases hlacks with
  | @lock lock queued =>
    obtain ⟨key, hkey⟩ := Task.key?_of_fits (h.sound.fits id t ht) queued
    have hst : s.standing id = some ⟨lock, key, false⟩ := by
      rw [standing, ht]
      exact Task.standing?_of_lock? queued hkey
    obtain ⟨other, st', hst', hlock, -, hfirst⟩ := h.sound.exists_first hst
    refine ⟨other, (h.lower_of_first hst' (hlock ▸ hfirst)).imp_right ?_⟩
    rintro ⟨m, hm, hlacks⟩
    refine ⟨m, ?_, hlacks⟩
    cases m <;> first | decide | exact absurd rfl hm
  | @visit p phase _ on lacks =>
    rw [on] at hvisit
    cases lacks with
    | turn =>
      have hline : Visiting.isInLine (s.visits id) = true := by rw [hvisit]; rfl
      obtain ⟨other, hother⟩ := h.lower_of_line hline
      exact ⟨other, hother.imp_right fun hlacks => ⟨_, by decide, hlacks⟩⟩
    | @connection q empty =>
      have hpossible := h.accounted.fitting.phases id
      rw [hvisit] at hpossible
      obtain ⟨other, hother⟩ := h.lower_of_queue hpossible empty
      exact ⟨other, hother.imp_right fun hlacks => ⟨_, by decide, hlacks⟩⟩
    | transaction _ _ busy =>
      obtain ⟨other, hgoes⟩ := h.exists_goes_of_isBusy busy
      exact ⟨other, .inl hgoes⟩

/-- If a task waits, then some task can go on. -/
theorem exists_goes_of_lacks (h : s.Steady) {n : Need} (hlacks : s.Lacks id n) :
    ∃ other, s.Goes other := by
  induction hrank : n.rank using Nat.strong_induction_on generalizing id n with
  | _ rank ih =>
    obtain ⟨other, hgoes | ⟨m, hm, hlower⟩⟩ := h.lower hlacks
    · exact ⟨other, hgoes⟩
    · exact ih m.rank (hrank ▸ hm) hlower rfl

/-- **As long as a task has not ended, some task can go on.** -/
theorem exists_goes (h : s.Steady) (hid : id < s.tasks.length) (hgoing : s.result? id = none) :
    ∃ other, s.Goes other := by
  have ht : s.tasks[id]? = some s.tasks[id] := List.getElem?_eq_getElem hid
  obtain ⟨r, hdone⟩ | hgoes | ⟨n, hlacks⟩ := h.goes_or_lacks ht
  · rw [result?_eq_some_iff.2 ⟨_, ht, hdone⟩] at hgoing
    cases hgoing
  · exact ⟨id, hgoes⟩
  · exact h.exists_goes_of_lacks hlacks

/-- A task that waits for a lock can take it, or another one that has not ended is before it, which
is about the same character. -/
theorem goes_or_behind (h : s.Steady) {lock : Nat} {key : Key}
    (hst : s.standing id = some ⟨lock, key, false⟩) :
    s.Goes id ∨ ∃ other holds, other ≠ id ∧ s.standing other = some ⟨lock, key, holds⟩ ∧
      s.world.locks.isHeldBy lock other = true ∧ s.result? other = none := by
  obtain ⟨other, ⟨lock', key', holds⟩, hst', hlock, hkey, hfirst⟩ := h.sound.exists_first hst
  subst hlock hkey
  obtain ⟨t, ht, hstanding⟩ := Option.bind_eq_some_iff.1 hst'
  have hstage := Task.lock?_of_standing? hstanding
  by_cases hother : other = id
  · subst hother
    rw [hst, Option.some.injEq, Standing.mk.injEq] at hst'
    rw [← hst'.2.2] at hstage
    have hstep := Task.isSome_step_of_isHeldBy hstage hfirst
    exact .inl (by simp [Goes, System.step, ht, hstep])
  · refine .inr ⟨other, holds, hother, hst', hfirst, ?_⟩
    rw [result?, ht, Option.bind_some, Task.result?]
    cases hs : t.stage with
    | done =>
      rw [hs] at hstage
      cases hstage
    | _ => rfl

end Steady

end System

namespace Run

variable {s₀ s : System} {es : List Event}

theorem steady (h : Run s₀ es s) (hstart : s₀.Steady) : s.Steady := by
  induction h with
  | start => exact hstart
  | step _ step ih => exact ih.step step
  | forget _ ih => exact ih.forgetLocks

/-- **There is no deadlock, and no character blocks another.**  In every state of every run of
ordinary calls, to a pool that has places and that nobody else borrows from, some task can go on as
long as one has not ended, without a wait that expires.  A task that waits for a lock can take it,
or another task that has not ended holds it or is the next to get it, and that one is about the same
character.  Tasks stand in one line only if they are about the same character. -/
theorem never_stuck {w : World} {calls : List Call} {location : Location} {size : Int}
    (hfresh : w.store.pool = .make location size) (hrest : w.AtRest)
    (hsize : 1 ≤ Pool.sizeAt location size)
    (hordinary : ∀ call, call ∈ calls → call.IsOrdinary)
    (hrun : Run (System.start w calls) es s) :
    (∀ id, id < calls.length → s.result? id = none →
      ∃ other s', s.step other .go = some s') ∧
    (∀ id lock key, s.standing id = some ⟨lock, key, false⟩ →
      (∃ s', s.step id .go = some s') ∨
      ∃ other holds, other ≠ id ∧ s.standing other = some ⟨lock, key, holds⟩ ∧
        s.world.locks.isHeldBy lock other = true ∧ s.result? other = none) ∧
    (∀ id other st st', s.standing id = some st → s.standing other = some st' →
      (st.lock = st'.lock ↔ st.key = st'.key)) := by
  have hsteady := hrun.steady (System.steady_start hfresh hrest hsize hordinary)
  have hlines := hsteady.sound.locks
  refine ⟨?_, ?_, ?_⟩
  · intro id hid hgoing
    have hlength : s.tasks.length = calls.length := by
      have := congrArg List.length (hrun.calls.trans (System.calls_start w calls))
      simpa [System.calls] using this
    obtain ⟨other, hgoes⟩ := hsteady.exists_goes (hlength ▸ hid) hgoing
    exact ⟨other, Option.isSome_iff_exists.1 hgoes⟩
  · intro id lock key hst
    exact (hsteady.goes_or_behind hst).imp_left Option.isSome_iff_exists.1
  · intro id other st st' hst hst'
    have hregistered := hlines.registered id st hst
    have hregistered' := hlines.registered other st' hst'
    constructor
    · intro hlock
      exact hlines.sound.key_unique (hlock ▸ hregistered) hregistered'
    · intro hkey
      exact hlines.sound.lock_unique (hkey ▸ hregistered) hregistered'

/-- A database in memory with its one connection.  The task `0` holds the lock of its character and
waits for the connection, and the task `1` waits for that lock.  The task `2` has the connection. -/
theorem never_stuck_of_three :
    ∃ es s, Run (System.start World.inMemory
        [.execute (.command (.adjust (.text "c") (.text "u") (.text "hack") (.int 1))),
          .execute (.command (.view (.text "c") (.text "u"))),
          .execute (.command (.view (.text "c") (.text "v")))]) es s ∧
      (s.step 0 .go).isNone = true ∧ (s.step 1 .go).isNone = true ∧
      (∃ other s', s.step other .go = some s') ∧
      ∃ other holds, other ≠ 1 ∧
        s.standing other = some ⟨1, ⟨.text "c", .text "u"⟩, holds⟩ ∧
        s.world.locks.isHeldBy 1 other = true ∧ s.result? other = none := by
  let calls : List Call := [
    .execute (.command (.adjust (.text "c") (.text "u") (.text "hack") (.int 1))),
    .execute (.command (.view (.text "c") (.text "u"))),
    .execute (.command (.view (.text "c") (.text "v")))]
  have hview : ((System.start World.inMemory calls).follow
      (List.replicate 6 (2, .go) ++ List.replicate 3 (0, .go) ++ [(1, .go)])).map (fun r =>
        ((r.2.step 0 .go).isNone, (r.2.step 1 .go).isNone, (r.2.result? 0).isNone,
          r.2.standing 1)) =
      some (true, true, true, some ⟨1, ⟨.text "c", .text "u"⟩, false⟩) := by decide +kernel
  obtain ⟨⟨es, s⟩, hfollow, hview⟩ := Option.map_eq_some_iff.1 hview
  simp only [Prod.mk.injEq] at hview
  obtain ⟨hzero, hone, hgoing, hstanding⟩ := hview
  have hrun : Run (System.start World.inMemory calls) ([] ++ es) s := Run.start.of_follow hfollow
  have hfresh : World.inMemory.store.pool = .make .memory 1 := rfl
  obtain ⟨hgoes, hbehind, -⟩ := never_stuck hfresh (World.atRest_world ..) (by decide)
    (by simp [calls, Call.IsOrdinary]) hrun
  refine ⟨_, s, hrun, hzero, hone, ?_, ?_⟩
  · exact hgoes 0 (by decide) (Option.isNone_iff_eq_none.1 hgoing)
  · refine (hbehind 1 1 _ hstanding).resolve_left ?_
    rintro ⟨s', hs'⟩
    rw [hs'] at hone
    cases hone

end Run

end CharacterLedger.Ledger
