import CharacterLedger.Proofs.Ledger.Runs
import CharacterLedger.Proofs.Storage.Lending
import CharacterLedger.Proofs.Storage.Tracked

/-!
# No place of the pool is lost

Whatever the tasks do, and whoever closes the pool meanwhile, a queue and the tasks that owe it a
connection make up as many connections as the pool has places.

* `System.loans` — how many tasks owe a queue a connection;
* `System.Accounted` — every connection and every place of the pool is accounted for, which every
  step keeps so;
* `System.NeverClosed` — nobody has begun to close the pool;
* `Run.home` — a connection stays with the queue that it belongs to;
* `Run.conserves_slots` — in every state of every run all of this holds.
-/

namespace CharacterLedger.Ledger

open CharacterLedger.Storage

namespace System

variable {s s' : System} {id : Nat}

/-! ### Loans -/

/-- How many tasks have taken a connection from a queue and have not given one back to it. -/
def loans (s : System) (q : Nat) : Nat :=
  s.tasks.countP fun t => decide (Visiting.lender? t.stage.visit? = some q)

/-- A queue has been lent from when some task owes it a connection. -/
theorem loans_pos_iff {q : Nat} :
    0 < s.loans q ↔ ∃ id, Visiting.lender? (s.visits id) = some q := by
  rw [loans, List.countP_pos_iff]
  constructor
  · rintro ⟨t, ht, hlender⟩
    obtain ⟨id, hid⟩ := List.getElem?_of_mem ht
    exact ⟨id, by rw [visits, hid]; exact of_decide_eq_true hlender⟩
  · rintro ⟨id, hlender⟩
    rw [visits] at hlender
    cases ht : s.tasks[id]? with
    | none =>
      rw [ht] at hlender
      cases hlender
    | some t =>
      rw [ht] at hlender
      exact ⟨t, List.mem_of_getElem? ht, decide_eq_true hlender⟩

/-- A step changes the loans by those of its task. -/
theorem loans_of_step {t t' : Task} (ht : s.tasks[id]? = some t)
    (hset : s'.tasks = s.tasks.set id t') (q : Nat) :
    s'.loans q + (if Visiting.lender? (s.visits id) = some q then 1 else 0) =
      s.loans q + if Visiting.lender? (s'.visits id) = some q then 1 else 0 := by
  obtain ⟨hbefore, hafter, -⟩ := visits_of_step ht hset
  obtain ⟨hlt, htid⟩ := List.getElem?_eq_some_iff.1 ht
  have hcount := List.countP_set (p := fun t => decide (Visiting.lender? t.stage.visit? = some q))
    (a := t') hlt
  have hle := List.boole_getElem_le_countP
    (p := fun t => decide (Visiting.lender? t.stage.visit? = some q)) hlt
  simp only [htid, decide_eq_true_eq] at hcount hle
  rw [hbefore, hafter, loans, loans, hset, hcount]
  omega

/-! ### Accounts -/

/-- Every connection and every place of the pool is accounted for. -/
structure Accounted (s : System) : Prop where
  slots : Slots s.world.store s.visits
  fitting : Fitting s.world.store.pool s.visits
  tracksOnce : TracksOnce s.world.store
  balance : ∀ q, q < s.world.store.pool.queues.length →
    (s.world.store.pool.queue q).length + s.loans q = s.world.store.pool.size.toNat

/-- A queue that is not there has lent nothing. -/
theorem Accounted.loans_eq_zero (h : s.Accounted) {q : Nat}
    (hq : s.world.store.pool.queues.length ≤ q) : s.loans q = 0 := by
  refine Nat.eq_zero_of_not_pos fun hpos => ?_
  obtain ⟨id, hlender⟩ := loans_pos_iff.1 hpos
  have := (Visiting.of_lender? hlender (h.fitting.phases id)).1
  omega

/-- **A step keeps the accounts.** -/
theorem Accounted.step (h : s.Accounted) {choice : Choice} (hstep : s.step id choice = some s') :
    s'.Accounted := by
  obtain ⟨t, t', ht, hset, -, hmove⟩ := moves_of_step hstep
  have hloans := loans_of_step ht hset
  cases turn_of_move ht hset hmove with
  | none store began =>
    have hsame : Visiting.lender? (s'.visits id) = Visiting.lender? (s.visits id) :=
      began.yields (fun _ => rfl) id
    refine ⟨store ▸ h.slots.began began, store ▸ h.fitting.began began, store ▸ h.tracksOnce, ?_⟩
    intro q hq
    rw [store] at hq ⊢
    have := h.balance q hq
    have := hloans q
    rw [hsame] at this
    omega
  | moves _ move moved =>
    refine ⟨h.slots.moves move moved, h.fitting.moves move moved, move.tracksOnce h.tracksOnce, ?_⟩
    intro q hq
    have hyields : Visiting.lender? (s.visits id) = _ ∧ Visiting.lender? (s'.visits id) = _ :=
      moved.yields fun _ => rfl
    have hq' := hloans q
    rw [hyields.1, hyields.2] at hq'
    rw [move.tracking.2.1]
    obtain ⟨hlt, hbalance⟩ | ⟨hnew, hfull, hnext⟩ :=
      (h.fitting.shifts move moved).balance hq
    · have := h.balance q hlt
      rw [Progress.lender?] at hbalance
      omega
    · have hzero := h.loans_eq_zero (Nat.le_of_eq hnew.symm)
      rw [Progress.lender?] at hnext
      rw [hnext, hzero] at hq'
      simp only [reduceCtorEq, if_false] at hq'
      omega
  | closes _ visits closes =>
    obtain ⟨hqueues, hsize, -⟩ := closes.spec
    refine ⟨visits ▸ closes.slots h.slots, visits ▸ h.fitting.closes closes,
      closes.tracksOnce h.tracksOnce, ?_⟩
    intro q hq
    rw [hqueues] at hq
    have := h.balance q hq
    have hq' := hloans q
    rw [visits] at hq'
    rw [Pool.queue, hqueues, hsize]
    rw [Pool.queue] at this
    omega

/-- Before the pool is opened there is nothing to account for. -/
theorem accounted_start {w : World} {calls : List Call} {location : Location} {size : Int}
    (hfresh : w.store.pool = .make location size) : (start w calls).Accounted := by
  have hpool : (start w calls).world.store.pool = .make location size := hfresh
  refine ⟨⟨?_, ?_, ?_⟩, ⟨?_, ?_⟩, ⟨?_, ?_⟩, ?_⟩
  · intro id c
    rw [visits_start, hpool]
    exact Nat.zero_le 1
  · intro id other c hc
    rw [visits_start] at hc
    cases hc
  · intro id c hc
    rw [visits_start, hpool] at hc
    exact absurd hc (Nat.lt_irrefl 0)
  · intro id
    rw [visits_start]
    trivial
  · intro q hq
    rw [hpool] at hq
    cases hq
  · rw [hpool]
    exact List.nodup_nil
  · intro c hc
    rw [hpool] at hc
    cases hc
  · intro q hq
    rw [hpool] at hq
    cases hq

/-! ### Before the pool is closed -/

/-- Nobody has begun to close the pool. -/
def NeverClosed (s : System) : Prop :=
  ∀ (id : Nat) (t : Task), s.tasks[id]? = some t → t.call = .closePool → t.stage = .ready

/-- A pool that nobody has begun to close was so before, and the last step was not of a task that
closes it. -/
theorem NeverClosed.of_step (h : s'.NeverClosed) {t t' : Task} (ht : s.tasks[id]? = some t)
    (hset : s'.tasks = s.tasks.set id t') (hcall : t'.call = t.call)
    (hmove : Task.Moves id t.call s.world.store s.world.locks t.stage s'.world.store
      s'.world.locks t'.stage) : s.NeverClosed ∧ t.call ≠ .closePool := by
  obtain ⟨hself, hothers⟩ := tasks_of_set ht hset
  have hcloser : t.call ≠ .closePool := by
    intro hc
    rw [h id t' hself (hcall.trans hc)] at hmove
    exact hmove.not_ready
  refine ⟨?_, hcloser⟩
  intro other u hu hc
  refine h other u ?_ hc
  rw [hothers other ?_]
  · exact hu
  · rintro rfl
    rw [ht, Option.some.injEq] at hu
    exact hcloser (hu ▸ hc)

/-- A step of a task that does not close the pool keeps it as its openings have left it. -/
theorem openings_of_step (h : s.Accounted) (hopenings : Openings s.world.store.pool s.visits)
    {t t' : Task} (ht : s.tasks[id]? = some t) (hset : s'.tasks = s.tasks.set id t')
    (hmove : Task.Moves id t.call s.world.store s.world.locks t.stage s'.world.store
      s'.world.locks t'.stage) (hfits : Task.Fits t.call t.stage)
    (hcloser : t.call ≠ .closePool) : Openings s'.world.store.pool s'.visits := by
  cases turn_of_move ht hset hmove with
  | none store began => exact store ▸ hopenings.began began
  | moves _ move moved => exact hopenings.moves h.slots move moved
  | closes closing =>
    obtain hcall | hclosing := closing
    · exact absurd hcall hcloser
    · exact absurd (Task.closePool_of_fits hfits hclosing) hcloser

/-- Nothing has been opened before the pool is. -/
theorem openings_start {w : World} {calls : List Call} {location : Location} {size : Int}
    (hfresh : w.store.pool = .make location size) :
    Openings (start w calls).world.store.pool (start w calls).visits := by
  have hpool : (start w calls).world.store.pool = .make location size := hfresh
  rw [visits_start, hpool]
  have hrest : Store.AtRest ⟨w.store.disk, [], .make location size⟩ := Store.atRest_of_fresh
  exact hrest.orderly.openings

/-! ### Connections and their queues -/

/-- A connection stays with its queue in a step. -/
theorem home_of_step (h : s.Accounted) {q c : Nat} (hhome : Home s.world.store s.visits q c)
    {choice : Choice} (hstep : s.step id choice = some s') :
    Home s'.world.store s'.visits q c := by
  obtain ⟨t, t', ht, hset, -, hmove⟩ := moves_of_step hstep
  cases turn_of_move ht hset hmove with
  | none store began => exact store ▸ hhome.began began
  | moves _ move moved =>
    exact hhome.moves (h.fitting.shifts move moved) (move.count_le c).1 moved
  | closes _ visits closes => exact visits ▸ hhome.closes closes

/-- A step leaves the number of places as it is. -/
theorem size_of_step {choice : Choice} (hstep : s.step id choice = some s') :
    s'.world.store.pool.size = s.world.store.pool.size := by
  obtain ⟨t, t', ht, hset, -, hmove⟩ := moves_of_step hstep
  cases turn_of_move ht hset hmove with
  | none store => rw [store]
  | moves _ move => exact move.tracking.2.1
  | closes _ _ closes => exact closes.spec.2.1

end System

namespace Run

variable {s₀ s s' : System} {es es' : List Event}

theorem accounted (h : Run s₀ es s) (hstart : s₀.Accounted) : s.Accounted := by
  induction h with
  | start => exact hstart
  | step _ step ih => exact ih.step step
  | forget _ ih => exact ⟨ih.slots, ih.fitting, ih.tracksOnce, ih.balance⟩

theorem size (h : Run s₀ es s) : s.world.store.pool.size = s₀.world.store.pool.size := by
  induction h with
  | start => rfl
  | step _ step ih => exact (System.size_of_step step).trans ih
  | forget _ ih => exact ih

/-- **A connection stays with the queue that it belongs to**, whoever closes and opens the pool. -/
theorem home (h : Run s₀ es s) (hstart : s₀.Accounted) {q c : Nat}
    (hhome : Home s₀.world.store s₀.visits q c) : Home s.world.store s.visits q c := by
  induction h with
  | start => exact hhome
  | step run step ih => exact System.home_of_step (run.accounted hstart) ih step
  | forget _ ih => exact ⟨ih.made, ih.queue, ih.held⟩

/-- As long as nobody has begun to close the pool, it is as its openings have left it. -/
theorem openings (h : Run s₀ es s) (hstart : s₀.Accounted)
    (hfits : ∀ (id : Nat) (t : Task), s₀.tasks[id]? = some t → Task.Fits t.call t.stage)
    (hopenings : Openings s₀.world.store.pool s₀.visits) (hnever : s.NeverClosed) :
    Openings s.world.store.pool s.visits := by
  induction h with
  | start => exact hopenings
  | step run step ih =>
    obtain ⟨t, t', ht, hset, hcall, hmove⟩ := System.moves_of_step step
    obtain ⟨hbefore, hcloser⟩ := hnever.of_step ht hset hcall hmove
    exact System.openings_of_step (run.accounted hstart) (ih hbefore) ht hset hmove
      (run.fits hfits _ t ht) hcloser
  | forget _ ih => exact ih hnever

/-- **In every state of every run, whoever closes and opens the pool meanwhile, no place and no
connection is lost.**  What is in a queue that was ever installed and what is owed to it make up as
many connections as the pool has places.  No connection is in the hands of two tasks, in two queues
or twice in one, or at hand while somebody has it.  A queue that is owed a connection has room for
it.  A connection that is in a queue or was taken from it comes to no other queue in any later
state.  And as long as nobody has begun to close an open pool, the tracked connections, none of them
twice, are those in its queue and in the hands of the tasks. -/
theorem conserves_slots {w : World} {calls : List Call} {location : Location} {size : Int}
    (hfresh : w.store.pool = .make location size) (hrun : Run (System.start w calls) es s) :
    (∀ q, q < s.world.store.pool.queues.length →
      (s.world.store.pool.queue q).length + s.loans q = (Pool.sizeAt location size).toNat) ∧
    (∀ id other c, c ∈ Visiting.held? (s.visits id) → c ∈ Visiting.held? (s.visits other) →
      id = other) ∧
    s.world.store.pool.atHand.Nodup ∧
    (∀ id c, c ∈ Visiting.held? (s.visits id) → c ∉ s.world.store.pool.atHand) ∧
    (∀ id q, Visiting.lender? (s.visits id) = some q →
      (s.world.store.pool.queue q).length < (Pool.sizeAt location size).toNat) ∧
    (∀ q c, (c ∈ s.world.store.pool.queue q ∨
        ∃ id, Visiting.lender? (s.visits id) = some q ∧ c ∈ Visiting.held? (s.visits id)) →
      ∀ es' s', Run s es' s' → ∀ r, c ∈ s'.world.store.pool.queue r → r = q) ∧
    (∀ q, s.world.store.pool.current = some q → s.NeverClosed →
      s.world.store.pool.tracked.Nodup ∧ ∀ c, c ∈ s.world.store.pool.tracked ↔
        c ∈ s.world.store.pool.queue q ∨ ∃ id, c ∈ Visiting.held? (s.visits id)) := by
  have hstart : (System.start w calls).Accounted := System.accounted_start hfresh
  have haccounted := hrun.accounted hstart
  have hsize : s.world.store.pool.size = Pool.sizeAt location size := by
    rw [hrun.size, show (System.start w calls).world.store.pool = _ from hfresh]
    rfl
  refine ⟨?_, haccounted.slots.alone, ?_, fun _ _ => haccounted.slots.not_mem_atHand, ?_, ?_, ?_⟩
  · intro q hq
    rw [haccounted.balance q hq, hsize]
  · refine List.nodup_iff_count.2 fun c => ?_
    have := haccounted.slots.once 0 c
    omega
  · intro id q hlender
    have hq := (Visiting.of_lender? hlender (haccounted.fitting.phases id)).1
    have := haccounted.balance q hq
    have := System.loans_pos_iff.2 ⟨id, hlender⟩
    rw [← hsize]
    omega
  · intro q c hc es' s' hlater
    exact (hlater.home haccounted (haccounted.slots.home hc)).queue
  · intro q hq hnever
    refine ⟨haccounted.tracksOnce.nodup, ?_⟩
    exact (hrun.openings hstart System.fits_start (System.openings_start hfresh) hnever).lent q hq

/-- A pool of two connections.  In the first run one connection is kept and the other has been
broken off and replaced.  In the second run the pool is closed and opened again while the connection
is kept, which then goes back to the first queue. -/
theorem conserves_slots_of_reopened :
    let w := World.withRow (.blank "c" "u") 2 (.script 0 [])
    (∃ es s, Run (System.start w [.borrow .keep, .borrow .breakConnection, .borrow (.ask .count)])
        es s ∧
      s.world.store.pool.current = some 0 ∧ s.world.store.pool.tracked = [0, 2] ∧
      s.world.store.pool.tracked.Nodup ∧ ∀ c, c ∈ s.world.store.pool.tracked ↔
        c ∈ s.world.store.pool.queue 0 ∨ ∃ id, c ∈ Visiting.held? (s.visits id)) ∧
    ∃ es s es' s', Run (System.start w [.borrow .keep, .closePool, .openPool]) es s ∧
      Run s es' s' ∧ s.world.store.pool.queues = [[1], [2, 3]] ∧
      Visiting.lender? (s.visits 0) = some 0 ∧ Visiting.held? (s.visits 0) = [0] ∧
      (s.world.store.pool.queue 0).length + s.loans 0 = 2 ∧
      (s.world.store.pool.queue 0).length < 2 ∧
      s'.world.store.pool.queues = [[1, 0], [2, 3]] ∧ 0 ∉ s'.world.store.pool.queue 1 := by
  intro w
  have hfresh : w.store.pool = .make (.file "characters.db") 2 := rfl
  refine ⟨?_, ?_⟩
  · let calls : List Call := [.borrow .keep, .borrow .breakConnection, .borrow (.ask .count)]
    have hview : ((System.start w calls).follow
        (List.replicate 7 (0, .go) ++ List.replicate 5 (1, .go) ++ List.replicate 7 (2, .go))).map
          (fun r => (r.2.world.store.pool.current, r.2.world.store.pool.tracked)) =
        some (some 0, [0, 2]) := by decide +kernel
    obtain ⟨⟨es, s⟩, hfollow, hview⟩ := Option.map_eq_some_iff.1 hview
    simp only [Prod.mk.injEq] at hview
    obtain ⟨hcurrent, htracked⟩ := hview
    have hrun : Run (System.start w calls) ([] ++ es) s := Run.start.of_follow hfollow
    have hnever : s.NeverClosed := by
      intro id t ht hcall
      have hmem : t.call ∈ s.calls := List.mem_map_of_mem (List.mem_of_getElem? ht)
      rw [hrun.calls, System.calls_start, hcall] at hmem
      simp [calls] at hmem
    obtain ⟨-, -, -, -, -, -, hopen⟩ := hrun.conserves_slots hfresh
    exact ⟨_, s, hrun, hcurrent, htracked, hopen 0 hcurrent hnever⟩
  · let calls : List Call := [.borrow .keep, .closePool, .openPool]
    have hview : (((System.start w calls).follow
        (List.replicate 7 (0, .go) ++ List.replicate 3 (1, .go) ++ List.replicate 5 (2, .go))).bind
          fun r => (r.2.follow [(0, .finish)]).map fun r' =>
            (r.2.world.store.pool.queues, Visiting.lender? (r.2.visits 0),
              Visiting.held? (r.2.visits 0), r'.2.world.store.pool.queues)) =
        some ([[1], [2, 3]], some 0, [0], [[1, 0], [2, 3]]) := by decide +kernel
    obtain ⟨⟨es, s⟩, hfirst, hview⟩ := Option.bind_eq_some_iff.1 hview
    obtain ⟨⟨es', s'⟩, hsecond, hview⟩ := Option.map_eq_some_iff.1 hview
    simp only [Prod.mk.injEq] at hview
    obtain ⟨hqueues, hlender, hheld, hlater⟩ := hview
    have hrun : Run (System.start w calls) ([] ++ es) s := Run.start.of_follow hfirst
    have hrun' : Run s ([] ++ es') s' := Run.start.of_follow hsecond
    obtain ⟨hbalance, -, -, -, hroom, hhome, -⟩ :=
      hrun.conserves_slots hfresh
    refine ⟨_, s, _, s', hrun, hrun', hqueues, hlender, hheld, ?_, hroom 0 0 hlender, hlater, ?_⟩
    · exact hbalance 0 (by simp [hqueues])
    · intro hc
      have := hhome 0 0 (.inr ⟨0, hlender, by simp [hheld]⟩) _ s' hrun' 1 hc
      cases this

end Run

end CharacterLedger.Ledger
