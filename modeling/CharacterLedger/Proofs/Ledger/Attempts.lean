import CharacterLedger.Proofs.Ledger.Rolls
import CharacterLedger.Proofs.Ledger.Waiting
import CharacterLedger.Proofs.Storage.Attempts

/-!
# Attempts of many tasks to open the pool

Many tasks may want the pool open at the same time.  What their steps contribute to opening it is
one history, and this is a row of attempts: each is over before the next one begins.

* `Task.visits_of_step` — a step of a task on a visit is one of the visit, and the task raises the
  fault that the visit ends with;
* `System.openingEvents`, `OpeningRun` — what a step contributes, and the runs with their histories,
  of which every run has one (`Run.exists_history`);
* `System.Attempted` — a row of attempts, of which only the last may not have failed;
* `System.Attempted.step` — a step takes the last attempt further, or begins one, or does neither.
-/

namespace CharacterLedger

open CharacterLedger.Storage CharacterLedger.Table

/-- The fault that an error reports. -/
def Error.cause? : Error → Option Fault
  | .fault f | .storage (.failed f) => some f
  | _ => none

namespace Ledger

/-! ### Steps of visits -/

theorem cause?_storeError (report? : Option String) (f : Fault) :
    (storeError report? (.fault f)).2.cause? = some f := by
  unfold storeError
  dsimp only
  split <;> rfl

/-- The error of a record that cannot be had on account of a fault. -/
theorem cause?_notLoaded (channel user : Value) (f : Fault) :
    (storeError (aboutCharacter? "Failed to load character" channel user) (.fault f)).2.cause? =
      some f :=
  cause?_storeError _ f

/-- A fault that a visit past the ledger ends with is raised. -/
theorem cause?_visited (p : Purpose) (f : Fault) :
    ∃ e, (Task.visited p (.error (.fault f))).2 = .error e ∧ e.cause? = some f := by
  cases p with
  | openPool => exact ⟨_, rfl, rfl⟩
  | borrow e =>
    cases e with
    | ask q =>
      cases q with
      | character channel user =>
        exact ⟨_, rfl, cause?_notLoaded channel user f⟩
      | count => exact ⟨_, rfl, cause?_storeError _ f⟩
      | shape | rows => exact ⟨_, rfl, rfl⟩
    | save => exact ⟨_, rfl, cause?_storeError _ f⟩
    | change | breakConnection | keep => exact ⟨_, rfl, rfl⟩

namespace Task

variable {id : Nat} {t : Task} {w w₁ : World} {r : World × Task}

/-- What becomes of a task whose visit has ended: the store stays as it is, no visit is under way,
and a fault is raised. -/
structure Concludes {α : Type} (w₁ : World) (result : Except Failure α) (r : World × Task) :
    Prop where
  store : r.1.store = w₁.store
  idle : Visiting.IsIdle r.2.stage.visit?
  raises : ∀ f, result = .error (.fault f) →
    ∃ e, r.2.stage = .done (.error e) ∧ e.cause? = some f

/-- A task that ends concludes its visit. -/
theorem concludes_finish {α : Type} {result : Except Failure α} {w₂ : World}
    {reply : Except Error Reply} (hstore : w₂.store = w₁.store)
    (hraises : ∀ f, result = .error (.fault f) → ∃ e, reply = .error e ∧ e.cause? = some f) :
    Concludes w₁ result (finish w₂ t reply) := by
  obtain ⟨hsame, -, -, hdone⟩ := finish_spec w₂ t reply
  refine ⟨hsame.trans hstore, .inl (by rw [hdone]; rfl), ?_⟩
  intro f hf
  obtain ⟨e, rfl, hcause⟩ := hraises f hf
  exact ⟨e, hdone, hcause⟩

theorem concludes_finishRolling {α : Type} {a : α} {w₂ : World} (hstore : w₂.store = w₁.store)
    (pool : Value) : Concludes w₁ (.ok a : Except Failure α) (finishRolling w₂ t pool) := by
  refine ⟨(store_finishRolling w₂ t pool).1.trans hstore, .inl ?_, nofun⟩
  rw [(finishRolling_spec w₂ t pool).2]
  rfl

theorem concludes_useRecord {α : Type} {a : α} {lock : Nat} {channel user : Value} {c : Character}
    {w₂ : World} (hstore : w₂.store = w₁.store) (use : Use) :
    Concludes w₁ (.ok a : Except Failure α) (useRecord w₂ t lock channel user c use) := by
  have hreleased : (release w₂ lock).store = w₁.store := hstore
  cases use with
  | rating | view => exact concludes_finish hreleased nofun
  | resist which => exact concludes_finishRolling hreleased _
  | roll a bonus =>
    simp only [useRecord, rollWithBonus]
    split
    · exact concludes_finish hreleased nofun
    · exact concludes_finishRolling hreleased _
  | adjust a delta =>
    simp only [useRecord]
    split
    · exact concludes_finish hreleased nofun
    · exact ⟨hstore, .inr ⟨_, rfl⟩, nofun⟩

theorem concludes_afterLoading (lock : Nat) {channel user : Value} (use : Use)
    (result : Errand.Result (.ask (.character channel user))) :
    Concludes w₁ result (afterLoading w₁ t lock channel user use result) := by
  unfold afterLoading
  cases result with
  | error failure =>
    refine concludes_finish rfl ?_
    rintro f hf
    cases hf
    exact ⟨_, rfl, cause?_notLoaded channel user f⟩
  | ok row =>
    rcases loaded channel user (.ok row) with ⟨notes, found⟩
    cases found with
    | error e => exact concludes_finish rfl nofun
    | ok c =>
      exact concludes_useRecord (show (w₁.record t.trace notes).store = w₁.store from rfl) use

theorem concludes_afterSaving (lock : Nat) (channel user : Value) (a : Adjustment)
    {changed : Character} (result : Errand.Result (.save changed)) :
    Concludes w₁ result (afterSaving w₁ t lock channel user a changed result) := by
  cases result with
  | error failure =>
    refine concludes_finish rfl ?_
    rintro f hf
    cases hf
    exact ⟨_, rfl, cause?_storeError _ f⟩
  | ok => exact concludes_finish rfl nofun

/-- A task that goes on by what comes of a step of its visit. -/
theorem visits_of_visit {choice : Choice} {p : Purpose} {phase : Phase p.Answer}
    {stage : Phase p.Answer → Stage} {after : World → Task → p.Result → World × Task}
    (h : visit id w t choice p phase stage after = some r)
    (hgoing : ∀ next, (stage next).visit? = some ⟨p, next⟩)
    (hended : ∀ w₁ result, Concludes w₁ result (after w₁ t result)) :
    ∃ st, Visit.step id p choice phase w.store = some st ∧ r.1.store = st.store ∧
      Visiting.Follows st.progress r.2.stage.visit? ∧
      ∀ f, st.progress = .ended (.error (.fault f)) →
        ∃ e, r.2.stage = .done (.error e) ∧ e.cause? = some f := by
  obtain ⟨st, hst, rfl⟩ := Option.map_eq_some_iff.1 h
  refine ⟨st, hst, ?_⟩
  cases st.progress with
  | going next => exact ⟨rfl, hgoing next, nofun⟩
  | ended result =>
    have hconcludes := hended ((w.withStore st.store).record t.trace st.notes) result
    refine ⟨hconcludes.store, hconcludes.idle, ?_⟩
    rintro f hf
    cases hf
    exact hconcludes.raises f rfl

/-- **A step of a task on a visit is a step of the visit**, and the task raises the fault that the
visit ends with. -/
theorem visits_of_step {choice : Choice} (h : t.step id choice w = some r) {p : Purpose}
    {phase : Phase p.Answer} (hvisit : t.stage.visit? = some ⟨p, phase⟩) :
    ∃ st, Visit.step id p choice phase w.store = some st ∧ r.1.store = st.store ∧
      Visiting.Follows st.progress r.2.stage.visit? ∧
      ∀ f, st.progress = .ended (.error (.fault f)) →
        ∃ e, r.2.stage = .done (.error e) ∧ e.cause? = some f := by
  unfold step at h
  cases hs : t.stage with
  | visiting =>
    rw [hs] at h hvisit
    cases hvisit
    refine visits_of_visit h (fun _ => rfl) fun w₁ result => concludes_finish rfl ?_
    rintro f rfl
    exact cause?_visited p f
  | loading lock channel user use =>
    rw [hs] at h hvisit
    cases hvisit
    exact visits_of_visit h (fun _ => rfl) fun w₁ result => concludes_afterLoading lock use result
  | saving lock channel user a =>
    rw [hs] at h hvisit
    cases hvisit
    exact visits_of_visit h (fun _ => rfl) fun w₁ result =>
      concludes_afterSaving lock channel user a result
  | ready | closing | queued | queuedToHold | holding | done =>
    rw [hs] at hvisit
    cases hvisit

/-- A task on a visit past the ledger goes on with it, or ends with what has come of it. -/
theorem stage_of_visiting {choice : Choice} (h : t.step id choice w = some r) {p : Purpose}
    {phase : Phase p.Answer} (hstage : t.stage = .visiting p phase) :
    ∃ st, Visit.step id p choice phase w.store = some st ∧ r.1.store = st.store ∧
      r.2.stage = match st.progress with
        | .going next => .visiting p next
        | .ended result => .done (visited p result).2 := by
  unfold step at h
  rw [hstage] at h
  obtain ⟨st, hst, rfl⟩ := Option.map_eq_some_iff.1 h
  refine ⟨st, hst, ?_⟩
  cases st.progress with
  | going next => exact ⟨rfl, rfl⟩
  | ended result =>
    obtain ⟨hstore, -, -, hdone⟩ := finish_spec
      (((w.withStore st.store).record t.trace st.notes).record t.trace (visited p result).1) t
      (visited p result).2
    exact ⟨hstore, hdone⟩

/-- A task that only opens the pool ends with what has come of its visit. -/
theorem visiting_of_done {call : Call} {s s' : Store} {l l' : KeyLocks} {st : Stage}
    {result : Except Error Reply} (h : Moves id call s l st s' l' (.done result))
    (hcall : call = .openPool) (hfits : Fits call st) :
    ∃ phase : Phase (Purpose.Answer .openPool), st = .visiting .openPool phase := by
  subst hcall
  cases h with
  | refuse refused => cases refused
  | rollAtOnce plain => cases plain
  | closeNothing closes | closeAtOnce closes => cases closes
  | closed => cases hfits
  | visited =>
    cases hfits
    exact ⟨_, rfl⟩
  | loadFails | used | cannotAdjust | saveFails | saved => cases hfits.1
  | letGo =>
    obtain ⟨-, key, hkey⟩ := hfits
    cases hkey

end Task

/-! ### What the steps of a system contribute -/

namespace System

variable {s s' : System} {id other : Nat} {choice : Choice}

/-- What the step of a task by a choice contributes to opening the pool. -/
def openingEvents (s : System) (id : Nat) (choice : Choice) : List (Nat × OpeningEvent) :=
  match s.visits id with
  | none => []
  | some ⟨p, phase⟩ =>
    match Visit.step id p choice phase s.world.store with
    | none => []
    | some st =>
      (Visit.openingEvents s.world.store st.store st.progress phase).map fun e => (id, e)

/-- How a step contributes. -/
inductive Contributes (s s' : System) (id : Nat) : List (Nat × OpeningEvent) → Prop
  /-- A visit may begin, and nothing else happens. -/
  | nothing (store : s'.world.store = s.world.store)
      (began : Visiting.Began id s.visits s'.visits) : Contributes s s' id []
  /-- It is a step of a visit. -/
  | visit {choice : Choice} {p : Purpose} {phase : Phase p.Answer} {t : Store}
      {notes : List Log.Note} {next : Progress p.Answer}
      (step : Visit.step id p choice phase s.world.store = some ⟨t, notes, next⟩)
      (store : s'.world.store = t) (moved : Visiting.Moved id phase next s.visits s'.visits)
      (raises : ∀ f, next = .ended (.error (.fault f)) →
        ∃ e, s'.result? id = some (.error e) ∧ e.cause? = some f) :
      Contributes s s' id
        ((Visit.openingEvents s.world.store t next phase).map fun e => (id, e))

theorem contributes_of_step (h : s.Sound) (hstep : s.step id choice = some s') :
    Contributes s s' id (s.openingEvents id choice) := by
  obtain ⟨t, t', ht, hr, ht', -⟩ := exists_task_step hstep
  obtain ⟨u, u', hu, hset, -, hmove⟩ := moves_of_step hstep
  have hbefore : s.visits id = t.stage.visit? := by rw [visits, ht]; rfl
  have hafter : s'.visits id = t'.stage.visit? := by rw [visits, ht']; rfl
  unfold openingEvents
  cases hvisit : s.visits id with
  | none =>
    cases visits_of_move h hu hset hmove with
    | none store began => exact .nothing store began
    | moves _ _ moved =>
      rw [moved.before] at hvisit
      cases hvisit
  | some v =>
    obtain ⟨p, phase⟩ := v
    obtain ⟨⟨store, notes, next⟩, hst, hstore, hfollows, hraises⟩ :=
      Task.visits_of_step hr (hbefore.symm.trans hvisit)
    dsimp only
    rw [hst]
    refine .visit hst hstore ⟨hvisit, hafter ▸ hfollows, ?_⟩ ?_
    · exact (visits_of_step hu hset).2.2
    · intro f hf
      obtain ⟨e, hdone, hcause⟩ := hraises f hf
      exact ⟨e, result?_eq_some_iff.2 ⟨t', ht', hdone⟩, hcause⟩

end System

/-- The runs of a system, with what their steps have contributed to opening the pool. -/
inductive OpeningRun (s₀ : System) : List Event → List (Nat × OpeningEvent) → System → Prop
  | start : OpeningRun s₀ [] [] s₀
  /-- A task takes a step. -/
  | step {es : List Event} {history : List (Nat × OpeningEvent)} {s s' : System} {id : Nat}
      {choice : Choice} (run : OpeningRun s₀ es history s) (step : s.step id choice = some s') :
      OpeningRun s₀ (es ++ s.events s' id) (history ++ s.openingEvents id choice) s'
  /-- Idle locks are forgotten. -/
  | forget {es : List Event} {history : List (Nat × OpeningEvent)} {s : System}
      (run : OpeningRun s₀ es history s) : OpeningRun s₀ es history s.forgetLocks

theorem OpeningRun.run {s₀ s : System} {es : List Event} {history : List (Nat × OpeningEvent)}
    (h : OpeningRun s₀ es history s) : Run s₀ es s := by
  induction h with
  | start => exact .start
  | step _ step ih => exact ih.step step
  | forget _ ih => exact ih.forget

/-- Every run has a history of what has been done to open the pool. -/
theorem Run.exists_history {s₀ s : System} {es : List Event} (h : Run s₀ es s) :
    ∃ history, OpeningRun s₀ es history s := by
  induction h with
  | start => exact ⟨[], .start⟩
  | step _ step ih =>
    obtain ⟨history, hrun⟩ := ih
    exact ⟨_, hrun.step step⟩
  | forget _ ih =>
    obtain ⟨history, hrun⟩ := ih
    exact ⟨history, hrun.forget⟩

/-! ### Attempts that have failed -/

/-- The events of attempts, one attempt after the other, with the tasks that make them. -/
def historyOf (attempts : List Attempt) : List (Nat × OpeningEvent) :=
  attempts.flatMap fun a => a.events.map fun e => (a.opener, e)

@[simp] theorem historyOf_concat (attempts : List Attempt) (a : Attempt) :
    historyOf (attempts ++ [a]) = historyOf attempts ++ a.events.map fun e => (a.opener, e) := by
  simp [historyOf]

/-- The connections that were made in attempts. -/
def madeIn (attempts : List Attempt) : List Nat := attempts.flatMap Attempt.made

@[simp] theorem madeIn_concat (attempts : List Attempt) (a : Attempt) :
    madeIn (attempts ++ [a]) = madeIn attempts ++ a.made := by
  simp [madeIn]

namespace System

variable {s s' : System} {id other : Nat} {choice : Choice} {a : Attempt}

/-- An attempt has failed: it has done a part of what there was to do, it has closed every
connection that it had made, the last one first, and its task has raised the fault. -/
structure HasFailed (s : System) (a : Attempt) : Prop where
  raised : ∃ f e, a.outcome = some (.error f) ∧ s.result? a.opener = some (.error e) ∧
    e.cause? = some f
  partly : ∃ n, a.efforts <+: making (List.range' n s.world.store.pool.size.toNat)
  undone : a.closed = a.made.reverse
  made : ∀ c, c ∈ a.made → c < s.world.store.connections.length
  shut : ∀ c, c ∈ a.made → s.world.store.isOpen c = false

/-- A step makes no connection go, and opens none again. -/
theorem closed_of_step (h : s.Sound) (hstep : s.step id choice = some s') :
    s.world.store.connections.length ≤ s'.world.store.connections.length ∧
      ∀ c, c < s.world.store.connections.length → s.world.store.isOpen c = false →
        s'.world.store.isOpen c = false := by
  have hcontributes := contributes_of_step h hstep
  generalize s.openingEvents id choice = events at hcontributes
  cases hcontributes with
  | nothing store =>
    rw [store]
    exact ⟨Nat.le_refl _, fun _ _ hclosed => hclosed⟩
  | visit step store =>
    have hmove := Visit.moves_of_step step
    rw [store]
    exact ⟨(hmove.count_le 0).1, fun c => hmove.isClosed⟩

/-- **What has failed stays so.** -/
theorem HasFailed.step (h : s.HasFailed a) (hsound : s.Sound)
    (hstep : s.step id choice = some s') : s'.HasFailed a := by
  obtain ⟨hlength, hclosed⟩ := closed_of_step hsound hstep
  obtain ⟨f, e, houtcome, hdone, hcause⟩ := h.raised
  refine ⟨⟨f, e, houtcome, result?_of_step hstep hdone, hcause⟩, ?_, h.undone, ?_, ?_⟩
  · rw [size_of_step hstep]
    exact h.partly
  · exact fun c hc => Nat.lt_of_lt_of_le (h.made c hc) hlength
  · exact fun c hc => hclosed c (h.made c hc) (h.shut c hc)

/-- An attempt that has just failed, and whose task has raised the fault. -/
theorem hasFailed_of_fails {n : Nat} {f : Fault} {e : Error}
    (h : a.Fails n s.world.store f) (hdone : s.result? a.opener = some (.error e))
    (hcause : e.cause? = some f) : s.HasFailed a := by
  refine ⟨⟨f, e, h.outcome, hdone, hcause⟩, ⟨n, h.partly⟩, h.undone, ?_, h.shut⟩
  intro c hc
  rw [Attempt.made_of_partly h.partly, List.mem_range'_1] at hc
  rw [h.length]
  exact hc.2

section Sound

variable {p : Purpose} {phase : Phase p.Answer} (h : s.Sound)
  (hvisit : s.visits id = some ⟨p, phase⟩)
include h hvisit

/-- The pool is closed while a visit opens it. -/
theorem Sound.closed_of_isOpening (hphase : phase.isOpening = true) :
    s.world.store.pool.current = none :=
  (h.store.openings.turn id (by rw [hvisit]; exact hphase)).2

/-- No visit opens a pool that is open. -/
theorem Sound.isOpening_of_open {q : Nat} (hopen : s.world.store.pool.current = some q) :
    phase.isOpening = false := by
  rw [← h.store.openings.not_isOpening_of_current hopen id, hvisit]
  rfl

/-- No visit comes to a queue while the pool is closed. -/
theorem Sound.queue?_of_closed (hclosed : s.world.store.pool.current = none) :
    phase.queue? = none := by
  cases hqueue : phase.queue? with
  | none => rfl
  | some q =>
    rw [h.store.openings.queue id q (by rw [hvisit]; exact hqueue)] at hclosed
    cases hclosed

end Sound

/-- A visit that opens the pool leaves others nothing to do but to stand in line. -/
theorem Sound.lineUp_of_other (hsound : s.Sound) {p : Purpose} {phase : Phase p.Answer} {t : Store}
    {notes : List Log.Note} {next : Progress p.Answer}
    (hstep : Visit.step id p choice phase s.world.store = some ⟨t, notes, next⟩)
    (hvisit : s.visits id = some ⟨p, phase⟩)
    (hopening : Visiting.isOpening (s.visits other) = true) (hother : id ≠ other) :
    Visit.openingEvents s.world.store t next phase = [] ∧
      t = s.world.store.withPool (s.world.store.pool.join id) := by
  have hopenings := hsound.store.openings
  obtain ⟨hfirst, hclosed⟩ := hopenings.turn other hopening
  have hphase : phase.isOpening = false := by
    cases hphase : phase.isOpening with
    | false => rfl
    | true => exact absurd (hopenings.opener_unique (by rw [hvisit]; exact hphase) hopening) hother
  have hqueue := hsound.queue?_of_closed hvisit hclosed
  have hnothing : Visit.openingEvents s.world.store t next phase = [] := by
    by_contra hevents
    obtain ⟨-, ⟨-, hnone⟩ | ⟨-, hmine⟩⟩ := Visit.first_of_step hstep hphase hevents
    · rw [hnone] at hfirst
      cases hfirst
    · rw [hmine] at hfirst
      exact hother (Option.some.inj hfirst)
  exact ⟨hnothing,
    ((Visit.moves_of_step hstep).lineUp_of_nothing hclosed hphase hqueue hnothing).1⟩

/-! ### Rows of attempts -/

/-- A row of attempts to open the pool, of which all but the last have failed. The first connection
that was made has the number `n`. -/
inductive Attempted (s : System) (n : Nat) : List Attempt → Prop
  /-- The last one has failed as well, and the pool is closed. -/
  | closed {failed : List Attempt} {m : Nat} (fails : ∀ a, a ∈ failed → s.HasFailed a)
      (made : madeIn failed = List.range' n m)
      (length : s.world.store.connections.length = n + m)
      (isClosed : s.world.store.pool.current = none) (empty : s.world.store.pool.tracked = [])
      (nobody : ∀ id, Visiting.isOpening (s.visits id) = false) : Attempted s n failed
  /-- The last one goes on. -/
  | running {failed : List Attempt} {m : Nat} {a : Attempt} {p : Purpose} {phase : Phase p.Answer}
      (fails : ∀ a, a ∈ failed → s.HasFailed a) (made : madeIn failed = List.range' n m)
      (isClosed : s.world.store.pool.current = none)
      (visit : s.visits a.opener = some ⟨p, phase⟩) (isOpening : phase.isOpening = true)
      (there : a.At (n + m) s.world.store phase) : Attempted s n (failed ++ [a])
  /-- The last one has opened the pool, which has had as many connections as places since. -/
  | opened {failed : List Attempt} {m : Nat} {a : Attempt} {q : Nat}
      (fails : ∀ a, a ∈ failed → s.HasFailed a) (made : madeIn failed = List.range' n m)
      (isOpen : s.world.store.pool.current = some q) (outcome : a.outcome = some (.ok q))
      (wholly : a.efforts = making (List.range' (n + m) s.world.store.pool.size.toNat))
      (kept : a.closed = [])
      (full : s.world.store.pool.tracked.length = s.world.store.pool.size.toNat) :
      Attempted s n (failed ++ [a])

namespace Attempted

variable {n m : Nat} {failed : List Attempt}

/-- The last attempt of a row after a step of its visit. -/
theorem ofComes {p : Purpose} {phase : Phase p.Answer} {next : Progress p.Answer}
    (hfails : ∀ a, a ∈ failed → s'.HasFailed a) (hmade : madeIn failed = List.range' n m)
    (hcomes : a.Comes (n + m) s'.world.store next)
    (hmoved : Visiting.Moved a.opener phase next s.visits s'.visits)
    (halone : ∀ other, other ≠ a.opener → Visiting.isOpening (s.visits other) = false)
    (hraises : ∀ f, next = .ended (.error (.fault f)) →
      ∃ e, s'.result? a.opener = some (.error e) ∧ e.cause? = some f) :
    s'.Attempted n (failed ++ [a]) := by
  cases hcomes with
  | goesOn isOpening isClosed there =>
    exact .running hfails hmade isClosed hmoved.after isOpening there
  | @failed f isClosed empty fails =>
    have hnumbers := Attempt.made_of_partly fails.partly
    have hlength := fails.length
    rw [Nat.add_assoc] at hlength
    refine .closed ?_ ?_ hlength isClosed empty ?_
    · intro b hb
      obtain hb | hb := List.mem_append.1 hb
      · exact hfails b hb
      · rw [List.mem_singleton.1 hb]
        obtain ⟨e, hdone, hcause⟩ := hraises f rfl
        exact hasFailed_of_fails fails hdone hcause
    · rw [madeIn_concat, hmade, hnumbers, List.length_range', List.range'_append_1]
    · intro id
      by_cases hid : id = a.opener
      · rw [hid]
        exact Visiting.yields_of_isIdle (f := @Phase.isOpening) (fun _ => rfl) hmoved.after
      · rw [hmoved.others id hid]
        exact halone id hid
  | opened isOpen leaves succeeds =>
    refine .opened hfails hmade isOpen succeeds.outcome succeeds.wholly succeeds.kept ?_
    rw [succeeds.tracked, Attempt.made, succeeds.wholly, filterMap_making, List.length_range']

/-- A step while the pool is closed and nobody opens it. -/
theorem step_closed (hsound : s.Sound) (hstep : s.step id choice = some s')
    (hfails : ∀ a, a ∈ failed → s.HasFailed a) (hmade : madeIn failed = List.range' n m)
    (hlength : s.world.store.connections.length = n + m)
    (hclosed : s.world.store.pool.current = none) (hempty : s.world.store.pool.tracked = [])
    (hnobody : ∀ id, Visiting.isOpening (s.visits id) = false) :
    ∃ attempts, s'.Attempted n attempts ∧
      historyOf attempts = historyOf failed ++ s.openingEvents id choice := by
  have hfails' : ∀ a, a ∈ failed → s'.HasFailed a := fun a ha => (hfails a ha).step hsound hstep
  have hcontributes := contributes_of_step hsound hstep
  generalize s.openingEvents id choice = events at hcontributes
  cases hcontributes with
  | nothing store began =>
    refine ⟨failed, .closed hfails' hmade ?_ ?_ ?_ ?_, (List.append_nil _).symm⟩
    · rw [store]
      exact hlength
    · rw [store]
      exact hclosed
    · rw [store]
      exact hempty
    · intro other
      rw [← hnobody other]
      exact Visiting.Began.yields (fun _ => rfl) began other
  | @visit _ p phase t _ next step store moved raises =>
    have hmove : Visit.Moves id p s.world.store phase t next := Visit.moves_of_step step
    have hphase : phase.isOpening = false := by
      rw [← hnobody id, moved.before]
      rfl
    by_cases hnothing : Visit.openingEvents s.world.store t next phase = []
    · have hqueue := hsound.queue?_of_closed moved.before hclosed
      obtain ⟨rfl, rfl⟩ := hmove.lineUp_of_nothing hclosed hphase hqueue hnothing
      refine ⟨failed, .closed hfails' hmade ?_ ?_ ?_ ?_, ?_⟩
      · rw [store]
        exact hlength
      · rw [store]
        exact hclosed
      · rw [store]
        exact hempty
      · intro other
        by_cases hother : other = id
        · rw [hother, show s'.visits id = _ from moved.after]
          rfl
        · rw [moved.others other hother]
          exact hnobody other
      · rw [hnothing]
        exact (List.append_nil _).symm
    · obtain ⟨a, rfl, hevents, hcomes⟩ := Visit.exists_attempt hmove hphase hnothing hclosed hempty
      rw [hlength, ← store] at hcomes
      refine ⟨failed ++ [a], .ofComes hfails' hmade hcomes moved (fun other _ => hnobody other)
        raises, ?_⟩
      rw [historyOf_concat, hevents]

/-- A step while an attempt goes on. -/
theorem step_running (hsound : s.Sound) (hstep : s.step id choice = some s')
    (hfails : ∀ a, a ∈ failed → s.HasFailed a) (hmade : madeIn failed = List.range' n m)
    (hclosed : s.world.store.pool.current = none) {p : Purpose} {phase : Phase p.Answer}
    (hvisit : s.visits a.opener = some ⟨p, phase⟩) (hopening : phase.isOpening = true)
    (hthere : a.At (n + m) s.world.store phase) :
    ∃ attempts, s'.Attempted n attempts ∧
      historyOf attempts = historyOf (failed ++ [a]) ++ s.openingEvents id choice := by
  have hfails' : ∀ a, a ∈ failed → s'.HasFailed a := fun a ha => (hfails a ha).step hsound hstep
  have hopener : Visiting.isOpening (s.visits a.opener) = true := by
    rw [hvisit]
    exact hopening
  have hcontributes := contributes_of_step hsound hstep
  generalize s.openingEvents id choice = events at hcontributes
  by_cases hid : id = a.opener
  · subst hid
    cases hcontributes with
    | nothing _ began =>
      have hnone := began.before
      rw [hvisit] at hnone
      cases hnone
    | visit step store moved raises =>
      cases hvisit.symm.trans moved.before
      obtain ⟨b, hsame, hevents, hcomes⟩ :=
        hthere.moves (Visit.moves_of_step step) hopening hclosed
      have halone : ∀ other, other ≠ b.opener → Visiting.isOpening (s.visits other) = false := by
        intro other hother
        cases hopens : Visiting.isOpening (s.visits other) with
        | false => rfl
        | true =>
          rw [hsame] at hother
          exact absurd (hsound.store.openings.opener_unique hopens hopener) hother
      rw [← store] at hcomes
      rw [← hsame] at moved raises
      refine ⟨failed ++ [b], .ofComes hfails' hmade hcomes moved halone raises, ?_⟩
      rw [historyOf_concat, historyOf_concat, hevents, hsame, List.map_append, List.append_assoc]
  · have hothers : s'.visits a.opener = s.visits a.opener := by
      cases hcontributes with
      | nothing _ began => exact began.others _ (Ne.symm hid)
      | visit _ _ moved => exact moved.others _ (Ne.symm hid)
    cases hcontributes with
    | nothing store =>
      refine ⟨failed ++ [a], .running hfails' hmade ?_ (hothers.trans hvisit) hopening ?_,
        (List.append_nil _).symm⟩
      · rw [store]
        exact hclosed
      · rw [store]
        exact hthere
    | visit step store moved =>
      obtain ⟨hnothing, rfl⟩ := hsound.lineUp_of_other step moved.before hopener hid
      refine ⟨failed ++ [a], .running hfails' hmade ?_ (hothers.trans hvisit) hopening ?_, ?_⟩
      · rw [store]
        exact hclosed
      · rw [store]
        exact ⟨hthere.outcome, hthere.partly, hthere.tracked, hthere.length, hthere.shut,
          hthere.fits⟩
      · rw [hnothing]
        exact (List.append_nil _).symm

/-- A step once the pool is open. -/
theorem step_opened (hsound : s.Sound) (honce : TracksOnce s.world.store)
    (hstep : s.step id choice = some s') (hfails : ∀ a, a ∈ failed → s.HasFailed a)
    (hmade : madeIn failed = List.range' n m) {q : Nat}
    (hopen : s.world.store.pool.current = some q) (houtcome : a.outcome = some (.ok q))
    (hwholly : a.efforts = making (List.range' (n + m) s.world.store.pool.size.toNat))
    (hkept : a.closed = [])
    (hfull : s.world.store.pool.tracked.length = s.world.store.pool.size.toNat) :
    ∃ attempts, s'.Attempted n attempts ∧
      historyOf attempts = historyOf (failed ++ [a]) ++ s.openingEvents id choice := by
  have hfails' : ∀ a, a ∈ failed → s'.HasFailed a := fun a ha => (hfails a ha).step hsound hstep
  have hopenings := hsound.store.openings
  rw [← size_of_step hstep] at hwholly hfull
  have hcontributes := contributes_of_step hsound hstep
  generalize s.openingEvents id choice = events at hcontributes
  cases hcontributes with
  | nothing store =>
    refine ⟨failed ++ [a], .opened hfails' hmade ?_ houtcome hwholly hkept ?_,
      (List.append_nil _).symm⟩
    · rw [store]
      exact hopen
    · rw [store] at hfull ⊢
      exact hfull
  | @visit _ p phase _ _ _ step store moved =>
    have hphase := hsound.isOpening_of_open moved.before hopen
    have hheld : ∀ c, c ∈ phase.held → c ∈ s.world.store.pool.tracked := by
      intro c hc
      refine (hopenings.lent q hopen c).2 (.inr ⟨id, ?_⟩)
      rw [moved.before]
      exact hc
    have hmove := Visit.moves_of_step step
    refine ⟨failed ++ [a], .opened hfails' hmade ?_ houtcome hwholly hkept ?_, ?_⟩
    · rw [store]
      exact hmove.current_of_open hopen hphase
    · rw [← hfull, store]
      exact hmove.length_tracked hphase honce.nodup hheld
    · rw [Visit.openingEvents_of_open hopen hphase]
      exact (List.append_nil _).symm

/-- **A step takes the last attempt further, or begins one, or does neither.** -/
theorem step {attempts : List Attempt} (h : s.Attempted n attempts) (hsound : s.Sound)
    (honce : TracksOnce s.world.store) (hstep : s.step id choice = some s') :
    ∃ attempts', s'.Attempted n attempts' ∧
      historyOf attempts' = historyOf attempts ++ s.openingEvents id choice := by
  cases h with
  | closed fails made length isClosed empty nobody =>
    exact step_closed hsound hstep fails made length isClosed empty nobody
  | running fails made isClosed visit isOpening there =>
    exact step_running hsound hstep fails made isClosed visit isOpening there
  | opened fails made isOpen outcome wholly kept full =>
    exact step_opened hsound honce hstep fails made isOpen outcome wholly kept full

/-- While nobody opens a pool that is closed, all connections that were made are closed. -/
theorem isOpen_of_closed {attempts : List Attempt} (h : s.Attempted n attempts)
    (hclosed : s.world.store.pool.current = none)
    (hnobody : ∀ id, Visiting.isOpening (s.visits id) = false) (c : Nat) (hc : n ≤ c) :
    s.world.store.isOpen c = false := by
  cases h with
  | @closed _ m fails made length =>
    by_cases hlt : c < s.world.store.connections.length
    · have hmade : c ∈ madeIn attempts := by
        rw [made, List.mem_range'_1]
        omega
      obtain ⟨a, ha, hmade⟩ := List.mem_flatMap.1 hmade
      exact (fails a ha).shut c hmade
    · cases hopen : s.world.store.isOpen c with
      | false => rfl
      | true => exact absurd (Visit.lt_of_isOpen hopen) hlt
  | @running _ _ a _ _ _ _ _ visit isOpening =>
    have hno := hnobody a.opener
    rw [visit] at hno
    cases isOpening.symm.trans hno
  | opened _ _ isOpen =>
    rw [hclosed] at isOpen
    cases isOpen

/-- An open pool has as many connections as places. -/
theorem length_tracked {attempts : List Attempt} (h : s.Attempted n attempts) {q : Nat}
    (hopen : s.world.store.pool.current = some q) :
    s.world.store.pool.tracked.length = s.world.store.pool.size.toNat := by
  cases h with
  | closed _ _ _ isClosed | running _ _ isClosed =>
    rw [hopen] at isClosed
    cases isClosed
  | opened _ _ _ _ _ _ full => exact full

theorem forgetLocks {attempts : List Attempt} (h : s.Attempted n attempts) :
    s.forgetLocks.Attempted n attempts := by
  have hfails : ∀ {a : Attempt}, s.HasFailed a → s.forgetLocks.HasFailed a :=
    fun ha => ⟨ha.raised, ha.partly, ha.undone, ha.made, ha.shut⟩
  cases h with
  | closed fails made length isClosed empty nobody =>
    exact .closed (fun a ha => hfails (fails a ha)) made length isClosed empty nobody
  | running fails made isClosed visit isOpening there =>
    exact .running (fun a ha => hfails (fails a ha)) made isClosed visit isOpening there
  | opened fails made isOpen outcome wholly kept full =>
    exact .opened (fun a ha => hfails (fails a ha)) made isOpen outcome wholly kept full

end Attempted

end System

end Ledger

end CharacterLedger
