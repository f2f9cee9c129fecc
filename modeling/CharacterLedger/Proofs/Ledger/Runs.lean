import CharacterLedger.Proofs.Ledger.Moves
import CharacterLedger.Session.Scene

/-!
# Runs of a system

A run is any sequence of steps of the tasks of a system, by any choices and in any order; idle locks
may be forgotten at any time.  A run leaves a history of who came to a lock and who ended how.

* `System.Sound` — the store, the locks and the stages of the tasks are in order;
* `System.OneDatabase` — the tasks share one database and go past the ledger with no change of it;
* `Run` — the runs of a system, with their histories;
* `Run.sound`, `Run.oneDatabase` — both hold after every run;
* `Passes` — a step that a run has taken on its way;
* `System.rows_of_move` — a step changes the rows only when it ends an adjustment that succeeds.
-/

namespace CharacterLedger.Ledger

open CharacterLedger.Storage CharacterLedger.Table

namespace Task

/-- Where a task stands in the lines of the locks. -/
def standing? (t : Task) : Option Standing :=
  match t.stage.lock?, t.call.key? with
  | some (lock, holds), some key => some ⟨lock, key, holds⟩
  | _, _ => none

theorem standing?_of_lock? {t : Task} {lock : Nat} {holds : Bool} {key : Key}
    (hlock : t.stage.lock? = some (lock, holds)) (hkey : t.call.key? = some key) :
    t.standing? = some ⟨lock, key, holds⟩ := by
  simp [standing?, hlock, hkey]

theorem standing?_of_none {t : Task} (hlock : t.stage.lock? = none) : t.standing? = none := by
  simp [standing?, hlock]

end Task

namespace System

variable {s s' : System}

/-- The visits of the tasks, by their numbers. -/
def visits (s : System) (id : Nat) : Option Visiting := s.tasks[id]?.bind fun t => t.stage.visit?

/-- Where the tasks stand in the lines of the locks, by their numbers. -/
def standing (s : System) (id : Nat) : Option Standing := s.tasks[id]?.bind Task.standing?

theorem visits_eq_none (h : ∀ (id : Nat) (t : Task), s.tasks[id]? = some t → t.stage.visit? = none) :
    s.visits = fun _ => none := by
  funext id
  unfold visits
  cases ht : s.tasks[id]? with
  | none => rfl
  | some t => exact h id t ht

theorem standing_eq_none
    (h : ∀ (id : Nat) (t : Task), s.tasks[id]? = some t → t.stage.lock? = none) :
    s.standing = fun _ => none := by
  funext id
  unfold standing
  cases ht : s.tasks[id]? with
  | none => rfl
  | some t => exact Task.standing?_of_none (h id t ht)

/-- The store, the locks and the stages of the tasks are in order, and nobody closes the pool. -/
structure Sound (s : System) : Prop where
  fits : ∀ (id : Nat) (t : Task), s.tasks[id]? = some t → Task.Fits t.call t.stage
  staysOpen : ∀ (id : Nat) (t : Task), s.tasks[id]? = some t → t.call ≠ .closePool
  store : Orderly s.world.store s.visits
  locks : Lines s.world.locks s.standing

/-! ### Steps -/

/-- What is said of one task, by the numbers of the tasks, before and after a step of `id`. -/
theorem bind_set {α : Type} {tasks : List Task} {id : Nat} (t' : Task)
    (hlt : id < tasks.length) (f : Task → Option α) :
    ((tasks.set id t')[id]?.bind f) = f t' ∧
      ∀ other, other ≠ id → (tasks.set id t')[other]?.bind f = tasks[other]?.bind f := by
  refine ⟨?_, ?_⟩
  · rw [List.getElem?_set_self hlt]
    rfl
  · intro other hne
    rw [List.getElem?_set_ne hne.symm]

/-- What the visits of all tasks are after a step of one. -/
theorem visits_of_step {id : Nat} {t t' : Task} (ht : s.tasks[id]? = some t)
    (hset : s'.tasks = s.tasks.set id t') :
    s.visits id = t.stage.visit? ∧ s'.visits id = t'.stage.visit? ∧
      ∀ other, other ≠ id → s'.visits other = s.visits other := by
  obtain ⟨hlt, -⟩ := List.getElem?_eq_some_iff.1 ht
  obtain ⟨hself, hothers⟩ := bind_set t' hlt fun t => t.stage.visit?
  refine ⟨?_, ?_, ?_⟩
  · rw [visits, ht]
    rfl
  · rw [visits, hset]
    exact hself
  · intro other hne
    rw [visits, hset]
    exact hothers other hne

/-- Where all tasks stand after a step of one. -/
theorem standing_of_step {id : Nat} {t t' : Task} (ht : s.tasks[id]? = some t)
    (hset : s'.tasks = s.tasks.set id t') :
    s.standing id = t.standing? ∧ s'.standing id = t'.standing? ∧
      ∀ other, other ≠ id → s'.standing other = s.standing other := by
  obtain ⟨hlt, -⟩ := List.getElem?_eq_some_iff.1 ht
  obtain ⟨hself, hothers⟩ := bind_set t' hlt Task.standing?
  refine ⟨?_, ?_, ?_⟩
  · rw [standing, ht]
    rfl
  · rw [standing, hset]
    exact hself
  · intro other hne
    rw [standing, hset]
    exact hothers other hne

/-- A task after a step of one is that one or was there before. -/
theorem task_of_step {id other : Nat} {t t' : Task} (hset : s'.tasks = s.tasks.set id t')
    (ho : s'.tasks[other]? = some t) : (other = id ∧ t = t') ∨ s.tasks[other]? = some t := by
  rw [hset, List.getElem?_set] at ho
  split at ho
  · next heq =>
    split at ho
    · exact .inl ⟨heq.symm, (Option.some.inj ho).symm⟩
    · cases ho
  · exact .inr ho

/-- What a step does to the visits of all tasks, and to the connection that its task is closing. -/
inductive Turn (id : Nat) (s : System) (t t' : Task) (s' : System) : Prop
  /-- A visit may begin. -/
  | none (store : s'.world.store = s.world.store) (began : Visiting.Began id s.visits s'.visits)
      (idle : t.stage.closing? = Option.none ∧ t'.stage.closing? = Option.none)
  /-- It is a move of a visit, and a transaction that succeeds is that of a record. -/
  | moves {p : Purpose} {phase : Phase p.Answer} {next : Progress p.Answer}
      (before : t.stage.visit? = some ⟨p, phase⟩)
      (move : Visit.Moves id p s.world.store phase s'.world.store next)
      (moved : Visiting.Moved id phase next s.visits s'.visits)
      (commits : ∀ a, next = .ended (.ok a) → p.IsTransaction →
        (∃ changed, Task.Commits t.stage t'.stage changed) ∨
          ∃ phase', t.stage = .visiting p phase')
      (idle : t.stage.closing? = Option.none ∧ t'.stage.closing? = Option.none)
  /-- The pool is being closed. -/
  | closes (closing : t.call = .closePool ∨ t.stage.closing? ≠ Option.none)
      (visits : s'.visits = s.visits)
      (closes : Closes (s.world.store.closeTaken t.stage.closing?) s'.world.store
        t'.stage.closing?)

theorem turn_of_move {id : Nat} {t t' : Task} (ht : s.tasks[id]? = some t)
    (hset : s'.tasks = s.tasks.set id t')
    (hmove : Task.Moves id t.call s.world.store s.world.locks t.stage s'.world.store
      s'.world.locks t'.stage) : Turn id s t t' s' := by
  obtain ⟨hbefore, hafter, hothers⟩ := visits_of_step ht hset
  cases hmove.visits with
  | none store before after idle =>
    exact .none store ⟨hbefore.trans before, hafter ▸ after, hothers⟩ idle
  | moves before move after commits idle =>
    exact .moves before move ⟨hbefore.trans before, hafter ▸ after, hothers⟩ commits idle
  | closes closing before after closes =>
    refine .closes closing (funext fun other => ?_) closes
    by_cases hother : other = id
    · rw [hother, hbefore, hafter, before, after]
    · exact hothers other hother

/-- What a step does to the visits of all tasks when nobody closes the pool. -/
inductive Visits (id : Nat) (s : System) (t t' : Task) (s' : System) : Prop
  /-- A visit may begin. -/
  | none (store : s'.world.store = s.world.store) (began : Visiting.Began id s.visits s'.visits)
  /-- It is a move of a visit, and a transaction that succeeds is that of a record. -/
  | moves {p : Purpose} {phase : Phase p.Answer} {next : Progress p.Answer}
      (before : t.stage.visit? = some ⟨p, phase⟩)
      (move : Visit.Moves id p s.world.store phase s'.world.store next)
      (moved : Visiting.Moved id phase next s.visits s'.visits)
      (commits : ∀ a, next = .ended (.ok a) → p.IsTransaction →
        (∃ changed, Task.Commits t.stage t'.stage changed) ∨
          ∃ phase', t.stage = .visiting p phase')

theorem visits_of_move (h : s.Sound) {id : Nat} {t t' : Task} (ht : s.tasks[id]? = some t)
    (hset : s'.tasks = s.tasks.set id t')
    (hmove : Task.Moves id t.call s.world.store s.world.locks t.stage s'.world.store
      s'.world.locks t'.stage) : Visits id s t t' s' := by
  cases turn_of_move ht hset hmove with
  | none store began => exact .none store began
  | moves before move moved commits => exact .moves before move moved commits
  | closes closing =>
    obtain hcall | hclosing := closing
    · exact absurd hcall (h.staysOpen id t ht)
    · exact absurd (Task.closePool_of_fits (h.fits id t ht) hclosing) (h.staysOpen id t ht)

/-- The locks stay in order in a step. -/
theorem lines_of_step (h : Lines s.world.locks s.standing) {id : Nat} {t t' : Task}
    (hfits : Task.Fits t.call t.stage) (ht : s.tasks[id]? = some t)
    (hset : s'.tasks = s.tasks.set id t') (hcall : t'.call = t.call)
    (hmove : Task.Moves id t.call s.world.store s.world.locks t.stage s'.world.store
      s'.world.locks t'.stage) : Lines s'.world.locks s'.standing := by
  obtain ⟨hbefore, hafter, hothers⟩ := standing_of_step ht hset
  cases hmove.locking with
  | alone locks stage =>
    rw [locks]
    refine h.congr ?_
    intro other
    by_cases hother : other = id
    · rw [hother, hbefore, hafter, Task.standing?, Task.standing?, stage, hcall]
    · exact hothers other hother
  | @reaches key isKey before locks after =>
    rw [locks]
    refine h.reach key ?_ ?_ hothers
    · rw [hbefore, Task.standing?_of_none before]
    · rw [hafter]
      exact Task.standing?_of_lock? after (hcall ▸ isKey)
  | @acquires lock before locks first after =>
    obtain ⟨key, hkey⟩ := Task.key?_of_fits hfits before
    rw [locks]
    refine h.acquire (k := key) ?_ first ?_ hothers
    · rw [hbefore]
      exact Task.standing?_of_lock? before hkey
    · rw [hafter]
      exact Task.standing?_of_lock? after (hcall ▸ hkey)
  | @releases lock before locks after =>
    obtain ⟨key, hkey⟩ := Task.key?_of_fits hfits before
    rw [locks]
    refine h.release (k := key) ?_ ?_ hothers
    · rw [hbefore]
      exact Task.standing?_of_lock? before hkey
    · rw [hafter, Task.standing?_of_none after]

/-- After a step every task is still at a stage that its call can come to. -/
theorem fits_of_step (h : ∀ (id : Nat) (t : Task), s.tasks[id]? = some t → Task.Fits t.call t.stage)
    {id : Nat} {choice : Choice} (hstep : s.step id choice = some s') (other : Nat) (u : Task)
    (hu : s'.tasks[other]? = some u) : Task.Fits u.call u.stage := by
  obtain ⟨t, t', ht, hset, hcall, hmove⟩ := moves_of_step hstep
  obtain ⟨-, rfl⟩ | hold := task_of_step hset hu
  · rw [hcall]
    exact hmove.fits (h id t ht)
  · exact h other u hold

/-- **A step of any task keeps a system in order.** -/
theorem Sound.step (h : s.Sound) {id : Nat} {choice : Choice} (hstep : s.step id choice = some s') :
    s'.Sound := by
  obtain ⟨t, t', ht, hset, hcall, hmove⟩ := moves_of_step hstep
  refine ⟨fits_of_step h.fits hstep, ?_, ?_,
    lines_of_step h.locks (h.fits id t ht) ht hset hcall hmove⟩
  · intro other u hu
    obtain ⟨-, rfl⟩ | hold := task_of_step hset hu
    · rw [hcall]
      exact h.staysOpen id t ht
    · exact h.staysOpen other u hold
  · cases visits_of_move h ht hset hmove with
    | none store began =>
      rw [store]
      exact h.store.began began
    | moves before move moved => exact h.store.moves move moved

/-- Forgetting idle locks keeps a system in order. -/
theorem Sound.forgetLocks (h : s.Sound) : s.forgetLocks.Sound :=
  ⟨h.fits, h.staysOpen, h.store, h.locks.forget⟩

/-! ### One database -/

/-- All tasks share one database, and none of them writes to it past the ledger. -/
structure OneDatabase (s : System) : Prop where
  place : Place s.world.store s.visits
  onlyReads : ∀ (id : Nat) (t : Task), s.tasks[id]? = some t →
    ∀ e, t.call = .borrow e → ¬ (Purpose.borrow e).IsTransaction

/-- A visit that no lock protects writes nothing. -/
theorem OneDatabase.not_isTransaction (hone : s.OneDatabase) {id : Nat} {t : Task}
    (ht : s.tasks[id]? = some t) {p : Purpose} (hpurpose : t.call.purpose? = some p) :
    ¬ p.IsTransaction := by
  cases hc : t.call with
  | borrow e =>
    rw [hc] at hpurpose
    cases hpurpose
    exact hone.onlyReads id t ht e hc
  | openPool =>
    rw [hc] at hpurpose
    cases hpurpose
    exact fun htransaction => htransaction
  | execute | rating | closePool | holdLock =>
    rw [hc] at hpurpose
    cases hpurpose

/-- A visit is no change past the ledger. -/
theorem OneDatabase.not_isChange (hone : s.OneDatabase) (h : s.Sound) {id : Nat} {t : Task}
    (ht : s.tasks[id]? = some t) {p : Purpose} {phase : Phase p.Answer}
    (hvisit : t.stage.visit? = some ⟨p, phase⟩) : ¬ p.IsChange := by
  have hfits := h.fits id t ht
  intro hchange
  cases hs : t.stage with
  | visiting p' phase' =>
    rw [hs] at hvisit hfits
    cases hvisit
    have hno := hone.not_isTransaction ht hfits
    cases p with
    | borrow e =>
      cases e with
      | change x => exact hno trivial
      | ask | save | breakConnection | keep => exact hchange
    | openPool => exact hchange
  | loading | saving =>
    rw [hs] at hvisit
    cases hvisit
    exact hchange
  | ready | closing | queued | queuedToHold | holding | done =>
    rw [hs] at hvisit
    cases hvisit

theorem OneDatabase.step (hone : s.OneDatabase) (h : s.Sound) {id : Nat} {choice : Choice}
    (hstep : s.step id choice = some s') : s'.OneDatabase := by
  obtain ⟨t, t', ht, hset, hcall, hmove⟩ := moves_of_step hstep
  refine ⟨?_, ?_⟩
  · cases visits_of_move h ht hset hmove with
    | none store began =>
      rw [store]
      exact hone.place.began began
    | moves before move moved =>
      exact hone.place.moves h.store.slots h.store.drafts h.store.openings move moved
        (hone.not_isChange h ht before)
  · intro other u hu
    obtain ⟨-, rfl⟩ | hold := task_of_step hset hu
    · rw [hcall]
      exact hone.onlyReads id t ht
    · exact hone.onlyReads other u hold

/-- The rows of the table that the tasks share. -/
def rows (s : System) : List Row := s.world.store.rows

/-- **A step changes the rows only when it ends an adjustment that succeeds**, and then it puts one
row in its place. -/
theorem rows_of_move (h : s.Sound) (hone : s.OneDatabase) {id : Nat} {t t' : Task}
    (ht : s.tasks[id]? = some t) (hset : s'.tasks = s.tasks.set id t')
    (hmove : Task.Moves id t.call s.world.store s.world.locks t.stage s'.world.store
      s'.world.locks t'.stage) :
    (∃ changed, Task.Commits t.stage t'.stage changed ∧
      s'.rows = CharacterTable.replaceRow (Row.ofCharacter changed) s.rows) ∨
    s'.rows = s.rows ∧ ∀ changed, ¬ Task.Commits t.stage t'.stage changed := by
  have hfits := h.fits id t ht
  by_cases hcommits : ∃ changed, Task.Commits t.stage t'.stage changed
  · obtain ⟨changed, hc⟩ := hcommits
    obtain ⟨hbefore, hafter, hothers⟩ := visits_of_step ht hset
    obtain ⟨phase, hvisit, hdone, move, hno⟩ := hmove.saved_of_commits hc hfits
    obtain ⟨q, c, rfl⟩ := move.committed hno
    exact .inl ⟨changed, hc, Database.rows_upsert <|
      hone.place.writes_of_commit h.store.drafts h.store.openings move
        ⟨hbefore.trans hvisit, .inl (hafter.trans hdone), hothers⟩⟩
  · refine .inr ⟨?_, fun changed hc => hcommits ⟨changed, hc⟩⟩
    cases visits_of_move h ht hset hmove with
    | none store began =>
      rw [rows, store]
      rfl
    | moves before move moved commits =>
      refine (hone.place.rows_of_moves h.store.slots h.store.drafts h.store.openings move moved
        (hone.not_isChange h ht before)).resolve_right ?_
      rintro ⟨q, c, a, -, hnext, htransaction⟩
      obtain hc | ⟨phase', hvisiting⟩ := commits a hnext htransaction
      · exact hcommits hc
      · rw [hvisiting] at hfits
        exact hone.not_isTransaction ht hfits htransaction

/-! ### The calls and results of the tasks -/

/-- The calls that the tasks carry out. -/
def calls (s : System) : List Call := s.tasks.map Task.call

@[simp] theorem calls_start (w : World) (calls : List Call) : (start w calls).calls = calls := by
  simp [start, System.calls, Task.new, Function.comp_def]

theorem calls_of_step {id : Nat} {choice : Choice} (hstep : s.step id choice = some s') :
    s'.calls = s.calls := by
  obtain ⟨t, t', ht, hset, hcall, -⟩ := moves_of_step hstep
  rw [calls, calls, hset, List.map_set, hcall]
  apply List.ext_getElem?
  intro i
  rw [List.getElem?_set]
  split
  · next hi =>
    rw [← hi, List.getElem?_map, ht]
    simp [(List.getElem?_eq_some_iff.1 ht).1]
  · rfl

theorem result?_eq_some_iff {id : Nat} {r : Except Error Reply} :
    s.result? id = some r ↔ ∃ t, s.tasks[id]? = some t ∧ t.stage = .done r := by
  unfold result?
  cases s.tasks[id]? with
  | none => simp
  | some t =>
    rw [Option.bind_some]
    cases hs : t.stage <;> simp [Task.result?, hs]

theorem getElem?_calls_eq_some_iff {id : Nat} {call : Call} :
    s.calls[id]? = some call ↔ ∃ t, s.tasks[id]? = some t ∧ t.call = call := by
  rw [calls, List.getElem?_map, Option.map_eq_some_iff]

/-- Every task of a system is that of a thing that the calls were made of. -/
theorem exists_call_eq {α : Type} {f : α → Call} {xs : List α} (hcalls : s.calls = xs.map f)
    {id : Nat} {t : Task} (ht : s.tasks[id]? = some t) : ∃ x, xs[id]? = some x ∧ t.call = f x := by
  have hcall := getElem?_calls_eq_some_iff.2 ⟨t, ht, rfl⟩
  rw [hcalls, List.getElem?_map, Option.map_eq_some_iff] at hcall
  obtain ⟨x, hx, heq⟩ := hcall
  exact ⟨x, hx, heq.symm⟩

/-- The tasks after a step of one. -/
theorem tasks_of_set {id : Nat} {t t' : Task} (ht : s.tasks[id]? = some t)
    (hset : s'.tasks = s.tasks.set id t') :
    s'.tasks[id]? = some t' ∧ ∀ other, other ≠ id → s'.tasks[other]? = s.tasks[other]? := by
  rw [hset]
  refine ⟨List.getElem?_set_self (List.getElem?_eq_some_iff.1 ht).1, ?_⟩
  exact fun other hne => List.getElem?_set_ne hne.symm

/-- A task that is done stays so. -/
theorem result?_of_step {id other : Nat} {choice : Choice} {r : Except Error Reply}
    (hstep : s.step id choice = some s') (hdone : s.result? other = some r) :
    s'.result? other = some r := by
  obtain ⟨t, t', ht, hset, -, hmove⟩ := moves_of_step hstep
  obtain ⟨u, hu, hstage⟩ := result?_eq_some_iff.1 hdone
  have hne : other ≠ id := by
    rintro rfl
    rw [ht, Option.some.injEq] at hu
    subst hu
    rw [hstage] at hmove
    exact hmove.not_done
  refine result?_eq_some_iff.2 ⟨u, ?_, hstage⟩
  rw [hset, List.getElem?_set_ne hne.symm]
  exact hu

/-- A step of one task is no end of another. -/
theorem result?_of_other {id other : Nat} {choice : Choice} (hstep : s.step id choice = some s')
    (hne : other ≠ id) : s'.result? other = s.result? other := by
  obtain ⟨t, t', ht, hset, -, -⟩ := moves_of_step hstep
  rw [result?, result?, (tasks_of_set ht hset).2 other hne]

/-- A task that ends in a step is the one that takes it. -/
theorem eq_of_ends {id other : Nat} {choice : Choice} (hstep : s.step id choice = some s')
    (hbefore : s.result? other = none) {r : Except Error Reply}
    (hdone : s'.result? other = some r) : other = id := by
  by_cases hsame : other = id
  · exact hsame
  · rw [result?_of_other hstep hsame, hbefore] at hdone
    cases hdone

end System

/-! ### Runs -/

/-- What the history of a run consists of. -/
inductive Event where
  /-- A task has come to the lock of its character. -/
  | reached (id : Nat)
  /-- A task has ended. -/
  | ended (id : Nat) (r : Except Error Reply)

/-- What a step of a task from one stage to another adds to the history. -/
def Event.between (id : Nat) : Stage → Stage → List Event
  | .ready, .queued .. | .ready, .queuedToHold _ => [reached id]
  | _, .done r => [ended id r]
  | _, _ => []

/-- What a step of the task `id` adds to the history. -/
def System.events (s s' : System) (id : Nat) : List Event :=
  match s.tasks[id]?, s'.tasks[id]? with
  | some t, some t' => Event.between id t.stage t'.stage
  | _, _ => []

/-- The runs of a system, with their histories. -/
inductive Run (s₀ : System) : List Event → System → Prop
  | start : Run s₀ [] s₀
  /-- A task takes a step. -/
  | step {es : List Event} {s s' : System} {id : Nat} {choice : Choice} (run : Run s₀ es s)
      (step : s.step id choice = some s') : Run s₀ (es ++ s.events s' id) s'
  /-- Idle locks are forgotten. -/
  | forget {es : List Event} {s : System} (run : Run s₀ es s) : Run s₀ es s.forgetLocks

namespace Run

variable {s₀ s s' : System} {es es' : List Event}

theorem trans (h : Run s₀ es s) (h' : Run s es' s') : Run s₀ (es ++ es') s' := by
  induction h' with
  | start =>
    rw [List.append_nil]
    exact h
  | step _ step ih =>
    rw [← List.append_assoc]
    exact ih.step step
  | forget _ ih => exact ih.forget

theorem calls (h : Run s₀ es s) : s.calls = s₀.calls := by
  induction h with
  | start => rfl
  | step _ step ih => exact (System.calls_of_step step).trans ih
  | forget _ ih => exact ih

theorem length_tasks (h : Run s₀ es s) : s.tasks.length = s₀.tasks.length := by
  simpa [System.calls] using congrArg List.length h.calls

/-- A task that is done stays so in every run. -/
theorem result? (h : Run s₀ es s) {id : Nat} {r : Except Error Reply}
    (hdone : s₀.result? id = some r) : s.result? id = some r := by
  induction h with
  | start => exact hdone
  | step _ step ih => exact System.result?_of_step step ih
  | forget _ ih => exact ih

/-- A run leaves every task at a stage that its call can come to. -/
theorem fits (h : Run s₀ es s)
    (hstart : ∀ (id : Nat) (t : Task), s₀.tasks[id]? = some t → Task.Fits t.call t.stage) :
    ∀ (id : Nat) (t : Task), s.tasks[id]? = some t → Task.Fits t.call t.stage := by
  induction h with
  | start => exact hstart
  | step _ step ih => exact System.fits_of_step ih step
  | forget _ ih => exact ih

/-- **A run keeps a system in order.** -/
theorem sound (h : Run s₀ es s) (hsound : s₀.Sound) : s.Sound := by
  induction h with
  | start => exact hsound
  | step _ step ih => exact ih.step step
  | forget _ ih => exact ih.forgetLocks

/-- **A run keeps the one database of a system.** -/
theorem oneDatabase (h : Run s₀ es s) (hsound : s₀.Sound) (hone : s₀.OneDatabase) :
    s.OneDatabase := by
  induction h with
  | start => exact hone
  | step run step ih => exact ih.step (run.sound hsound) step
  | forget _ ih => exact ⟨ih.place, ih.onlyReads⟩

end Run

/-- The run from `s₀` to `s` with the history `es` has passed from `s₁` to `s₂` by a step of the
task `id`. -/
def Passes (s₀ : System) (es : List Event) (s : System) (id : Nat) (s₁ s₂ : System) : Prop :=
  ∃ es₁ choice es₂, Run s₀ es₁ s₁ ∧ s₁.step id choice = some s₂ ∧ Run s₂ es₂ s ∧
    es = es₁ ++ s₁.events s₂ id ++ es₂

namespace Passes

variable {s₀ s s' s₁ s₂ : System} {es es' : List Event} {id : Nat} {choice : Choice}

/-- The last step of a run. -/
theorem last (h : Run s₀ es s) (hstep : s.step id choice = some s') :
    Passes s₀ (es ++ s.events s' id) s' id s s' :=
  ⟨es, choice, [], h, hstep, .start, (List.append_nil _).symm⟩

/-- What a run has passed it has passed however it goes on. -/
theorem later (h : Passes s₀ es s id s₁ s₂) (h' : Run s es' s') :
    Passes s₀ (es ++ es') s' id s₁ s₂ := by
  obtain ⟨es₁, choice, es₂, hrun, hstep, hrest, rfl⟩ := h
  exact ⟨es₁, choice, es₂ ++ es', hrun, hstep, hrest.trans h', List.append_assoc ..⟩

theorem step {other : Nat} (h : Passes s₀ es s id s₁ s₂) (hstep : s.step other choice = some s') :
    Passes s₀ (es ++ s.events s' other) s' id s₁ s₂ := by
  have hlast : Run s (s.events s' other) s' := Run.start.step hstep
  exact h.later hlast

theorem forget (h : Passes s₀ es s id s₁ s₂) : Passes s₀ es s.forgetLocks id s₁ s₂ := by
  have hlast : Run s [] s.forgetLocks := .forget .start
  rw [← List.append_nil es]
  exact h.later hlast

end Passes

/-- The system, and its history, after these steps of its tasks in turn. -/
def System.follow (s : System) : List (Nat × Choice) → Option (List Event × System)
  | [] => some ([], s)
  | (id, choice) :: steps =>
    match s.step id choice with
    | none => none
    | some next => (next.follow steps).map fun r => (s.events next id ++ r.1, r.2)

theorem System.follow_cons {s next s' : System} {id : Nat} {choice : Choice}
    {steps : List (Nat × Choice)} {es : List Event} (hstep : s.step id choice = some next)
    (hfollow : next.follow steps = some (es, s')) :
    s.follow ((id, choice) :: steps) = some (s.events next id ++ es, s') := by
  simp [follow, hstep, hfollow]

/-- Steps that can be taken make a run. -/
theorem Run.of_follow {steps : List (Nat × Choice)} {s₀ s s' : System} {es es' : List Event}
    (h : Run s₀ es s) (hfollow : s.follow steps = some (es', s')) : Run s₀ (es ++ es') s' := by
  induction steps generalizing s es es' with
  | nil =>
    cases hfollow
    rw [List.append_nil]
    exact h
  | cons first steps ih =>
    obtain ⟨id, choice⟩ := first
    simp only [System.follow] at hfollow
    cases hstep : s.step id choice with
    | none =>
      rw [hstep] at hfollow
      cases hfollow
    | some next =>
      rw [hstep] at hfollow
      simp only [Option.map_eq_some_iff] at hfollow
      obtain ⟨⟨rest, last⟩, hrest, heq⟩ := hfollow
      cases heq
      rw [← List.append_assoc]
      exact ih (h.step hstep) hrest

/-- What is seen of the system after steps that can be taken is seen after a run. -/
theorem Run.exists_of_view {α : Type} {steps : List (Nat × Choice)} {s₀ : System}
    (view : System → α) {a : α} (h : (s₀.follow steps).map (fun r => view r.2) = some a) :
    ∃ es s, Run s₀ es s ∧ view s = a := by
  obtain ⟨⟨es, s⟩, hfollow, hview⟩ := Option.map_eq_some_iff.1 h
  exact ⟨es, s, Run.start.of_follow hfollow, hview⟩

/-! ### Beginnings -/

/-- A world in which nothing is going on. -/
structure World.AtRest (w : World) : Prop where
  store : w.store.AtRest
  sound : w.locks.Sound
  idle : ∀ lock, w.locks.line lock = []

/-- In a world whose pool has never been opened, nothing is going on. -/
theorem World.atRest_world (disk : Disk) (location : Location) (size : Int)
    (entropy : Dice.Entropy) : (Session.world disk location size entropy).AtRest :=
  ⟨Store.atRest_of_fresh, KeyLocks.sound_empty, fun _ => rfl⟩

/-- A world with a database in memory, which has one connection. -/
def World.inMemory : World := Session.world .empty .memory 1 (.script 0 [])

/-- A world with a file whose table has these rows. -/
def World.withRows (rows : List Row) (size : Int) (dice : Dice.Entropy) : World :=
  Session.world ((Disk.empty.addFile ⟨1, some ⟨rows, []⟩⟩).1.addNode
    (Path.ofText "characters.db") (.file 0)) (.file "characters.db") size dice

@[simp] theorem World.rows_withRows (rows : List Row) (size : Int) (dice : Dice.Entropy) :
    (World.withRows rows size dice).store.rows = rows :=
  rfl

theorem World.oneDatabase_withRows (rows : List Row) (size : Int) (dice : Dice.Entropy) :
    (World.withRows rows size dice).store.OneDatabase := by
  refine Store.oneDatabase_of_fresh ?_ fun path id hid => Disk.lt_of_fileAt?_addFile ?_ _ _ hid
  · intro a ha
    have haddress : (Location.file "characters.db").address = .ok (.ofPath "characters.db") := rfl
    rw [haddress] at ha
    cases ha
    rfl
  · intro path id hid
    rw [Disk.fileAt?_empty] at hid
    cases hid

/-- A world with a file in which one character has a row. -/
def World.withRow (c : Character) (size : Int) (dice : Dice.Entropy) : World :=
  World.withRows [Row.ofCharacter c] size dice

@[simp] theorem World.rows_withRow (c : Character) (size : Int) (dice : Dice.Entropy) :
    (World.withRow c size dice).store.rows = [Row.ofCharacter c] :=
  World.rows_withRows [Row.ofCharacter c] size dice

theorem World.oneDatabase_withRow (c : Character) (size : Int) (dice : Dice.Entropy) :
    (World.withRow c size dice).store.OneDatabase :=
  World.oneDatabase_withRows [Row.ofCharacter c] size dice

namespace System

variable {w : World} {calls : List Call}

theorem stage_of_start {id : Nat} {t : Task} (ht : (start w calls).tasks[id]? = some t) :
    t.call ∈ calls ∧ t.stage = .ready := by
  obtain ⟨call, hcall, rfl⟩ := List.mem_map.1 (List.mem_of_getElem? ht)
  exact ⟨hcall, rfl⟩

/-- A task that has not begun is where any call can be. -/
theorem fits_start (id : Nat) (t : Task) (ht : (start w calls).tasks[id]? = some t) :
    Task.Fits t.call t.stage := by
  rw [(stage_of_start ht).2]
  exact trivial

theorem visits_start (w : World) (calls : List Call) : (start w calls).visits = fun _ => none := by
  refine visits_eq_none fun id t ht => ?_
  rw [(stage_of_start ht).2]
  rfl

theorem standing_start (w : World) (calls : List Call) :
    (start w calls).standing = fun _ => none := by
  refine standing_eq_none fun id t ht => ?_
  rw [(stage_of_start ht).2]
  rfl

/-- Tasks that have not begun are in order if the store is and nobody stands at a lock. -/
theorem sound_start_of_orderly (hstore : Orderly w.store fun _ => none) (hlocks : w.locks.Sound)
    (hidle : ∀ lock, w.locks.line lock = []) (hopen : ∀ call, call ∈ calls → call ≠ .closePool) :
    (start w calls).Sound := by
  refine ⟨fits_start, ?_, ?_, ?_⟩
  · intro id t ht
    exact hopen _ (stage_of_start ht).1
  · rw [visits_start]
    exact hstore
  · rw [standing_start]
    exact .of_idle hlocks hidle

/-- Tasks that have not begun are in order, in a world in which nothing is going on. -/
theorem sound_start (hrest : w.AtRest) (hopen : ∀ call, call ∈ calls → call ≠ .closePool) :
    (start w calls).Sound :=
  sound_start_of_orderly hrest.store.orderly hrest.sound hrest.idle hopen

theorem oneDatabase_start_of_place (hplace : Place w.store fun _ => none)
    (hreads : ∀ e, Call.borrow e ∈ calls → ¬ (Purpose.borrow e).IsTransaction) :
    (start w calls).OneDatabase := by
  refine ⟨?_, ?_⟩
  · rw [visits_start]
    exact hplace
  · intro id t ht e he
    exact hreads e (he ▸ (stage_of_start ht).1)

theorem oneDatabase_start (hone : w.store.OneDatabase)
    (hreads : ∀ e, Call.borrow e ∈ calls → ¬ (Purpose.borrow e).IsTransaction) :
    (start w calls).OneDatabase :=
  oneDatabase_start_of_place hone.place hreads

end System

end CharacterLedger.Ledger
