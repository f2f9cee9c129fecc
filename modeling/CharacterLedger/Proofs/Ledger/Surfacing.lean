import CharacterLedger.Proofs.Character.Records
import CharacterLedger.Proofs.Ledger.Runs
import CharacterLedger.Proofs.Storage.Faults

/-!
# What failures surface as

When the store fails, a call that loads, saves or counts records, and an operation of the ledger
with a name that is known and a whole number, end with an error of the storage: a wait has expired,
the database or the file system has reported a fault, or a row is no record.  Two faults pass by as
they are, a path that no file can have and a connection that has been closed while it was used.
Neither can happen to a pool on a file with a proper path that nobody closes.

All of this is about channels and users that are texts, which can be encoded.  An id that cannot be,
such as one with half of a surrogate pair, would be a third fault to pass by: it fails where it is
bound to the statement, and is left out here with all such ids.

* `Call.IsPlain` — the calls;
* `Error.IsOfStorage` — the errors of the storage, with their keys and causes;
* `visited_surfaces` — what the failure of a visit surfaces as;
* `Task.Moves.surfaces` — what the last step of a task surfaces;
* `System.Explained` — every fault that a task has met or ended with has befallen it on its way;
* `Run.failures_surface` — what a call has ended with after any run;
* `Run.not_all_failures_surface` — and there is a run after which a fault has passed by.
-/

namespace CharacterLedger

open CharacterLedger.Storage CharacterLedger.Table

/-! ### Errors of the storage -/

/-- An error that says how the storage has failed, with its key. -/
inductive Error.IsOfStorage : Error → String → Prop
  /-- A wait for a connection has expired, which has no further cause. -/
  | timeout : IsOfStorage (.storage .timeout) "storage_timeout"
  /-- The database or the file system has reported the cause. -/
  | failed {f : Fault} (reported : f.isOfStore = true) :
      IsOfStorage (.storage (.failed f)) "storage_error"
  /-- A row is no record, and the cause is what is wrong with it. -/
  | corrupt {issues : List Issue} (wrong : issues ≠ []) :
      IsOfStorage (.storage (.corrupt issues)) "storage_corrupt_record"

theorem Error.IsOfStorage.key? {e : Error} {key : String} (h : e.IsOfStorage key) :
    e.key? = some key := by
  cases h <;> rfl

/-- Fields that describe no record have something wrong with them. -/
theorem Character.ofFields_eq_error {fields : Fields} {found : List Issue}
    (h : ofFields fields = .error found) : found ≠ [] := by
  unfold ofFields at h
  split at h
  · cases h
  · next hne =>
    cases h
    exact hne

namespace Ledger

/-! ### Plain calls -/

/-- A use of a character that can only fail with the store. -/
inductive Use.IsPlain : Use → Prop
  | rating (a : Action) : IsPlain (.rating a)
  | view : IsPlain .view
  | adjust (a : Action) (delta : Int) : IsPlain (.adjust a (.int delta))

/-- A call that loads, saves or counts records, or an operation of the ledger with a name that is
known and a whole number. -/
inductive Call.IsPlain : Call → Prop
  | load (channel user : String) :
      IsPlain (.borrow (.ask (.character (.text channel) (.text user))))
  | save (c : Character) : IsPlain (.borrow (.save c))
  | count : IsPlain (.borrow (.ask .count))
  | rating {name : Value} {a : Action} (known : readAction name = .ok a) (channel user : String) :
      IsPlain (.rating (.text channel) (.text user) name)
  | adjust {o : Order} {name : Value} {a : Action} {channel user : String} {delta : Int}
      (asks : o.intent = .adjust (.text channel) (.text user) name (.int delta))
      (known : readAction name = .ok a) (writable : o.isWritable = true) : IsPlain (.execute o)
  | view {o : Order} {channel user : String} (asks : o.intent = .view (.text channel) (.text user))
      (writable : o.isWritable = true) : IsPlain (.execute o)

namespace Call.IsPlain

variable {call : Call}

/-- A plain call is never refused at once. -/
theorem refusal? (h : call.IsPlain) : call.refusal? = none := by
  cases h with
  | load | save | count => rfl
  | rating known => simp [Call.refusal?, known, keyRefusal?, Key.ofValues, KeyPart.ofValue]
  | adjust asks known writable =>
    simp [Call.refusal?, Order.plan_of_writable writable, asks, Intent.plan, known, keyRefusal?,
      Key.ofValues, KeyPart.ofValue]
  | view asks writable =>
    simp [Call.refusal?, Order.plan_of_writable writable, asks, Intent.plan, keyRefusal?,
      Key.ofValues, KeyPart.ofValue]

theorem purpose? (h : call.IsPlain) {p : Purpose} (hp : call.purpose? = some p) : p.IsPlain := by
  cases h with
  | load channel user =>
    cases hp
    exact .load channel user
  | save c =>
    cases hp
    exact .save c
  | count =>
    cases hp
    exact .count
  | rating | adjust | view => cases hp

/-- A plain call is about a character with a key of two texts. -/
theorem use? (h : call.IsPlain) {channel user : Value} {use : Use}
    (huse : call.use? = some (channel, user, use)) :
    (∃ c u : String, channel = .text c ∧ user = .text u) ∧ use.IsPlain := by
  cases h with
  | load | save | count => cases huse
  | rating known channel user =>
    simp only [Call.use?, known, Option.some.injEq, Prod.mk.injEq] at huse
    obtain ⟨rfl, rfl, rfl⟩ := huse
    exact ⟨⟨channel, user, rfl, rfl⟩, .rating _⟩
  | adjust asks known writable =>
    simp only [Call.use?, Order.plan_of_writable writable, asks, Intent.plan, known,
      Option.some.injEq, Prod.mk.injEq] at huse
    obtain ⟨rfl, rfl, rfl⟩ := huse
    exact ⟨⟨_, _, rfl, rfl⟩, .adjust _ _⟩
  | view asks writable =>
    simp only [Call.use?, Order.plan_of_writable writable, asks, Intent.plan, Option.some.injEq,
      Prod.mk.injEq] at huse
    obtain ⟨rfl, rfl, rfl⟩ := huse
    exact ⟨⟨_, _, rfl, rfl⟩, .view⟩

/-- A plain call never rolls dice on its own. -/
theorem not_rolls (h : call.IsPlain) {o : Order} (hcall : call = .execute o) {n : Value} :
    o.plan ≠ .rollDice n := by
  intro hrolls
  obtain ⟨m, hdice⟩ := Intent.plan_eq_rollDice (Order.plan_eq hrolls fun _ h => nomatch h)
  subst hcall
  cases h with
  | adjust asks | view asks =>
    rw [asks] at hdice
    cases hdice

end Call.IsPlain

/-! ### What the failure of a visit surfaces as -/

/-- The result of a visit surfaces as an error: it is one of the storage, or the fault that the
visit has ended with, unless the store has reported that. -/
inductive Surfaces {α : Type} (r : Except Failure α) : Error → Prop
  | storage {e : Error} {key : String} (isOfStorage : e.IsOfStorage key) : Surfaces r e
  | fault {f : Fault} (ended : r = .error (.fault f)) (passes : f.isOfStore = false) :
      Surfaces r (.fault f)

theorem storeError_surfaces {α : Type} (report : Option String) (failure : Failure) :
    Surfaces (.error failure : Except Failure α) (storeError report failure).2 := by
  cases failure with
  | timeout => exact .storage .timeout
  | fault f =>
    cases hf : f.isOfStore with
    | true =>
      simp only [storeError, hf, if_true]
      exact .storage (.failed hf)
    | false =>
      simp only [storeError, hf, Bool.false_eq_true, if_false]
      exact .fault rfl hf

theorem loaded_surfaces {channel user : String} {e : Error}
    {r : Errand.Result (.ask (.character (.text channel) (.text user)))}
    (h : (loaded (.text channel) (.text user) r).2 = .error e) : Surfaces r e := by
  cases r with
  | error failure =>
    cases h
    exact storeError_surfaces _ failure
  | ok row =>
    cases row with
    | none =>
      simp only [loaded, absentCharacter_text] at h
      cases h
    | some row =>
      obtain ⟨f, hfault, rfl⟩ | ⟨issues, -, hissues, rfl⟩ := Row.toCharacter_eq_error h
      · obtain ⟨a, bytes, rfl, -⟩ := Table.Row.fault?_eq_some hfault
        exact .storage (.failed rfl)
      · exact .storage (.corrupt (Character.ofFields_eq_error hissues))

theorem saved_surfaces {c : Character} {e : Error} {r : Errand.Result (.save c)}
    (h : (saved c r).2 = .error e) : Surfaces r e := by
  cases r with
  | error failure =>
    cases h
    exact storeError_surfaces _ failure
  | ok => cases h

theorem counted_surfaces {e : Error} {r : Errand.Result (.ask .count)}
    (h : (counted r).2 = .error e) : Surfaces r e := by
  cases r with
  | error failure =>
    cases h
    exact storeError_surfaces _ failure
  | ok => cases h

/-- **What the failure of a plain visit surfaces as.** -/
theorem visited_surfaces {p : Purpose} (hplain : p.IsPlain) {r : p.Result} {e : Error}
    (h : (Task.visited p r).2 = .error e) : Surfaces r e := by
  have hmap : ∀ {α : Type} {x : Except Error α} {f : α → Reply},
      x.map f = .error e → x = .error e := by
    intro α x f hx
    cases x with
    | error => exact congrArg Except.error (Except.error.inj hx)
    | ok => cases hx
  cases hplain with
  | load => exact loaded_surfaces (hmap h)
  | save => exact saved_surfaces (hmap h)
  | count => exact counted_surfaces (hmap h)

/-! ### What the last step of a task surfaces -/

/-- A plain visit meets only what can befall any visit. -/
theorem mishap_of_cause {p : Purpose} (hplain : p.IsPlain) {s : Store} {phase : Phase p.Answer}
    {f : Fault} (h : Visit.Cause p s phase f) : Visit.Mishap s phase f := by
  cases h with
  | mishap mishap => exact mishap
  | statement objects => exact .store (hplain.isOfStore objects)

namespace Task

variable {id : Nat} {call : Call} {s s' : Store} {l l' : KeyLocks} {st st' : Stage}

/-- The visits of a plain call are plain. -/
theorem isPlain_of_visit (hplain : call.IsPlain) (hfits : Fits call st) {p : Purpose}
    {phase : Phase p.Answer} (hvisit : st.visit? = some ⟨p, phase⟩) : p.IsPlain := by
  cases st with
  | visiting p' phase' =>
    cases hvisit
    exact hplain.purpose? hfits
  | loading lock channel user use phase' =>
    cases hvisit
    obtain ⟨⟨c, u, rfl, rfl⟩, -⟩ := hplain.use? hfits.1
    exact .load c u
  | saving lock channel user adjustment changed phase' =>
    cases hvisit
    exact .save changed
  | ready | closing | queued | queuedToHold | holding | done => cases hvisit

/-- The fault has befallen the visit of a task, or is on its way with it. -/
def Bears (s : Store) (st : Stage) (f : Fault) : Prop :=
  ∃ p, ∃ phase : Phase p.Answer, st.visit? = some ⟨p, phase⟩ ∧
    (phase.fault? = some f ∨ Visit.Mishap s phase f)

/-- A visit of a plain call that has ended with a fault or has met one bears it. -/
theorem bears_of_moves (hplain : call.IsPlain) (hfits : Fits call st) {p : Purpose}
    {phase : Phase p.Answer} {next : Progress p.Answer} (hvisit : st.visit? = some ⟨p, phase⟩)
    (hmove : Visit.Moves id p s phase s' next) {f : Fault} (hf : next.fault? = some f) :
    Bears s st f :=
  ⟨p, phase, hvisit,
    (hmove.fault hf).imp_right (mishap_of_cause (isPlain_of_visit hplain hfits hvisit))⟩

/-- A task that has met a fault has borne it before the step. -/
theorem Moves.bears (h : Moves id call s l st s' l' st') (hplain : call.IsPlain)
    (hfits : Fits call st) {f : Fault} (hf : Visiting.fault? st'.visit? = some f) :
    Bears s st f := by
  cases h.visits with
  | none _ _ after =>
    rw [Visiting.fault?, Visiting.yields_of_isIdle (fun _ => rfl) after] at hf
    cases hf
  | @moves p phase next before move after =>
    refine bears_of_moves hplain hfits before move ?_
    cases next with
    | going phase' =>
      rw [after] at hf
      exact hf
    | ended r =>
      rw [Visiting.fault?, Visiting.yields_of_isIdle (fun _ => rfl) after] at hf
      cases hf
  | closes _ _ after =>
    rw [after] at hf
    cases hf

/-- **What a step surfaces that ends a plain call with an error**: an error of the storage, or a
fault that the store has not reported and that the visit of the task has borne. -/
theorem Moves.surfaces (h : Moves id call s l st s' l' st') (hplain : call.IsPlain)
    (hfits : Fits call st) {e : Error} (hdone : st' = .done (.error e)) :
    (∃ key, e.IsOfStorage key) ∨ ∃ f, e = .fault f ∧ f.isOfStore = false ∧ Bears s st f := by
  have hends : ∀ {p : Purpose} {phase : Phase p.Answer} {r : p.Result},
      st.visit? = some ⟨p, phase⟩ → Visit.Moves id p s phase s' (.ended r) → Surfaces r e →
      (∃ key, e.IsOfStorage key) ∨ ∃ f, e = .fault f ∧ f.isOfStore = false ∧ Bears s st f := by
    intro p phase r hvisit hmove hsurfaces
    cases hsurfaces with
    | storage isOfStorage => exact .inl ⟨_, isOfStorage⟩
    | fault ended passes =>
      refine .inr ⟨_, rfl, passes, bears_of_moves hplain hfits hvisit hmove ?_⟩
      rw [ended]
      rfl
  cases h with
  | refuse refused =>
    rw [hplain.refusal?] at refused
    cases refused
  | rollAtOnce executes rolls => exact (hplain.not_rolls executes rolls).elim
  | visited move =>
    exact hends rfl move (visited_surfaces (hplain.purpose? hfits) (Stage.done.inj hdone))
  | loadFails move fails =>
    cases hdone
    obtain ⟨⟨c, u, rfl, rfl⟩, -⟩ := hplain.use? hfits.1
    exact hends rfl move (loaded_surfaces fails)
  | used move reads gives =>
    cases hdone
    cases (hplain.use? hfits.1).2 with
    | rating | view => cases gives
    | adjust => exact gives.elim
  | @cannotAdjust _ _ _ a _ _ _ _ c _ move reads fails =>
    cases (hplain.use? hfits.1).2 with
    | adjust a delta =>
      obtain ⟨adjustment, changed, hadjusted, -⟩ := exists_adjust c a delta
      rw [hadjusted] at fails
      cases fails
  | saveFails move fails =>
    cases hdone
    exact hends rfl move (saved_surfaces fails)
  | closeNothing | closeAtOnce | closed | saved | letGo => cases hdone
  | goVisiting | goClosing | reach | reachToHold | acquire | acquireToHold | closeNext | visit
  | load | adjusts | save => cases hdone

/-! ### Going on -/

/-- A task waits for others: for the lock of its character, or to open the pool. -/
def Waits (id : Nat) (w : World) (st : Stage) : Prop :=
  (∃ lock, st.lock? = some (lock, false) ∧ w.locks.isHeldBy lock id = false) ∨
    ∃ p, st.visit? = some ⟨p, .awaitingOpening⟩ ∧ w.store.pool.opening.head? ≠ some id

/-- **A plain call goes on until it has ended**, unless it waits for others. -/
theorem exists_step {t : Task} (hplain : t.call.IsPlain) (hfits : Fits t.call t.stage)
    (htransacts : Visiting.Transacts t.stage.visit?) (w : World) :
    (∃ r, t.stage = .done r) ∨ Waits id w t.stage ∨
      ∃ choice, (t.step id choice w).isSome = true := by
  have hvisits : ∀ {p : Purpose} {phase : Phase p.Answer}, t.stage.visit? = some ⟨p, phase⟩ →
      (∀ choice, (t.step id choice w).isSome =
        (Visit.step id p choice phase w.store).isSome) →
      Waits id w t.stage ∨ ∃ choice, (t.step id choice w).isSome = true := by
    intro p phase hvisit hstep
    obtain ⟨choice, r, hr⟩ | ⟨rfl, hothers⟩ := Visit.exists_step id w.store
      (isPlain_of_visit hplain hfits hvisit) (htransacts p phase hvisit)
    · exact .inr ⟨choice, by rw [hstep, hr]; rfl⟩
    · exact .inl (.inr ⟨p, hvisit, hothers⟩)
  cases hs : t.stage with
  | ready => exact .inr (.inr ⟨.go, by simp [step, advance, hs]⟩)
  | visiting | loading | saving =>
    rw [← hs]
    exact .inr (hvisits (by rw [hs]; rfl) fun choice => by simp only [step, hs, visit,
      Option.isSome_map])
  | closing c =>
    rw [hs] at hfits
    rw [hfits] at hplain
    cases hplain
  | queued lock channel user use =>
    cases hfirst : w.locks.isHeldBy lock id with
    | true => exact .inr (.inr ⟨.go, by simp [step, advance, hs, hfirst]⟩)
    | false => exact .inr (.inl (.inl ⟨lock, rfl, hfirst⟩))
  | queuedToHold lock | holding lock =>
    rw [hs] at hfits
    obtain ⟨huse, key, hkey⟩ := hfits
    obtain ⟨_, _, hholds⟩ := Call.exists_holdLock huse hkey
    rw [hholds] at hplain
    cases hplain
  | done r => exact .inl ⟨r, rfl⟩

end Task

namespace System

variable {s₀ s s' : System} {es : List Event} {id other : Nat} {choice : Choice} {f : Fault}

/-- A task waits for others. -/
def Waits (s : System) (id : Nat) : Prop :=
  ∃ t, s.tasks[id]? = some t ∧ Task.Waits id s.world t.stage

/-- On the way from `s₀` to `s` the fault has befallen the visit of the task `id`. -/
def Befell (s₀ : System) (es : List Event) (s : System) (id : Nat) (f : Fault) : Prop :=
  ∃ s₁ s₂ p, ∃ phase : Phase p.Answer, Passes s₀ es s id s₁ s₂ ∧
    s₁.visits id = some ⟨p, phase⟩ ∧ Visit.Mishap s₁.world.store phase f

theorem Befell.step (h : Befell s₀ es s id f) (hstep : s.step other choice = some s') :
    Befell s₀ (es ++ s.events s' other) s' id f := by
  obtain ⟨s₁, s₂, p, phase, hpasses, hvisit, hmishap⟩ := h
  exact ⟨s₁, s₂, p, phase, hpasses.step hstep, hvisit, hmishap⟩

theorem Befell.forget (h : Befell s₀ es s id f) : Befell s₀ es s.forgetLocks id f := by
  obtain ⟨s₁, s₂, p, phase, hpasses, hvisit, hmishap⟩ := h
  exact ⟨s₁, s₂, p, phase, hpasses.forget, hvisit, hmishap⟩

/-- The task `id` has met or ended with nothing but what has befallen it on its way from `s₀`. -/
structure Explained (s₀ : System) (es : List Event) (s : System) (id : Nat) : Prop where
  transacts : Visiting.Transacts (s.visits id)
  met : ∀ f, Visiting.fault? (s.visits id) = some f → Befell s₀ es s id f
  ended : ∀ e, s.result? id = some (.error e) → (∃ key, e.IsOfStorage key) ∨
    ∃ f, e = .fault f ∧ f.isOfStore = false ∧ Befell s₀ es s id f

/-- What has befallen the task explains it as long as the task stays where it is. -/
theorem Explained.stay {es' : List Event} (h : Explained s₀ es s id)
    (hvisit : s'.visits id = s.visits id) (hresult : s'.result? id = s.result? id)
    (hlater : ∀ f, Befell s₀ es s id f → Befell s₀ es' s' id f) : Explained s₀ es' s' id := by
  refine ⟨hvisit ▸ h.transacts, fun f hf => hlater f (h.met f (hvisit ▸ hf)), ?_⟩
  intro e hdone
  refine (h.ended e (hresult ▸ hdone)).imp_right ?_
  rintro ⟨f, hf, hunreported, hbefell⟩
  exact ⟨f, hf, hunreported, hlater f hbefell⟩

/-- A step of the task itself. -/
theorem Explained.step_self (h : Explained s₀ es s id) (hrun : Run s₀ es s) {t : Task}
    (ht : s.tasks[id]? = some t) (hplain : t.call.IsPlain) (hfits : Task.Fits t.call t.stage)
    (hstep : s.step id choice = some s') : Explained s₀ (es ++ s.events s' id) s' id := by
  obtain ⟨u, t', hu, hset, -, hmove⟩ := moves_of_step hstep
  rw [ht, Option.some.injEq] at hu
  subst hu
  obtain ⟨hbefore, hafter, -⟩ := visits_of_step ht hset
  have hbears : ∀ f, Task.Bears s.world.store t.stage f →
      Befell s₀ (es ++ s.events s' id) s' id f := by
    rintro f ⟨p, phase, hvisit, hmet | hmishap⟩
    · refine Befell.step (h.met f ?_) hstep
      rw [hbefore, hvisit]
      exact hmet
    · exact ⟨s, s', p, phase, .last hrun hstep, hbefore.trans hvisit, hmishap⟩
  refine ⟨?_, ?_, ?_⟩
  · cases turn_of_move ht hset hmove with
    | none _ began => exact Visiting.transacts_of_isIdle began.after
    | moves _ move moved => exact h.transacts.moves move moved
    | closes _ visits =>
      rw [visits]
      exact h.transacts
  · intro f hf
    rw [hafter] at hf
    exact hbears f (hmove.bears hplain hfits hf)
  · intro e hdone
    obtain ⟨u, hu, hstage⟩ := result?_eq_some_iff.1 hdone
    rw [(tasks_of_set ht hset).1, Option.some.injEq] at hu
    subst hu
    refine (hmove.surfaces hplain hfits hstage).imp_right ?_
    rintro ⟨f, hf, hunreported, hb⟩
    exact ⟨f, hf, hunreported, hbears f hb⟩

/-- **A step of any task brings up nothing else.** -/
theorem Explained.step (h : Explained s₀ es s id) (hrun : Run s₀ es s) {t : Task}
    (ht : s.tasks[id]? = some t) (hplain : t.call.IsPlain) (hfits : Task.Fits t.call t.stage)
    (hstep : s.step other choice = some s') : Explained s₀ (es ++ s.events s' other) s' id := by
  by_cases hid : id = other
  · subst hid
    exact h.step_self hrun ht hplain hfits hstep
  · obtain ⟨u, u', hu, hset, -, -⟩ := moves_of_step hstep
    exact h.stay ((visits_of_step hu hset).2.2 id hid) (result?_of_other hstep hid) fun f hf =>
      hf.step hstep

theorem explained_start (w : World) (calls : List Call) (id : Nat) :
    Explained (start w calls) [] (start w calls) id := by
  have hvisits := congrFun (visits_start w calls) id
  refine ⟨Visiting.transacts_of_isIdle (.inl hvisits), ?_, ?_⟩
  · intro f hf
    rw [hvisits] at hf
    cases hf
  · intro e hdone
    obtain ⟨t, ht, hstage⟩ := result?_eq_some_iff.1 hdone
    rw [(stage_of_start ht).2] at hstage
    cases hstage

theorem location_of_step (hstep : s.step id choice = some s') :
    s'.world.store.pool.location = s.world.store.pool.location := by
  obtain ⟨t, t', ht, hset, -, hmove⟩ := moves_of_step hstep
  cases turn_of_move ht hset hmove with
  | none store => rw [store]
  | moves _ move => exact move.tracking.1
  | closes _ _ closes => exact closes.location

/-- In a pool on a file that nobody closes, every connection that is used stays open. -/
theorem usesOpen_of_step (h : UsesOpen s.world.store s.visits) (hsound : s.Sound)
    (hfile : s.world.store.pool.location ≠ .memory) (hstep : s.step id choice = some s') :
    UsesOpen s'.world.store s'.visits := by
  obtain ⟨t, t', ht, hset, -, hmove⟩ := moves_of_step hstep
  cases visits_of_move hsound ht hset hmove with
  | none store began =>
    rw [store]
    exact h.began began
  | moves _ move moved =>
    exact h.moves hsound.store.slots hsound.store.openings hfile move moved

end System

namespace Run

variable {s₀ s : System} {es : List Event}

theorem location (h : Run s₀ es s) :
    s.world.store.pool.location = s₀.world.store.pool.location := by
  induction h with
  | start => rfl
  | step _ step ih => exact (System.location_of_step step).trans ih
  | forget _ ih => exact ih

theorem usesOpen (h : Run s₀ es s) (hsound : s₀.Sound)
    (hfile : s₀.world.store.pool.location ≠ .memory)
    (hstart : UsesOpen s₀.world.store s₀.visits) : UsesOpen s.world.store s.visits := by
  induction h with
  | start => exact hstart
  | step run step ih =>
    exact System.usesOpen_of_step ih (run.sound hsound) (run.location ▸ hfile) step
  | forget _ ih => exact ih

end Run

/-- What has befallen a visit though the store has not reported it: the path of the pool has a zero
character, or the connection that the visit was using had been closed. -/
theorem System.Befell.unreported {s₀ s : System} {es : List Event} {id : Nat} {f : Fault}
    (h : Befell s₀ es s id f) (hunreported : f.isOfStore = false) :
    (f = .zeroCharacter ∧ ∃ path, s₀.world.store.pool.location = .file path ∧
      Location.hasZero path = true) ∨
    (f = .inactive ∧ ∃ s₁ s₂ c, Passes s₀ es s id s₁ s₂ ∧
      Visiting.inUse? (s₁.visits id) = some c ∧ s₁.world.store.isOpen c = false) := by
  obtain ⟨s₁, s₂, p, phase, hpasses, hvisit, hmishap⟩ := h
  cases hmishap with
  | store reported =>
    rw [hunreported] at reported
    cases reported
  | path named zero =>
    obtain ⟨es₁, choice, es₂, hrun, -⟩ := hpasses
    exact .inl ⟨rfl, _, hrun.location.symm.trans named, zero⟩
  | closed used isClosed =>
    refine .inr ⟨rfl, s₁, s₂, _, hpasses, ?_, isClosed⟩
    rw [hvisit]
    exact used

namespace Run

variable {s₀ s : System} {es : List Event}

section Calls

variable {w : World} {calls : List Call} {id : Nat} {call : Call}

/-- The task of a call carries it out all along. -/
theorem exists_task (h : Run (System.start w calls) es s) (hcall : calls[id]? = some call) :
    ∃ t, s.tasks[id]? = some t ∧ t.call = call ∧ Task.Fits t.call t.stage := by
  have hsame : s.calls[id]? = some call := by rw [h.calls, System.calls_start, hcall]
  obtain ⟨t, ht, hcall'⟩ := System.getElem?_calls_eq_some_iff.1 hsame
  exact ⟨t, ht, hcall', h.fits System.fits_start id t ht⟩

theorem explained (h : Run (System.start w calls) es s) (hcall : calls[id]? = some call)
    (hplain : call.IsPlain) : System.Explained (System.start w calls) es s id := by
  induction h with
  | start => exact System.explained_start w calls id
  | step run step ih =>
    obtain ⟨t, ht, rfl, hfits⟩ := run.exists_task hcall
    exact ih.step run ht hplain hfits step
  | forget _ ih => exact ih.stay rfl rfl fun f hf => hf.forget

/-- A plain call goes on until it has ended, unless it waits for others. -/
theorem goes_on (h : Run (System.start w calls) es s) (hcall : calls[id]? = some call)
    (hplain : call.IsPlain) (hgoing : s.result? id = none) :
    s.Waits id ∨ ∃ choice, (s.step id choice).isSome = true := by
  obtain ⟨t, ht, rfl, hfits⟩ := h.exists_task hcall
  have hvisit : s.visits id = t.stage.visit? := by rw [System.visits, ht]; rfl
  obtain ⟨r, hdone⟩ | hwaits | ⟨choice, hstep⟩ :=
    Task.exists_step hplain hfits (hvisit ▸ (h.explained hcall hplain).transacts) s.world
  · rw [System.result?_eq_some_iff.2 ⟨t, ht, hdone⟩] at hgoing
    cases hgoing
  · exact .inl ⟨t, ht, hwaits⟩
  · exact .inr ⟨choice, by simpa [System.step, ht] using hstep⟩

/-- On the way of a run over a file that nobody closes, no connection that is used is closed. -/
theorem isOpen_of_inUse? {s₁ s₂ : System} (hrest : w.AtRest)
    (hopen : ∀ call, call ∈ calls → call ≠ .closePool) (hfile : w.store.pool.location ≠ .memory)
    (hpasses : Passes (System.start w calls) es s id s₁ s₂) {c : Nat}
    (hused : Visiting.inUse? (s₁.visits id) = some c) : s₁.world.store.isOpen c = true := by
  obtain ⟨es₁, choice, es₂, hrun, -⟩ := hpasses
  have hstart : UsesOpen w.store (System.start w calls).visits := by
    intro other d hd
    rw [System.visits_start] at hd
    cases hd
  exact hrun.usesOpen (System.sound_start hrest hopen) hfile hstart id c hused

/-- **Failures of the store surface as errors of the storage, but for two faults**, as long as ids can
be encoded.  A call that loads, saves or counts records, and an operation of the ledger with a name
that is known and a whole number, goes on until it has ended, unless it waits for others.  If it has
ended with an error, that is one of the storage, with its key and its cause; or the path of the pool
has a zero character; or the connection that the call was using had been closed.  For a pool on a
file with a proper path that nobody closes, it is an error of the storage. -/
theorem failures_surface (hrun : Run (System.start w calls) es s)
    (hcall : calls[id]? = some call) (hplain : call.IsPlain) :
    (s.result? id = none → s.Waits id ∨ ∃ choice, (s.step id choice).isSome = true) ∧
    (∀ e, s.result? id = some (.error e) → (∃ key, e.IsOfStorage key) ∨
      (e = .fault .zeroCharacter ∧ ∃ path, w.store.pool.location = .file path ∧
        Location.hasZero path = true) ∨
      (e = .fault .inactive ∧ ∃ s₁ s₂ c, Passes (System.start w calls) es s id s₁ s₂ ∧
        Visiting.inUse? (s₁.visits id) = some c ∧ s₁.world.store.isOpen c = false)) ∧
    (∀ path, w.store.pool.location = .file path → Location.hasZero path = false → w.AtRest →
      (∀ other, other ∈ calls → other ≠ .closePool) →
      ∀ e, s.result? id = some (.error e) → ∃ key, e.IsOfStorage key) := by
  have hends : ∀ e, s.result? id = some (.error e) → (∃ key, e.IsOfStorage key) ∨
      ∃ f, e = .fault f ∧ f.isOfStore = false ∧
        System.Befell (System.start w calls) es s id f := (hrun.explained hcall hplain).ended
  refine ⟨hrun.goes_on hcall hplain, ?_, ?_⟩
  · intro e hdone
    refine (hends e hdone).imp_right ?_
    rintro ⟨f, rfl, hunreported, hbefell⟩
    obtain ⟨rfl, hpath⟩ | ⟨rfl, hclosed⟩ := hbefell.unreported hunreported
    · exact .inl ⟨rfl, hpath⟩
    · exact .inr ⟨rfl, hclosed⟩
  · intro path hfile hproper hrest hopen e hdone
    obtain hstorage | ⟨f, rfl, hunreported, hbefell⟩ := hends e hdone
    · exact hstorage
    · obtain ⟨-, path', hnamed, hzero⟩ | ⟨-, s₁, s₂, c, hpasses, hused, hclosed⟩ :=
        hbefell.unreported hunreported
      · rw [show (System.start w calls).world.store.pool.location = .file path from hfile] at hnamed
        cases hnamed
        rw [hproper] at hzero
        cases hzero
      · rw [isOpen_of_inUse? hrest hopen (by simp [hfile]) hpasses hused] at hclosed
        cases hclosed

end Calls

/-- The connection to a database in memory is broken off, and the records are counted. -/
def brokenCount : Option (List Event × System) :=
  (System.start World.inMemory [.borrow .breakConnection, .borrow (.ask .count)]).follow
    (List.replicate 6 (0, .go) ++ List.replicate 4 (1, .go))

/-- The table in a file is dropped, and the records are counted. -/
def tablelessCount : Option (List Event × System) :=
  (System.start (World.withRow (.blank "c" "u") 1 (.script 0 []))
    [.borrow (.change .dropTable), .borrow (.ask .count)]).follow
      (List.replicate 8 (0, .go) ++ List.replicate 5 (1, .go))

/-- The fault that a call has ended with. -/
def fault? : Except Error Reply → Option Fault
  | .error (.fault f) => some f
  | _ => none

theorem eq_of_fault? {r : Except Error Reply} {f : Fault} (h : fault? r = some f) :
    r = .error (.fault f) := by
  unfold fault? at h
  split at h
  · rw [Option.some.inj h]
  · cases h

/-- The key of the error that a call has ended with. -/
def key? : Except Error Reply → Option String
  | .error e => e.key?
  | .ok _ => none

/-- The task `1` has ended with the fault of a closed connection. -/
theorem exists_brokenCount : ∃ es s, brokenCount = some (es, s) ∧
    s.result? 1 = some (.error (.fault .inactive)) := by
  have hview : brokenCount.map (fun r => (r.2.result? 1).map fault?) =
      some (some (some .inactive)) := by decide +kernel
  obtain ⟨⟨es, s⟩, hfollow, hview⟩ := Option.map_eq_some_iff.1 hview
  obtain ⟨result, hresult, hview⟩ := Option.map_eq_some_iff.1 hview
  exact ⟨es, s, hfollow, hresult.trans (congrArg some (eq_of_fault? hview))⟩

/-- Counting over a broken connection ends with the fault, and the connection was closed when it was
used.  Counting without a table ends with an error of the storage. -/
theorem failures_surface_of_broken :
    (∃ es s s₁ s₂ c, brokenCount = some (es, s) ∧
      s.result? 1 = some (.error (.fault .inactive)) ∧
      Passes (System.start World.inMemory [.borrow .breakConnection, .borrow (.ask .count)]) es s 1
        s₁ s₂ ∧ Visiting.inUse? (s₁.visits 1) = some c ∧ s₁.world.store.isOpen c = false) ∧
    ∃ es s e, tablelessCount = some (es, s) ∧ s.result? 1 = some (.error e) ∧
      e.IsOfStorage "storage_error" := by
  refine ⟨?_, ?_⟩
  · obtain ⟨es, s, hfollow, hdone⟩ := exists_brokenCount
    have hcall : ([.borrow .breakConnection, .borrow (.ask .count)] : List Call)[1]? =
      some (.borrow (.ask .count)) := rfl
    obtain ⟨-, hfaults, -⟩ := failures_surface (Run.start.of_follow hfollow) hcall .count
    obtain ⟨key, hkey⟩ | ⟨hzero, -⟩ | ⟨-, s₁, s₂, c, hpasses, hused, hclosed⟩ := hfaults _ hdone
    · cases hkey
    · cases hzero
    · exact ⟨es, s, s₁, s₂, c, hfollow, hdone, hpasses, hused, hclosed⟩
  · have hview : tablelessCount.map (fun r => (r.2.result? 1).map key?) =
        some (some (some "storage_error")) := by decide +kernel
    obtain ⟨⟨es, s⟩, hfollow, hview⟩ := Option.map_eq_some_iff.1 hview
    obtain ⟨result, hresult, hview⟩ := Option.map_eq_some_iff.1 hview
    cases result with
    | ok => cases hview
    | error e =>
      have hcall : ([.borrow (.change .dropTable), .borrow (.ask .count)] : List Call)[1]? =
        some (.borrow (.ask .count)) := rfl
      obtain ⟨-, -, hproper⟩ := failures_surface (Run.start.of_follow hfollow) hcall .count
      obtain ⟨key, hkey⟩ := hproper "characters.db" rfl (by decide) (World.atRest_world ..)
        (by simp) e hresult
      have hname : e.key? = some "storage_error" := hview
      rw [hkey.key?, Option.some.injEq] at hname
      exact ⟨es, s, e, hfollow, hresult, hname ▸ hkey⟩

/-- **Not every failure surfaces as an error of the storage**, though nobody closes the pool. -/
theorem not_all_failures_surface :
    ¬ ∀ (w : World) (calls : List Call) (es : List Event) (s : System) (id : Nat) (call : Call)
      (e : Error), Run (System.start w calls) es s → calls[id]? = some call → call.IsPlain →
      s.result? id = some (.error e) → ∃ key, e.IsOfStorage key := by
  intro hall
  obtain ⟨es, s, hfollow, hdone⟩ := exists_brokenCount
  obtain ⟨key, hkey⟩ :=
    hall World.inMemory _ _ s 1 _ _ (Run.start.of_follow hfollow) rfl .count hdone
  cases hkey

end Run

end Ledger

end CharacterLedger
