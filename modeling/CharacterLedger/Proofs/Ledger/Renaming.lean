import Mathlib.Data.Option.Basic
import CharacterLedger.Proofs.Character.Names
import CharacterLedger.Proofs.Ledger.Runs

/-!
# Calls that spell a name in other ways

The name in a call is read once, when the call begins, and from then on the task knows the action
only.  So calls whose names are read as the same make the same steps, come to the same results and
leave the same store.  What they are logged with is what was given, and may differ.

* `Call.Alike` — calls that come to the same whatever names they give;
* `Task.step_alike`, `System.step_alike` — the steps of one are those of the other;
* `Run.alike` — so are the runs, with their histories, results and stores;
* `Call.Respelled` — the calls with a text that writes a name, and with the name itself;
* `reads_names` — what is read as a name, and that nothing else about it matters.
-/

namespace CharacterLedger.Ledger

open CharacterLedger.Storage CharacterLedger.Dice

/-! ### What is alike -/

/-- Worlds that differ in their logs only. -/
structure World.Alike (w w' : World) : Prop where
  store : w'.store = w.store
  locks : w'.locks = w.locks
  entropy : w'.entropy = w.entropy
  traced : w'.traced = w.traced

/-- Orders that come to the same in the same manner whatever names they give. -/
inductive Order.Alike : Order → Order → Prop
  | command {i i' : Intent} (plan : i'.plan = i.plan)
      (writable : (Order.command i').isWritable = (Order.command i).isWritable) :
      Alike (.command i) (.command i')
  | method {i i' : Intent} (plan : i'.plan = i.plan) : Alike (.method i) (.method i')

/-- Calls that come to the same whatever names they give. -/
inductive Call.Alike : Call → Call → Prop
  | same (call : Call) : Alike call call
  | execute {o o' : Order} (orders : o.Alike o') : Alike (.execute o) (.execute o')
  | rating {channel user name name' : Value} (read : readAction name' = readAction name) :
      Alike (.rating channel user name) (.rating channel user name')

/-- Tasks at the same stage, for calls that come to the same. -/
structure Task.Alike (t t' : Task) : Prop where
  call : t.call.Alike t'.call
  traces : t'.traces = t.traces
  stage : t'.stage = t.stage

namespace World.Alike

variable {w w' : World}

theorem refl (w : World) : w.Alike w := ⟨rfl, rfl, rfl, rfl⟩

theorem record (h : w.Alike w') (trace trace' : Option Nat) (notes notes' : List Log.Note) :
    (w.record trace notes).Alike (w'.record trace' notes') :=
  ⟨h.store, h.locks, h.entropy, h.traced⟩

theorem withStore (h : w.Alike w') (store : Store) :
    (w.withStore store).Alike (w'.withStore store) :=
  ⟨rfl, h.locks, h.entropy, h.traced⟩

theorem withLocks (h : w.Alike w') (locks : KeyLocks) :
    (w.withLocks locks).Alike (w'.withLocks locks) :=
  ⟨h.store, rfl, h.entropy, h.traced⟩

theorem release (h : w.Alike w') (lock : Nat) :
    (Task.release w lock).Alike (Task.release w' lock) := by
  rw [Task.release, Task.release, h.locks]
  exact h.withLocks _

end World.Alike

namespace Order.Alike

variable {o o' : Order}

theorem symm (h : o.Alike o') : o'.Alike o := by
  cases h with
  | command plan writable => exact .command plan.symm writable.symm
  | method plan => exact .method plan.symm

theorem plan (h : o.Alike o') : o'.plan = o.plan := by
  cases h with
  | command plan writable =>
    rw [Order.plan, Order.plan, writable]
    simp only [intent, plan]
  | method plan => exact plan

theorem context? (h : o.Alike o') : o'.context?.isSome = o.context?.isSome := by
  cases h with
  | command plan writable => exact writable
  | method plan => rfl

end Order.Alike

namespace Call.Alike

variable {call call' : Call}

theorem symm (h : call.Alike call') : call'.Alike call := by
  cases h with
  | same => exact .same _
  | execute orders => exact .execute orders.symm
  | rating read => exact .rating read.symm

/-- Calls that are alike are both logged or not. -/
theorem context? (h : call.Alike call') : call'.context?.isSome = call.context?.isSome := by
  cases h with
  | same | rating => rfl
  | execute orders => exact orders.context?

end Call.Alike

namespace Task

variable {w w' : World} {t t' : Task}

theorem Alike.moveTo (h : t.Alike t') (stage : Stage) : (t.moveTo stage).Alike (t'.moveTo stage) :=
  ⟨h.call, h.traces, rfl⟩

/-! ### What a task goes on with -/

/-- A world and a task that are alike another world and task. -/
def BothAlike (r r' : World × Task) : Prop := r.1.Alike r'.1 ∧ r.2.Alike r'.2

theorem finish_alike (hw : w.Alike w') (ht : t.Alike t') (r : Except Error Reply) :
    BothAlike (finish w t r) (finish w' t' r) := by
  have hlogged := ht.call.context?
  unfold finish
  generalize t.call.context? = context at hlogged ⊢
  generalize t'.call.context? = context' at hlogged ⊢
  cases context with
  | none =>
    cases context' with
    | none => exact ⟨hw, ht.moveTo _⟩
    | some => cases hlogged
  | some =>
    cases context' with
    | none => cases hlogged
    | some => exact ⟨hw.record _ _ _ _, ht.call, congrArg List.tail ht.traces, rfl⟩

theorem finishRolling_alike (hw : w.Alike w') (ht : t.Alike t') (pool : Value) :
    BothAlike (finishRolling w t pool) (finishRolling w' t' pool) := by
  rw [finishRolling, finishRolling, hw.entropy]
  obtain ⟨result, entropy⟩ := roll pool w.entropy
  have hrolled : World.Alike { w with entropy := entropy } { w' with entropy := entropy } :=
    ⟨hw.store, hw.locks, rfl, hw.traced⟩
  cases result with
  | ok o => exact finish_alike hrolled ht _
  | error e => exact finish_alike hrolled ht _

theorem rollWithBonus_alike (hw : w.Alike w') (ht : t.Alike t') (rating : Rating) (bonus : Value) :
    BothAlike (rollWithBonus w t rating bonus) (rollWithBonus w' t' rating bonus) := by
  unfold rollWithBonus
  cases Value.plus rating.toInt bonus with
  | error m => exact finish_alike hw ht _
  | ok pool => exact finishRolling_alike hw ht pool

theorem useRecord_alike (hw : w.Alike w') (ht : t.Alike t') (lock : Nat) (channel user : Value)
    (c : Character) (use : Use) :
    BothAlike (useRecord w t lock channel user c use) (useRecord w' t' lock channel user c use) := by
  have hreleased := hw.release lock
  cases use with
  | rating a => exact finish_alike hreleased ht _
  | roll a bonus => exact rollWithBonus_alike hreleased ht _ bonus
  | resist which => exact finishRolling_alike hreleased ht _
  | view => exact finish_alike hreleased ht _
  | adjust a delta =>
    simp only [useRecord]
    cases adjust c a delta with
    | error e => exact finish_alike hreleased ht _
    | ok adjusted => exact ⟨hw, ht.moveTo _⟩

theorem afterLoading_alike (hw : w.Alike w') (ht : t.Alike t') (lock : Nat) (channel user : Value)
    (use : Use) (r : Errand.Result (.ask (.character channel user))) :
    BothAlike (afterLoading w t lock channel user use r)
      (afterLoading w' t' lock channel user use r) := by
  unfold afterLoading
  obtain ⟨notes, result⟩ := loaded channel user r
  have hnoted := hw.record t.trace t'.trace notes notes
  cases result with
  | error e => exact finish_alike (hnoted.release lock) ht _
  | ok c => exact useRecord_alike hnoted ht lock channel user c use

theorem afterSaving_alike (hw : w.Alike w') (ht : t.Alike t') (lock : Nat) (channel user : Value)
    (a : Adjustment) (changed : Character) (r : Errand.Result (.save changed)) :
    BothAlike (afterSaving w t lock channel user a changed r)
      (afterSaving w' t' lock channel user a changed r) := by
  unfold afterSaving
  obtain ⟨notes, result⟩ := saved changed r
  have hnoted := (hw.record t.trace t'.trace notes notes).release lock
  cases result with
  | error e => exact finish_alike hnoted ht _
  | ok => exact finish_alike (hnoted.record _ _ _ _) ht _

theorem afterVisit_alike (hw : w.Alike w') (ht : t.Alike t') (p : Purpose) (r : p.Result) :
    BothAlike (afterVisit w t p r) (afterVisit w' t' p r) := by
  unfold afterVisit
  obtain ⟨notes, result⟩ := visited p r
  exact finish_alike (hw.record _ _ _ _) ht result

/-! ### Steps -/

theorem reachLock_alike (id : Nat) (hw : w.Alike w') (ht : t.Alike t') (channel user : Value)
    (stage : Nat → Stage) :
    BothAlike (reachLock id w t channel user stage) (reachLock id w' t' channel user stage) := by
  unfold reachLock
  cases Key.ofValues channel user with
  | error m => exact finish_alike hw ht _
  | ok key =>
    simp only
    rw [hw.locks]
    exact ⟨hw.withLocks _, ht.moveTo _⟩

theorem goOnClosing_alike (hw : w.Alike w') (ht : t.Alike t') (closing : ClosingStep) :
    BothAlike (goOnClosing w t closing) (goOnClosing w' t' closing) := by
  have hnoted := (hw.withStore closing.store).record t.trace t'.trace closing.notes closing.notes
  unfold goOnClosing
  cases closing.next with
  | none => exact finish_alike hnoted ht _
  | some c => exact ⟨hnoted, ht.moveTo _⟩

/-- The name in a call is read here, and nowhere else. -/
theorem begin_alike (id : Nat) (hw : w.Alike w') (ht : t.Alike t') :
    BothAlike (begin id w t) (begin id w' t') := by
  have hcall := ht.call
  unfold begin
  generalize hc : t.call = call at hcall ⊢
  generalize hc' : t'.call = call' at hcall ⊢
  cases hcall with
  | same =>
    cases call with
    | execute o =>
      cases hplan : o.plan with
      | refuse e =>
        simp only [hplan]
        exact finish_alike hw ht _
      | rollDice n =>
        simp only [hplan]
        exact finishRolling_alike hw ht n
      | withCharacter channel user use =>
        simp only [hplan]
        exact reachLock_alike id hw ht channel user _
    | rating channel user name =>
      cases hread : readAction name with
      | error e =>
        simp only [hread]
        exact finish_alike hw ht _
      | ok a =>
        simp only [hread]
        exact reachLock_alike id hw ht channel user _
    | borrow e => exact ⟨hw, ht.moveTo _⟩
    | openPool => exact ⟨hw, ht.moveTo _⟩
    | closePool =>
      simp only
      rw [hw.store]
      exact goOnClosing_alike hw ht _
    | holdLock channel user => exact reachLock_alike id hw ht channel user _
  | @execute o o' orders =>
    simp only
    rw [orders.plan]
    cases o.plan with
    | refuse e => exact finish_alike hw ht _
    | rollDice n => exact finishRolling_alike hw ht n
    | withCharacter channel user use => exact reachLock_alike id hw ht channel user _
  | @rating channel user name name' hreads =>
    simp only
    rw [hreads]
    cases readAction name with
    | error e => exact finish_alike hw ht _
    | ok a => exact reachLock_alike id hw ht channel user _

theorem beginTrace_alike (hw : w.Alike w') (ht : t.Alike t') :
    BothAlike (beginTrace w t) (beginTrace w' t') := by
  obtain ⟨call, traces, stage⟩ := t
  obtain ⟨call', traces', stage'⟩ := t'
  obtain ⟨hcall, rfl, rfl⟩ := ht
  have htraced := hw.traced
  have hcounted : World.Alike { w with traced := w.traced + 1 } { w' with traced := w'.traced + 1 } :=
    ⟨hw.store, hw.locks, hw.entropy, by rw [htraced]⟩
  cases hcall with
  | same =>
    cases call with
    | execute o =>
      cases o with
      | command i =>
        exact ⟨hcounted.record _ _ _ _, .same _, by rw [beginTrace, htraced]; rfl, rfl⟩
      | method i => exact ⟨hw, .same _, rfl, rfl⟩
    | _ => exact ⟨hw, .same _, rfl, rfl⟩
  | execute orders =>
    cases orders with
    | command plan writable =>
      exact ⟨hcounted.record _ _ _ _, .execute (.command plan writable),
        by rw [beginTrace, htraced]; rfl, rfl⟩
    | method plan => exact ⟨hw, .execute (.method plan), rfl, rfl⟩
  | rating read => exact ⟨hw, .rating read, rfl, rfl⟩

/-- Steps that can be taken or not together, with results that are alike. -/
def StepsAlike : Option (World × Task) → Option (World × Task) → Prop := Option.Rel BothAlike

theorem visit_alike (id : Nat) (hw : w.Alike w') (ht : t.Alike t') (choice : Choice) (p : Purpose)
    (phase : Phase p.Answer) (stage : Phase p.Answer → Stage)
    {after : World → Task → p.Result → World × Task}
    (hafter : ∀ {w w' : World} {t t' : Task}, w.Alike w' → t.Alike t' → ∀ r,
      BothAlike (after w t r) (after w' t' r)) :
    StepsAlike (visit id w t choice p phase stage after)
      (visit id w' t' choice p phase stage after) := by
  unfold visit
  rw [hw.store]
  cases Visit.step id p choice phase w.store with
  | none => exact .none
  | some s =>
    obtain ⟨store, notes, progress⟩ := s
    have hnoted := (hw.withStore store).record t.trace t'.trace notes notes
    cases progress with
    | going phase => exact .some ⟨hnoted, ht.moveTo _⟩
    | ended r => exact .some (hafter hnoted ht r)

theorem advance_alike (id : Nat) (hw : w.Alike w') (ht : t.Alike t') :
    StepsAlike (advance id w t) (advance id w' t') := by
  unfold advance
  rw [ht.stage]
  cases t.stage with
  | ready =>
    obtain ⟨hbegunWorld, hbegunTask⟩ := beginTrace_alike hw ht
    exact .some (begin_alike id hbegunWorld hbegunTask)
  | queued lock channel user use =>
    simp only
    rw [hw.locks]
    split
    · exact .some ⟨hw, ht.moveTo _⟩
    · exact .none
  | queuedToHold lock =>
    simp only
    rw [hw.locks]
    split
    · exact .some ⟨hw, ht.moveTo _⟩
    · exact .none
  | closing c =>
    simp only
    rw [hw.store]
    exact .some (goOnClosing_alike hw ht _)
  | _ => exact .none

/-- **A task whose call spells a name in another way takes the same steps.** -/
theorem step_alike (id : Nat) (choice : Choice) (hw : w.Alike w') (ht : t.Alike t') :
    StepsAlike (step id choice w t) (step id choice w' t') := by
  unfold step
  rw [ht.stage]
  cases hstage : t.stage with
  | visiting p phase =>
    exact visit_alike id hw ht choice p phase _ fun hw ht r => afterVisit_alike hw ht p r
  | loading lock channel user use phase =>
    exact visit_alike id hw ht choice _ phase _
      fun hw ht r => afterLoading_alike hw ht lock channel user use r
  | saving lock channel user a changed phase =>
    exact visit_alike id hw ht choice _ phase _
      fun hw ht r => afterSaving_alike hw ht lock channel user a changed r
  | holding lock =>
    cases choice with
    | finish => exact .some (finish_alike (hw.release lock) ht _)
    | _ => exact .none
  | _ =>
    cases choice with
    | go => exact advance_alike id hw ht
    | _ => exact .none

end Task

/-! ### Systems and runs -/

/-- Systems with worlds and tasks that are alike. -/
structure System.Alike (s s' : System) : Prop where
  world : s.world.Alike s'.world
  tasks : ∀ id : Nat, Option.Rel Task.Alike s.tasks[id]? s'.tasks[id]?

namespace System

variable {s s' next : System}

theorem Alike.result? (h : s.Alike s') (id : Nat) : s'.result? id = s.result? id := by
  have htask := h.tasks id
  unfold System.result?
  generalize s.tasks[id]? = found at htask ⊢
  generalize s'.tasks[id]? = found' at htask ⊢
  cases htask with
  | none => rfl
  | some ht =>
    rw [Option.bind_some, Option.bind_some, Task.result?, Task.result?, ht.stage]

theorem Alike.forgetLocks (h : s.Alike s') : s.forgetLocks.Alike s'.forgetLocks := by
  refine ⟨?_, h.tasks⟩
  rw [System.forgetLocks, System.forgetLocks, h.world.locks]
  exact h.world.withLocks _

/-- **A system whose calls spell names in other ways takes the same steps.** -/
theorem Alike.step (h : s.Alike s') {id : Nat} {choice : Choice}
    (hstep : s.step id choice = some next) :
    ∃ next', s'.step id choice = some next' ∧ next.Alike next' ∧
      s'.events next' id = s.events next id := by
  have htask := h.tasks id
  unfold System.step at hstep
  cases hfound : s.tasks[id]? with
  | none =>
    rw [hfound] at hstep
    cases hstep
  | some t =>
    cases hfound' : s'.tasks[id]? with
    | none =>
      rw [hfound, hfound'] at htask
      cases htask
    | some t' =>
      rw [hfound, hfound'] at htask
      cases htask with
      | some ht =>
        rw [hfound] at hstep
        obtain ⟨⟨w₁, t₁⟩, hmove, rfl⟩ := Option.map_eq_some_iff.1 hstep
        have hsteps := Task.step_alike id choice h.world ht
        rw [hmove] at hsteps
        generalize hmove' : t'.step id choice s'.world = moved at hsteps
        cases hsteps with
        | @some _ moved' hboth =>
          obtain ⟨hworld, hmoved⟩ := hboth
          have hset : (s.tasks.set id t₁)[id]? = some t₁ :=
            List.getElem?_set_self (List.getElem?_eq_some_iff.1 hfound).1
          have hset' : (s'.tasks.set id moved'.2)[id]? = some moved'.2 :=
            List.getElem?_set_self (List.getElem?_eq_some_iff.1 hfound').1
          refine ⟨⟨moved'.1, s'.tasks.set id moved'.2⟩, ?_, ⟨hworld, fun other => ?_⟩, ?_⟩
          · rw [System.step, hfound']
            simp only
            rw [hmove', Option.map_some]
          · by_cases hother : id = other
            · subst hother
              rw [hset, hset']
              exact .some hmoved
            · rw [List.getElem?_set_ne hother, List.getElem?_set_ne hother]
              exact h.tasks other
          · simp only [System.events, hfound, hfound', hset, hset', ht.stage, hmoved.stage]

theorem start_alike {calls calls' : List Call} (h : List.Forall₂ Call.Alike calls calls')
    (w : World) : (start w calls).Alike (start w calls') := by
  refine ⟨.refl w, ?_⟩
  simp only [start, List.getElem?_map]
  induction h with
  | nil => exact fun _ => .none
  | cons hcall _ ih =>
    rintro (_ | id)
    · exact .some ⟨hcall, rfl, rfl⟩
    · exact ih id

end System

/-- **A run of calls that spell names in other ways** has the same history. -/
theorem Run.alike {s₀ s₀' s : System} {es : List Event} (h : Run s₀ es s) (hstart : s₀.Alike s₀') :
    ∃ s', Run s₀' es s' ∧ s.Alike s' := by
  induction h with
  | start => exact ⟨s₀', .start, hstart⟩
  | step _ step ih =>
    obtain ⟨s', hrun, halike⟩ := ih
    obtain ⟨next', hstep, hnext, hevents⟩ := halike.step step
    rw [← hevents]
    exact ⟨next', hrun.step hstep, hnext⟩
  | forget _ ih =>
    obtain ⟨s', hrun, halike⟩ := ih
    exact ⟨s'.forgetLocks, hrun.forget, halike.forgetLocks⟩

/-! ### Other spellings -/

/-- A call with a text that writes the name of an action, and the same call with that name. -/
inductive Call.Respelled : Call → Call → Prop
  | same (call : Call) : Respelled call call
  | rating {channel user : Value} {a : Action} {s : String} (writes : Writes a.name s) :
      Respelled (.rating channel user (.text s)) (.rating channel user (.text a.name))
  | adjust {channel user delta : Value} {a : Action} {s : String} (writes : Writes a.name s) :
      Respelled (.execute (.method (.adjust channel user (.text s) delta)))
        (.execute (.method (.adjust channel user (.text a.name) delta)))
  | command {channel user delta : Value} {a : Action} {s : String} (writes : Writes a.name s) :
      Respelled (.execute (.command (.adjust channel user (.text s) delta)))
        (.execute (.command (.adjust channel user (.text a.name) delta)))

theorem readAction_of_writes {a : Action} {s : String} (h : Writes a.name s) :
    readAction (.text s) = .ok a :=
  readAction_eq_ok_iff.2 ⟨s, rfl, h⟩

/-- The plan of an adjustment has the action only. -/
theorem plan_adjust_of_writes {a : Action} {s : String} (h : Writes a.name s)
    (channel user delta : Value) :
    (Intent.adjust channel user (.text a.name) delta).plan =
      (Intent.adjust channel user (.text s) delta).plan := by
  simp only [Intent.plan]
  rw [readAction_of_writes h, readAction_of_writes (writes_self a.name)]

theorem Call.Respelled.alike {call call' : Call} (h : call.Respelled call') : call.Alike call' := by
  cases h with
  | same => exact .same _
  | @rating channel user a s writes =>
    refine .rating ?_
    rw [readAction_of_writes writes, readAction_of_writes (writes_self a.name)]
  | adjust writes => exact .execute (.method (plan_adjust_of_writes writes _ _ _))
  | command writes =>
    -- A name that is a text can always be written.
    refine .execute (.command (plan_adjust_of_writes writes _ _ _) ?_)
    rw [Bool.eq_iff_iff, Order.isWritable, Order.isWritable, Log.context?_isSome_iff,
      Log.context?_isSome_iff]
    rfl

/-- A run of the calls can have the history, the results and the store. -/
def Reaches (w : World) (calls : List Call) (es : List Event)
    (results : Nat → Option (Except Error Reply)) (store : Store) : Prop :=
  ∃ s, Run (System.start w calls) es s ∧ s.result? = results ∧ s.world.store = store

variable {w : World} {calls calls' : List Call} {es : List Event}
  {results : Nat → Option (Except Error Reply)} {store : Store}

theorem Reaches.alike (h : Reaches w calls es results store)
    (hcalls : List.Forall₂ Call.Alike calls calls') : Reaches w calls' es results store := by
  obtain ⟨s, hrun, rfl, rfl⟩ := h
  obtain ⟨s', hrun', halike⟩ := hrun.alike (System.start_alike hcalls w)
  exact ⟨s', hrun', funext halike.result?, halike.world.store⟩

/-- **Calls that spell their names in other ways can come to the same.** -/
theorem reaches_iff_of_alike (hcalls : List.Forall₂ Call.Alike calls calls') :
    Reaches w calls es results store ↔ Reaches w calls' es results store := by
  have hback : List.Forall₂ Call.Alike calls' calls :=
    List.Forall₂.flip (hcalls.imp fun _ _ => Call.Alike.symm)
  exact ⟨fun h => h.alike hcalls, fun h => h.alike hback⟩

/-- **The names of actions and attributes are read from their padded case variants only**, which are
the texts that write them.  What is no such text is refused as it came.  No text writes two names,
every name writes itself, and a text does in every call what the name does that it writes.  Which form
the small sigmas of a text take in lower case is all the same. -/
theorem reads_names :
    (∀ v a, readAction v = .ok a ↔ ∃ s, v = .text s ∧ Writes a.name s) ∧
      (∀ v t, readAttribute v = .ok t ↔ ∃ s, v = .text s ∧ Writes t.name s) ∧
      (∀ v, (¬ ∃ (s : String) (a : Action), v = .text s ∧ Writes a.name s) →
        readAction v = .error (.unknownName v)) ∧
      (∀ v, (¬ ∃ (s : String) (t : Attribute), v = .text s ∧ Writes t.name s) →
        readAttribute v = .error (.unknownName v)) ∧
      (∀ (s : String) (a b : Action), Writes a.name s → Writes b.name s → a = b) ∧
      (∀ (s : String) (t u : Attribute), Writes t.name s → Writes u.name s → t = u) ∧
      (∀ (s : String) (a : Action) (t : Attribute), ¬ (Writes a.name s ∧ Writes t.name s)) ∧
      (∀ a : Action, readAction (.text a.name) = .ok a) ∧
      (∀ t : Attribute, readAttribute (.text t.name) = .ok t) ∧
      (∀ (s : String) (low : List Char), Text.LowersTo (Text.trim Text.isBlank s.toList) low →
        Action.ofName? (String.ofList low) = Action.named? (.text s) ∧
          Attribute.ofName? (String.ofList low) = Attribute.named? (.text s)) ∧
      ∀ (w : World) (calls calls' : List Call), List.Forall₂ Call.Respelled calls calls' →
        ∀ es results store,
          Reaches w calls es results store ↔ Reaches w calls' es results store := by
  refine ⟨fun v a => readAction_eq_ok_iff, fun v t => readAttribute_eq_ok_iff, ?_, ?_, ?_, ?_, ?_,
    ?_, ?_, ?_, ?_⟩
  · intro v hno
    refine readAction_eq_error fun a ha => hno ?_
    obtain ⟨s, hs⟩ := readAction_eq_ok_iff.1 ha
    exact ⟨s, a, hs⟩
  · intro v hno
    refine readAttribute_eq_error fun t ht => hno ?_
    obtain ⟨s, hs⟩ := readAttribute_eq_ok_iff.1 ht
    exact ⟨s, t, hs⟩
  · intro s a b ha hb
    have hnames := ha.unique a.isPlainLetter_of_mem_name b.isPlainLetter_of_mem_name hb
    exact Action.name_injective hnames
  · intro s t u ht hu
    have hnames := ht.unique t.isPlainLetter_of_mem_name u.isPlainLetter_of_mem_name hu
    exact Attribute.name_injective hnames
  · rintro s a t ⟨ha, ht⟩
    have hnames := ha.unique a.isPlainLetter_of_mem_name t.isPlainLetter_of_mem_name ht
    exact a.name_ne_attribute t hnames
  · exact fun a => readAction_of_writes (writes_self a.name)
  · exact fun t => readAttribute_eq_ok_iff.2 ⟨t.name, rfl, writes_self t.name⟩
  · exact fun s low hlow => named?_of_lowersTo hlow
  · intro w calls calls' hcalls es results store
    exact reaches_iff_of_alike (hcalls.imp fun _ _ => Call.Respelled.alike)

end CharacterLedger.Ledger
