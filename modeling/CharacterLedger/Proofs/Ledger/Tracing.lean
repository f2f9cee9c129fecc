import CharacterLedger.Proofs.Ledger.Notes
import CharacterLedger.Proofs.Ledger.Rolls

/-!
# The traces of commands

Every command runs under a trace number of its own.  It is logged as received before anything else,
as failed if it fails, and as processed at the very end; whatever the ledger, the records and the pool
note on its behalf stands in between, under the same number.  Then its task runs under the number
that it ran under before.  None of this depends on how the tasks take turns.  A command that cannot be
written ends at once, without a line, and its number stays.

* `Task.reply?`, `Task.result?_of_step` — what an order itself comes to in a step, and that this is
  what the call comes back with;
* `Traced`, `Traced.step` — how far the trace of a task has got, and that every step takes it further;
* `LogRun`, `LogRun.recorded` — the runs of a system, with the lines of the log by the task that has
  written them;
* `story` — the lines of the commands about one of them;
* `LogRun.traces_intents` — the traces of all commands, in every run.
-/

namespace CharacterLedger.Ledger

open CharacterLedger.Storage

/-! ### What the order itself comes to -/

/-- What comes of using a character that has been read, unless it still has to be written. -/
def Use.reply? (c : Character) (dice : Dice.Entropy) : Use → Option (Except Error Reply)
  | .rating a => some (.ok (.rating (c.rating a)))
  | .view => some (.ok (.character c))
  | .resist which => some (rollResult (Dice.roll (.int (c.attributeRating which)) dice).1)
  | .roll a bonus =>
    match Value.plus (c.rating a).toInt bonus with
    | .error m => some (.error (.mismatch m))
    | .ok pool => some (rollResult (Dice.roll pool dice).1)
  | .adjust a delta =>
    match Task.adjust c a delta with
    | .error e => some (.error e)
    | .ok _ => none

/-- What an order comes to before anything is read, unless a record is needed. -/
def Order.replyAtOnce? (dice : Dice.Entropy) (o : Order) : Option (Except Error Reply) :=
  match o.plan with
  | .refuse e => some (.error e)
  | .rollDice n => some (rollResult (Dice.roll n dice).1)
  | .withCharacter channel user _ => (Call.keyRefusal? channel user).map .error

namespace Task

/-- What an order comes to in a step of its task, if it comes to anything there: from the dice and
what the visit to the store has brought, whatever is logged. -/
def reply? (id : Nat) (choice : Choice) (w : World) (t : Task) (o : Order) :
    Option (Except Error Reply) :=
  match t.stage with
  | .ready => o.replyAtOnce? w.entropy
  | .loading _ channel user use phase =>
    (Visit.step id (.borrow (.ask (.character channel user))) choice phase w.store).bind
      (onceEnded fun r =>
        match (loaded channel user r).2 with
        | .error e => some (.error e)
        | .ok c => use.reply? c w.entropy)
  | .saving _ _ _ a changed phase =>
    (Visit.step id (.borrow (.save changed)) choice phase w.store).bind
      (onceEnded fun r => some ((saved changed r).2.map fun _ => .adjusted a.after))
  | _ => none

@[simp] theorem result?_finish (w : World) (t : Task) (r : Except Error Reply) :
    (finish w t r).2.result? = some r := by
  obtain ⟨-, -, -, hstage⟩ := finish_spec w t r
  rw [result?, hstage]

@[simp] theorem result?_finishRolling (w : World) (t : Task) (pool : Value) :
    (finishRolling w t pool).2.result? = some (rollResult (Dice.roll pool w.entropy).1) := by
  rw [result?, (finishRolling_spec w t pool).2]

theorem result?_begin {id : Nat} {w : World} {t : Task} {o : Order} (ht : t.call = .execute o) :
    (begin id w t).2.result? = o.replyAtOnce? w.entropy := by
  unfold begin Order.replyAtOnce?
  rw [ht]
  dsimp only
  cases o.plan with
  | refuse e => exact result?_finish w t _
  | rollDice n => exact result?_finishRolling w t n
  | withCharacter channel user use =>
    dsimp only
    unfold reachLock Call.keyRefusal?
    cases Key.ofValues channel user with
    | error m => exact result?_finish w t _
    | ok key => rfl

theorem result?_afterLoading (w : World) (t : Task) (lock : Nat) (channel user : Value) (use : Use)
    (r : Errand.Result (.ask (.character channel user))) :
    (afterLoading w t lock channel user use r).2.result? =
      match (loaded channel user r).2 with
      | .error e => some (.error e)
      | .ok c => use.reply? c w.entropy := by
  unfold afterLoading
  rcases loaded channel user r with ⟨notes, result⟩
  cases result with
  | error e => exact result?_finish _ t _
  | ok c =>
    cases use with
    | rating | view => exact result?_finish _ t _
    | resist => exact result?_finishRolling _ t _
    | roll a bonus =>
      simp only [useRecord, rollWithBonus, Use.reply?]
      cases Value.plus (c.rating a).toInt bonus with
      | error m => exact result?_finish _ t _
      | ok pool => exact result?_finishRolling _ t pool
    | adjust a delta =>
      simp only [useRecord, Use.reply?]
      cases adjust c a delta with
      | error e => exact result?_finish _ t _
      | ok adjusted => rfl

theorem result?_afterSaving (w : World) (t : Task) (lock : Nat) (channel user : Value)
    (a : Adjustment) (changed : Character) (r : Errand.Result (.save changed)) :
    (afterSaving w t lock channel user a changed r).2.result? =
      some ((saved changed r).2.map fun _ => .adjusted a.after) := by
  unfold afterSaving
  rcases saved changed r with ⟨notes, result⟩
  cases result with
  | error e => exact result?_finish _ t _
  | ok => exact result?_finish _ t _

/-- **A call comes back with what its order comes to**, in the same step and unchanged. -/
theorem result?_of_step {id : Nat} {choice : Choice} {w : World} {t : Task} {r : World × Task}
    {o : Order} (hstep : t.step id choice w = some r) (ht : t.call = .execute o)
    (hfits : Fits t.call t.stage) : r.2.result? = t.reply? id choice w o := by
  unfold step at hstep
  unfold reply?
  cases hs : t.stage with
  | ready =>
    rw [hs] at hstep
    cases choice with
    | go =>
      simp only [advance, hs, Option.some.injEq] at hstep
      obtain ⟨-, -, hcall, -⟩ := beginTrace_spec w t
      rw [← hstep, ← entropy_beginTrace w t]
      exact result?_begin (hcall.trans ht)
    | expire | fail | finish => cases hstep
  | queued =>
    rw [hs] at hstep
    cases choice with
    | go =>
      simp only [advance, hs] at hstep
      split at hstep
      · cases hstep
        rfl
      · cases hstep
    | expire | fail | finish => cases hstep
  | loading lock channel user use phase =>
    rw [hs] at hstep
    obtain ⟨st, hst, rfl⟩ := Option.map_eq_some_iff.1 hstep
    dsimp only
    rw [hst, Option.bind_some, onceEnded]
    cases st.progress with
    | going next => rfl
    | ended result => exact result?_afterLoading _ t lock channel user use result
  | saving lock channel user a changed phase =>
    rw [hs] at hstep
    obtain ⟨st, hst, rfl⟩ := Option.map_eq_some_iff.1 hstep
    dsimp only
    rw [hst, Option.bind_some, onceEnded]
    cases st.progress with
    | going next => rfl
    | ended result => exact result?_afterSaving _ t lock channel user a changed result
  | done =>
    rw [hs] at hstep
    cases choice with
    | go =>
      simp only [advance, hs] at hstep
      cases hstep
    | expire | fail | finish => cases hstep
  | visiting | closing =>
    rw [ht, hs] at hfits
    cases hfits
  | queuedToHold | holding =>
    rw [ht, hs] at hfits
    obtain ⟨huse, key, hkey⟩ := hfits
    obtain ⟨_, _, hholds⟩ := Call.exists_holdLock huse hkey
    cases hholds

end Task

/-! ### How far the trace of a task has got -/

/-- How far the trace of a task has got that was `t₀` before it began: the number that its call runs
under, the lines that it has written, and the task itself. -/
inductive Traced (t₀ : Task) : Option Nat → List Log.Entry → Task → Prop
  /-- It has not begun. -/
  | ready (unbegun : t₀.stage = .ready) : Traced t₀ none [] t₀
  /-- Its command has been received and is being dealt with, under a number of its own. -/
  | going {i : Intent} {context : String} {n : Nat} {notes : List Log.Note} {t : Task}
      (command : t₀.call = .execute (.command i)) (written : Log.context? i.fields = some context)
      (inner : IsInner notes) (call : t.call = t₀.call) (traces : t.traces = n :: t₀.traces)
      (begun : t.stage ≠ .ready) (goes : ∀ r, t.stage ≠ .done r) :
      Traced t₀ (some n) (Log.under (some n) (Task.receivedNote context :: notes)) t
  /-- Its command has been dealt with, and it runs under the number that it ran under before. -/
  | ended {i : Intent} {context : String} {n : Nat} {notes : List Log.Note}
      {r : Except Error Reply} {t : Task} (command : t₀.call = .execute (.command i))
      (written : Log.context? i.fields = some context) (inner : IsInner notes)
      (call : t.call = t₀.call) (traces : t.traces = t₀.traces) (done : t.stage = .done r) :
      Traced t₀ (some n)
        (Log.under (some n) (Task.receivedNote context :: (notes ++ Task.closingNotes context r))) t
  /-- Its command could not be written and has left its number behind, and no line. -/
  | unwritten {i : Intent} {n : Nat} {t : Task} (command : t₀.call = .execute (.command i))
      (unwritten : Log.context? i.fields = none) (traces : t.traces = n :: t₀.traces)
      (done : t.stage = .done (.error .tooManyDigits)) : Traced t₀ (some n) [] t
  /-- Its call is no command, and it runs under the number that it ran under before. -/
  | plain {notes : List Log.Note} {t : Task} (other : ∀ i, t₀.call ≠ .execute (.command i))
      (call : t.call = t₀.call) (traces : t.traces = t₀.traces) (begun : t.stage ≠ .ready) :
      Traced t₀ none (Log.under t₀.trace notes) t

/-- What a step does to the number of its task: no other task can have the one that it takes. -/
inductive Numbers (before after : Nat) : Option Nat → Option Nat → Prop
  | keeps {number : Option Nat} (same : after = before) : Numbers before after number number
  | takes (next : after = before + 1) : Numbers before after none (some after)

theorem Call.context?_of_other {call : Call} (h : ∀ i, call ≠ .execute (.command i)) :
    call.context? = none := by
  cases call with
  | execute o =>
    cases o with
    | command i => exact absurd rfl (h i)
    | method i => rfl
  | rating | borrow | openPool | closePool | holdLock => rfl

/-- A call that is no command writes no lines but those of what it does. -/
theorem Task.Notes.plain {w : World} {t : Task} {r : World × Task} (h : Task.Notes w t r)
    (hother : ∀ i, t.call ≠ .execute (.command i)) :
    ∃ notes, r.1.log = w.log ++ Log.under t.trace notes ∧ r.2.call = t.call ∧
      r.2.traces = t.traces ∧ r.1.traced = w.traced ∧ r.2.stage ≠ .ready := by
  cases h with
  | goes wrote going begun =>
    obtain ⟨notes, -, hlog⟩ := wrote.log
    exact ⟨notes, hlog, wrote.call, wrote.traces, wrote.traced, begun⟩
  | ends inner call traces traced log ended =>
    refine ⟨_, log, call, traces.trans ?_, traced, fun h => by cases ended.symm.trans h⟩
    rw [Call.tracesAfter, Call.context?_of_other hother]

/-- The first step of a command that can be written. -/
theorem Traced.first_step {t : Task} {i : Intent} {context : String} {w : World} {r : World × Task}
    (hcall : t.call = .execute (.command i)) (hwritten : Log.context? i.fields = some context)
    (h : Task.Notes (Task.beginTrace w t).1 (Task.beginTrace w t).2 r) :
    ∃ entries number', r.1.log = w.log ++ entries ∧ Traced t number' ([] ++ entries) r.2 ∧
      Numbers w.traced r.1.traced none number' := by
  have hbegin : Task.beginTrace w t =
      (({ w with traced := w.traced + 1 }).record (some (w.traced + 1))
          [Task.receivedNote context],
        { t with traces := (w.traced + 1) :: t.traces }) := by
    unfold Task.beginTrace
    rw [hcall]
    dsimp only
    rw [hwritten]
    rfl
  have hlogs : ∀ notes, w.log ++ Log.under (some (w.traced + 1)) [Task.receivedNote context] ++
      Log.under (some (w.traced + 1)) notes =
        w.log ++ Log.under (some (w.traced + 1)) (Task.receivedNote context :: notes) :=
    fun notes => List.append_assoc ..
  have hlogged : t.call.context? = some context := by
    rw [hcall]
    exact hwritten
  rw [hbegin] at h
  cases h with
  | goes wrote going begun =>
    obtain ⟨notes, hinner, hlog⟩ := wrote.log
    refine ⟨_, some r.1.traced, hlog.trans (hlogs notes), ?_, .takes wrote.traced⟩
    rw [show r.1.traced = w.traced + 1 from wrote.traced]
    exact .going hcall hwritten hinner wrote.call wrote.traces begun going
  | @ends notes result inner call traces traced log ended =>
    refine ⟨_, some r.1.traced, log.trans (hlogs _), ?_, .takes traced⟩
    rw [show r.1.traced = w.traced + 1 from traced, List.nil_append]
    dsimp only at traces ⊢
    simp only [Call.tracesAfter, hlogged, List.tail_cons] at traces
    simp only [Call.closing, hlogged]
    exact .ended hcall hwritten inner call traces ended

/-- The only step of a command that cannot be written. -/
theorem Traced.only_step {t : Task} {i : Intent} {id : Nat} {choice : Choice} {w : World}
    {r : World × Task} (hcall : t.call = .execute (.command i))
    (hunwritten : Log.context? i.fields = none) (hready : t.stage = .ready)
    (hstep : t.step id choice w = some r) :
    ∃ entries number', r.1.log = w.log ++ entries ∧ Traced t number' ([] ++ entries) r.2 ∧
      Numbers w.traced r.1.traced none number' := by
  have hplan : (Order.command i).plan = .refuse .tooManyDigits := by
    rw [Order.plan, Order.isWritable, hunwritten]
    rfl
  have hr : r = ({ w with traced := w.traced + 1 },
      { t with traces := (w.traced + 1) :: t.traces, stage := .done (.error .tooManyDigits) }) := by
    unfold Task.step at hstep
    rw [hready] at hstep
    cases choice with
    | go =>
      simp only [Task.advance, hready, Task.beginTrace, hcall, hunwritten, Task.begin, hplan,
        Task.finish, Call.context?, Order.context?, Option.some.injEq] at hstep
      rw [← hstep]
      simp [Task.moveTo, World.record, hcall]
    | expire | fail | finish => cases hstep
  subst hr
  exact ⟨[], some (w.traced + 1), (List.append_nil _).symm, .unwritten hcall hunwritten rfl rfl,
    .takes rfl⟩

/-- **A step takes the trace of its task further.**  It adds lines at the end. -/
theorem Traced.step {t₀ t : Task} {number : Option Nat} {lines : List Log.Entry} {id : Nat}
    {choice : Choice} {w : World} {r : World × Task} (h : Traced t₀ number lines t)
    (hstep : t.step id choice w = some r) :
    ∃ entries number', r.1.log = w.log ++ entries ∧ Traced t₀ number' (lines ++ entries) r.2 ∧
      Numbers w.traced r.1.traced number number' := by
  cases h with
  | ready unbegun =>
    have hnotes := Task.notes_of_first_step hstep unbegun
    by_cases hcommand : ∃ i, t₀.call = .execute (.command i)
    · obtain ⟨i, hcall⟩ := hcommand
      cases hcontext : Log.context? i.fields with
      | some context => exact Traced.first_step hcall hcontext hnotes
      | none => exact Traced.only_step hcall hcontext unbegun hstep
    · have hother : ∀ i, t₀.call ≠ .execute (.command i) := fun i hi => hcommand ⟨i, hi⟩
      have hbegin : Task.beginTrace w t₀ = (w, t₀) := by
        unfold Task.beginTrace
        split
        · next i hi => exact absurd hi (hother i)
        · rfl
      rw [hbegin] at hnotes
      obtain ⟨notes, hlog, hcall', htraces, htraced, hbegun⟩ := hnotes.plain hother
      exact ⟨_, none, hlog, .plain hother hcall' htraces hbegun, .keeps htraced⟩
  | @going i context n notes t command written inner call traces begun goes =>
    have htrace : t.trace = some n := by rw [Task.trace, traces, List.head?_cons]
    have hlogged : t.call.context? = some context := by
      rw [call, command]
      exact written
    cases Task.notes_of_step hstep begun with
    | goes wrote going' begun' =>
      obtain ⟨more, hmore, hlog⟩ := wrote.log
      rw [htrace] at hlog
      refine ⟨_, some n, hlog, ?_, .keeps wrote.traced⟩
      rw [← Log.under_append]
      exact .going command written (inner.append hmore) (wrote.call.trans call)
        (wrote.traces.trans traces) begun' going'
    | @ends more result hmore hcall htraces htraced hlog hended =>
      simp only [Call.tracesAfter, hlogged, traces, List.tail_cons] at htraces
      simp only [Call.closing, hlogged, htrace] at hlog
      refine ⟨_, some n, hlog, ?_, .keeps htraced⟩
      rw [← Log.under_append, List.cons_append, ← List.append_assoc]
      exact .ended command written (inner.append hmore) (hcall.trans call) htraces hended
  | ended command written inner call traces done =>
    rw [Task.step_done done] at hstep
    cases hstep
  | unwritten command unwritten traces done =>
    rw [Task.step_done done] at hstep
    cases hstep
  | plain other call traces begun =>
    have hother : ∀ i, t.call ≠ .execute (.command i) := by
      rw [call]
      exact other
    obtain ⟨more, hlog, hcall, htraces, htraced, hbegun⟩ :=
      (Task.notes_of_step hstep begun).plain hother
    rw [show t.trace = t₀.trace by rw [Task.trace, traces, Task.trace]] at hlog
    refine ⟨_, none, hlog, ?_, .keeps htraced⟩
    rw [← Log.under_append]
    exact .plain other (hcall.trans call) (htraces.trans traces) hbegun

/-! ### Runs with their lines -/

/-- The runs of a system with the lines that they add to the log, each with the number of the task
that has written it. -/
inductive LogRun (s₀ : System) : List (Nat × Log.Entry) → System → Prop
  | start : LogRun s₀ [] s₀
  /-- A task takes a step. -/
  | step {lines : List (Nat × Log.Entry)} {s s' : System} {id : Nat} {choice : Choice}
      {entries : List Log.Entry} (run : LogRun s₀ lines s) (step : s.step id choice = some s')
      (logged : s'.world.log = s.world.log ++ entries) :
      LogRun s₀ (lines ++ entries.map (Prod.mk id)) s'
  /-- Idle locks are forgotten. -/
  | forget {lines : List (Nat × Log.Entry)} {s : System} (run : LogRun s₀ lines s) :
      LogRun s₀ lines s.forgetLocks

/-- The lines that a task has written. -/
def linesOf (id : Nat) (lines : List (Nat × Log.Entry)) : List Log.Entry :=
  (lines.filter fun line => line.1 = id).map Prod.snd

@[simp] theorem linesOf_append_self (id : Nat) (lines : List (Nat × Log.Entry))
    (entries : List Log.Entry) :
    linesOf id (lines ++ entries.map (Prod.mk id)) = linesOf id lines ++ entries := by
  simp [linesOf, List.filter_map, Function.comp_def]

@[simp] theorem linesOf_append_of_ne {id other : Nat} (hne : other ≠ id)
    (lines : List (Nat × Log.Entry)) (entries : List Log.Entry) :
    linesOf other (lines ++ entries.map (Prod.mk id)) = linesOf other lines := by
  simp [linesOf, List.filter_map, Function.comp_def, hne.symm]

theorem mem_linesOf {id : Nat} {e : Log.Entry} {lines : List (Nat × Log.Entry)} :
    e ∈ linesOf id lines ↔ (id, e) ∈ lines := by
  simp [linesOf]

theorem LogRun.run {s₀ s : System} {lines : List (Nat × Log.Entry)} (h : LogRun s₀ lines s) :
    ∃ es, Run s₀ es s := by
  induction h with
  | start => exact ⟨[], .start⟩
  | step _ step _ ih =>
    obtain ⟨es, hrun⟩ := ih
    exact ⟨_, hrun.step step⟩
  | forget _ ih =>
    obtain ⟨es, hrun⟩ := ih
    exact ⟨es, hrun.forget⟩

/-! ### The numbers of the tasks -/

/-- The tasks run under numbers of their own, none of which was used before.  `used` are the numbers
given out before the first step, `traced` those given out by now. -/
structure Numbered (used : Nat) (number : Nat → Option Nat) (traced : Nat) : Prop where
  fresh : ∀ id n, number id = some n → used < n ∧ n ≤ traced
  own : ∀ id other n, number id = some n → number other = some n → id = other
  counted : used ≤ traced

namespace Numbered

variable {used traced traced' : Nat} {number : Nat → Option Nat}

theorem start (used : Nat) : Numbered used (fun _ => none) used :=
  ⟨nofun, nofun, Nat.le_refl used⟩

/-- The number that a step takes is nobody else's. -/
theorem step (h : Numbered used number traced) {id : Nat} {before after : Option Nat}
    (hbefore : number id = before) (hnumbers : Numbers traced traced' before after) :
    Numbered used (Function.update number id after) traced' := by
  cases hnumbers with
  | keeps same =>
    rw [same, ← hbefore, Function.update_eq_self]
    exact h
  | takes next =>
    have hcases : ∀ other n, Function.update number id (some traced') other = some n →
        other = id ∧ n = traced' ∨ other ≠ id ∧ number other = some n := by
      intro other n hn
      by_cases hne : other = id
      · rw [hne, Function.update_self] at hn
        exact .inl ⟨hne, (Option.some.inj hn).symm⟩
      · rw [Function.update_of_ne hne] at hn
        exact .inr ⟨hne, hn⟩
    have hcounted := h.counted
    refine ⟨?_, ?_, by omega⟩
    · intro other n hn
      obtain ⟨-, hlast⟩ | ⟨-, hold⟩ := hcases other n hn
      · omega
      · have hfresh := h.fresh other n hold
        omega
    · intro one other n hone hother
      obtain ⟨hid, hlast⟩ | ⟨-, hold⟩ := hcases one n hone
      all_goals obtain ⟨hid', hlast'⟩ | ⟨-, hold'⟩ := hcases other n hother
      · exact hid.trans hid'.symm
      · have hfresh := h.fresh other n hold'
        omega
      · have hfresh := h.fresh one n hold
        omega
      · exact h.own one other n hold hold'

end Numbered

/-- How far the traces of all tasks have got, by the numbers that they run under. -/
structure Recorded (s₀ : System) (number : Nat → Option Nat) (lines : List (Nat × Log.Entry))
    (s : System) : Prop where
  log : s.world.log = s₀.world.log ++ lines.map Prod.snd
  tasks : ∀ (id : Nat) (t : Task), s.tasks[id]? = some t →
    ∃ t₀, s₀.tasks[id]? = some t₀ ∧ Traced t₀ (number id) (linesOf id lines) t
  noTask : ∀ id, s.tasks[id]? = none → linesOf id lines = []
  numbered : Numbered s₀.world.traced number s.world.traced

namespace Recorded

variable {s₀ s s' : System} {number : Nat → Option Nat} {lines : List (Nat × Log.Entry)}

theorem start (hready : ∀ t ∈ s₀.tasks, t.stage = .ready) : Recorded s₀ (fun _ => none) [] s₀ where
  log := (List.append_nil _).symm
  tasks := fun _ t ht => ⟨t, ht, .ready (hready t (List.mem_of_getElem? ht))⟩
  noTask := fun _ _ => rfl
  numbered := .start _

/-- **A step of any task takes its own trace further, and no other.** -/
theorem step (h : Recorded s₀ number lines s) {id : Nat} {choice : Choice} {entries : List Log.Entry}
    (hstep : s.step id choice = some s') (hlog : s'.world.log = s.world.log ++ entries) :
    ∃ number', Recorded s₀ number' (lines ++ entries.map (Prod.mk id)) s' := by
  obtain ⟨t, t', ht, hr, ht', -⟩ := System.exists_task_step hstep
  obtain ⟨u, u', hu, hset, -⟩ := System.moves_of_step hstep
  obtain ⟨-, hothers⟩ := System.tasks_of_set hu hset
  obtain ⟨t₀, ht₀, htraced⟩ := h.tasks id t ht
  obtain ⟨entries', n', hlog', htraced', hnumbers⟩ := htraced.step hr
  have hentries : entries' = entries := List.append_cancel_left (hlog'.symm.trans hlog)
  subst hentries
  refine ⟨Function.update number id n', ?_, ?_, ?_, h.numbered.step rfl hnumbers⟩
  · rw [hlog, h.log, List.append_assoc, List.map_append, List.map_map]
    simp [Function.comp_def]
  · intro other v hv
    by_cases hne : other = id
    · subst hne
      rw [ht'] at hv
      cases hv
      rw [Function.update_self, linesOf_append_self]
      exact ⟨t₀, ht₀, htraced'⟩
    · rw [Function.update_of_ne hne, linesOf_append_of_ne hne]
      exact h.tasks other v (hothers other hne ▸ hv)
  · intro other hnone
    have hne : other ≠ id := by
      rintro rfl
      cases ht'.symm.trans hnone
    rw [linesOf_append_of_ne hne]
    exact h.noTask other (hothers other hne ▸ hnone)

end Recorded

/-- **Every run takes the traces of its tasks further.** -/
theorem LogRun.recorded {s₀ s : System} {lines : List (Nat × Log.Entry)} (h : LogRun s₀ lines s)
    (hready : ∀ t ∈ s₀.tasks, t.stage = .ready) : ∃ number, Recorded s₀ number lines s := by
  induction h with
  | start => exact ⟨_, .start hready⟩
  | step _ step logged ih =>
    obtain ⟨number, hrecorded⟩ := ih
    exact hrecorded.step step logged
  | forget _ ih =>
    obtain ⟨number, hrecorded⟩ := ih
    exact ⟨number, hrecorded.log, hrecorded.tasks, hrecorded.noTask, hrecorded.numbered⟩

/-- Every step adds lines at the end of the log, so every run has its lines. -/
theorem Run.exists_lines {s₀ s : System} {es : List Event} (h : Run s₀ es s)
    (hready : ∀ t ∈ s₀.tasks, t.stage = .ready) : ∃ lines, LogRun s₀ lines s := by
  induction h with
  | start => exact ⟨[], .start⟩
  | @step _ s s' id choice _ step ih =>
    obtain ⟨lines, hrun⟩ := ih
    obtain ⟨number, hrecorded⟩ := hrun.recorded hready
    obtain ⟨t, t', ht, hr, -⟩ := System.exists_task_step step
    obtain ⟨t₀, -, htraced⟩ := hrecorded.tasks id t ht
    obtain ⟨entries, -, hlog, -⟩ := htraced.step hr
    exact ⟨_, hrun.step step hlog⟩
  | forget _ ih =>
    obtain ⟨lines, hrun⟩ := ih
    exact ⟨lines, hrun.forget⟩

/-! ### The lines of the commands -/

/-- The lines of the commands about one that comes to `r`, all of them with its context: it has been
received, it has failed if it has, as a warning with its key if the error has one, and it has been
processed. -/
def story (context : String) (r : Except Error Reply) : List Log.Note :=
  let failure : List Log.Note :=
    match r with
    | .ok _ => []
    | .error e =>
      match e.key? with
      | some key => [⟨.warning, .commands, "Intent failed " ++ context ++ " error=" ++ key⟩]
      | none =>
        [⟨.error, .commands, "Exception caught in intent " ++ context ++ " error=" ++ e.summary⟩]
  [⟨.info, .commands, "Intent received " ++ context⟩] ++ failure ++
    [⟨.info, .commands, "Intent processed " ++ context ++ " execution_time_ms=#"⟩]

theorem story_eq (context : String) (r : Except Error Reply) :
    story context r = Task.receivedNote context :: Task.closingNotes context r := by
  have hnote : ∀ level what rest, Task.commandNote level what context rest =
      ⟨level, .commands, what ++ " " ++ context ++ rest⟩ := fun _ _ _ => rfl
  cases r with
  | ok =>
    simp [story, Task.receivedNote, Task.closingNotes, Task.processedNote, hnote,
      String.append_assoc]
  | error e =>
    cases hkey : e.key? <;>
      simp [story, Task.receivedNote, Task.closingNotes, Task.processedNote, Task.failedNote, hnote,
        hkey, String.append_assoc]

/-- The lines of the commands among others. -/
def ofCommands (lines : List Log.Entry) : List Log.Entry :=
  lines.filter fun e => e.note.origin = .commands

theorem ofCommands_under_inner (n : Option Nat) {notes : List Log.Note} (h : IsInner notes) :
    ofCommands (Log.under n notes) = [] := by
  rw [ofCommands, List.filter_eq_nil_iff]
  intro e he
  obtain ⟨note, hnote, rfl⟩ := List.mem_map.mp he
  simpa using h note hnote

theorem ofCommands_under_outer (n : Option Nat) {notes : List Log.Note}
    (h : ∀ note ∈ notes, note.origin = .commands) :
    ofCommands (Log.under n notes) = Log.under n notes := by
  rw [ofCommands, List.filter_eq_self]
  intro e he
  obtain ⟨note, hnote, rfl⟩ := List.mem_map.mp he
  simpa using h note hnote

@[simp] theorem ofCommands_append (lines more : List Log.Entry) :
    ofCommands (lines ++ more) = ofCommands lines ++ ofCommands more :=
  List.filter_append ..

@[simp] theorem origin_failedNote (context : String) (e : Error) :
    (Task.failedNote context e).origin = .commands := by
  unfold Task.failedNote
  split <;> rfl

theorem origin_of_mem_story {context : String} {r : Except Error Reply} {note : Log.Note}
    (h : note ∈ story context r) : note.origin = .commands := by
  rw [story_eq] at h
  cases r with
  | ok =>
    obtain rfl | rfl := by simpa [Task.closingNotes] using h
    all_goals rfl
  | error e =>
    obtain rfl | rfl | rfl := by simpa [Task.closingNotes] using h
    · rfl
    · exact origin_failedNote context e
    · rfl

/-- The notes of the commands that surround all others. -/
theorem ofCommands_story (n : Option Nat) (context : String) (r : Except Error Reply)
    {notes : List Log.Note} (h : IsInner notes) :
    ofCommands (Log.under n (Task.receivedNote context :: (notes ++ Task.closingNotes context r))) =
      Log.under n (story context r) := by
  have hstory := ofCommands_under_outer n fun note (hnote : note ∈ story context r) =>
    origin_of_mem_story hnote
  rw [story_eq, ← List.singleton_append, Log.under_append, ofCommands_append] at hstory
  rw [← List.singleton_append, Log.under_append, Log.under_append, ofCommands_append,
    ofCommands_append, ofCommands_under_inner n h, List.nil_append, hstory, ← Log.under_append,
    story_eq, List.singleton_append]

/-! ### The traces of all commands -/

namespace Traced

variable {t₀ t : Task} {number : Option Nat} {lines : List Log.Entry}

/-- The lines of a task carry its own number, or that of before if its call is no command. -/
theorem trace_of_mem (h : Traced t₀ number lines t) {e : Log.Entry} (he : e ∈ lines) :
    (∃ n, number = some n ∧ e.trace = some n) ∨
      (∀ i, t₀.call ≠ .execute (.command i)) ∧ e.trace = t₀.trace := by
  cases h with
  | ready | unwritten => cases he
  | going | ended => exact .inl ⟨_, rfl, Log.trace_of_mem_under he⟩
  | plain other => exact .inr ⟨other, Log.trace_of_mem_under he⟩

theorem of_done (h : Traced t₀ number lines t) (hready : t₀.stage = .ready) {i : Intent}
    (hcall : t₀.call = .execute (.command i)) {context : String}
    (hwritten : Log.context? i.fields = some context) {r : Except Error Reply}
    (hdone : t.stage = .done r) :
    ofCommands lines = Log.under number (story context r) ∧ t.traces = t₀.traces := by
  cases h with
  | ready => cases hready.symm.trans hdone
  | going _ _ _ _ _ _ goes => exact absurd hdone (goes r)
  | ended command written inner call traces done =>
    cases command.symm.trans hcall
    cases written.symm.trans hwritten
    cases done.symm.trans hdone
    exact ⟨ofCommands_story _ context r inner, traces⟩
  | unwritten command unwritten =>
    cases command.symm.trans hcall
    cases unwritten.symm.trans hwritten
  | plain other => exact absurd hcall (other i)

theorem of_unwritten (h : Traced t₀ number lines t) (hready : t₀.stage = .ready) {i : Intent}
    (hcall : t₀.call = .execute (.command i)) (hunwritten : Log.context? i.fields = none) :
    lines = [] ∧ (t.stage = .ready ∨ t.stage = .done (.error .tooManyDigits) ∧
      ∃ n, number = some n ∧ t.traces = n :: t₀.traces) := by
  cases h with
  | ready => exact ⟨rfl, .inl hready⟩
  | going command written | ended command written =>
    cases command.symm.trans hcall
    cases written.symm.trans hunwritten
  | unwritten _ _ traces done => exact ⟨rfl, .inr ⟨done, _, rfl, traces⟩⟩
  | plain other => exact absurd hcall (other i)

end Traced

/-- The lines that carry the number of a command are those of its task. -/
theorem Recorded.line_iff {s₀ s : System} {number : Nat → Option Nat}
    {lines : List (Nat × Log.Entry)} (h : Recorded s₀ number lines s)
    (hused : ∀ t ∈ s₀.tasks, ∀ n ∈ t.traces, n ≤ s₀.world.traced) {id : Nat} {t₀ : Task}
    {i : Intent} (ht₀ : s₀.tasks[id]? = some t₀) (hcall : t₀.call = .execute (.command i))
    {line : Nat × Log.Entry} (hline : line ∈ lines) :
    line.1 = id ↔ ∃ n, number id = some n ∧ line.2.trace = some n := by
  obtain ⟨other, e⟩ := line
  have hmem : e ∈ linesOf other lines := mem_linesOf.mpr hline
  obtain ⟨u, hu⟩ : ∃ u, s.tasks[other]? = some u := by
    cases hu : s.tasks[other]? with
    | some u => exact ⟨u, rfl⟩
    | none =>
      rw [h.noTask other hu] at hmem
      cases hmem
  obtain ⟨u₀, hu₀, htraced⟩ := h.tasks other u hu
  obtain ⟨n, hn, htrace⟩ | ⟨hplain, htrace⟩ := htraced.trace_of_mem hmem
  · constructor
    · rintro rfl
      exact ⟨n, hn, htrace⟩
    · rintro ⟨m, hm, htrace'⟩
      cases htrace.symm.trans htrace'
      exact h.numbered.own _ _ n hn hm
  · constructor
    · rintro rfl
      cases ht₀.symm.trans hu₀
      exact absurd hcall (hplain i)
    · rintro ⟨m, hm, htrace'⟩
      have hbefore := hused u₀ (List.mem_of_getElem? hu₀) m
        (List.mem_of_mem_head? (htrace.symm.trans htrace'))
      have hfresh := (h.numbered.fresh id m hm).1
      omega

/-- **The traces of commands**, in every run of tasks that take turns in any way.  The run adds lines
at the end of the log, and each is the line of one task.  Every command runs under a number of its
own, which all lines of its task carry and no other line does; its task has got as far as `Traced`
says.  Once a command that can be written has ended, the lines of the commands are its story with the
result that it has ended with, and its task runs under the number that it ran under before.  One that
cannot be written ends with that as its error, without a line, and its task runs under its number
from then on.  In each of its steps the call comes back with what the command comes to there, if
anything. -/
theorem LogRun.traces_intents {s₀ : System} (hready : ∀ t ∈ s₀.tasks, t.stage = .ready)
    (hused : ∀ t ∈ s₀.tasks, ∀ n ∈ t.traces, n ≤ s₀.world.traced) :
    (∀ es s, Run s₀ es s → ∃ lines, LogRun s₀ lines s) ∧
    ∀ lines s, LogRun s₀ lines s →
      s.world.log = s₀.world.log ++ lines.map Prod.snd ∧
      ∃ number : Nat → Option Nat, ∀ id i before,
        s₀.tasks[id]? = some ⟨.execute (.command i), before, .ready⟩ →
        ∃ t, s.tasks[id]? = some t ∧
          Traced ⟨.execute (.command i), before, .ready⟩ (number id) (linesOf id lines) t ∧
          (∀ line ∈ lines, line.1 = id ↔ ∃ n, number id = some n ∧ line.2.trace = some n) ∧
          (∀ context, Log.context? i.fields = some context → ∀ r, t.stage = .done r →
            ofCommands (linesOf id lines) = Log.under (number id) (story context r) ∧
            t.traces = before) ∧
          (Log.context? i.fields = none → linesOf id lines = [] ∧
            (t.stage = .ready ∨ t.stage = .done (.error .tooManyDigits) ∧
              ∃ n, number id = some n ∧ t.traces = n :: before)) ∧
          ∀ choice s', s.step id choice = some s' →
            s'.result? id = t.reply? id choice s.world (.command i) := by
  refine ⟨fun es s hrun => hrun.exists_lines hready, ?_⟩
  intro lines s hrun
  obtain ⟨number, hrecorded⟩ := hrun.recorded hready
  refine ⟨hrecorded.log, number, ?_⟩
  intro id i before hstart
  obtain ⟨es, hsteps⟩ := hrun.run
  obtain ⟨t, ht, hcall⟩ : ∃ t, s.tasks[id]? = some t ∧ t.call = .execute (.command i) := by
    rw [← System.getElem?_calls_eq_some_iff, hsteps.calls, System.getElem?_calls_eq_some_iff]
    exact ⟨_, hstart, rfl⟩
  obtain ⟨t₀, ht₀, htraced⟩ := hrecorded.tasks id t ht
  cases hstart.symm.trans ht₀
  have hfits := hsteps.fits fun other u hu => by
    rw [hready u (List.mem_of_getElem? hu)]
    exact trivial
  refine ⟨t, ht, htraced, fun line hline => hrecorded.line_iff hused hstart rfl hline,
    fun context hwritten r hdone => htraced.of_done rfl rfl hwritten hdone,
    fun hunwritten => htraced.of_unwritten rfl rfl hunwritten, ?_⟩
  intro choice s' hstep
  obtain ⟨u, u', hu, hr, hu', -⟩ := System.exists_task_step hstep
  cases ht.symm.trans hu
  rw [System.result?, hu', Option.bind_some]
  exact Task.result?_of_step hr hcall (hfits id t ht)

/-- Three commands, the first of which is executed on behalf of something that runs under the number 7.
The second is for an action that there is none of, the third is no intent. -/
def threeIntents : System :=
  ⟨{ World.inMemory with traced := 7 },
    [⟨.execute (.command (.view (.text "c") (.text "u"))), [7], .ready⟩,
      ⟨.execute (.command (.adjust (.text "c") (.text "u") (.text "swim") (.int 1))), [], .ready⟩,
      ⟨.execute (.command (.unsupported (.value .null))), [], .ready⟩]⟩

/-- The two others come and go while the first is still at the store. -/
def turnsOfThree : List (Nat × Choice) :=
  [(0, .go), (1, .go)] ++ List.replicate 4 (0, .go) ++ [(2, .go)] ++ List.replicate 3 (0, .go)

/-- The lines of three commands, under three numbers. -/
theorem traces_intents_of_three :
    (∀ t ∈ threeIntents.tasks, t.stage = .ready) ∧
    (∀ t ∈ threeIntents.tasks, ∀ n ∈ t.traces, n ≤ threeIntents.world.traced) ∧
    ∃ lines s, ∃ number : Nat → Option Nat, LogRun threeIntents lines s ∧
      s.world.log = lines.map Prod.snd ∧
      s.world.log.map Log.Entry.trace =
        [8, 9, 9, 9, 8, 8, 8, 8, 10, 10, 10, 8, 8, 8].map some ∧
      (ofCommands (linesOf 0 lines) = Log.under (number 0)
        [⟨.info, .commands, "Intent received intent=ShowIntent channel_id=c user_id=u"⟩,
          ⟨.info, .commands, "Intent processed intent=ShowIntent channel_id=c user_id=u " ++
            "execution_time_ms=#"⟩] ∧
        ∃ t, s.tasks[0]? = some t ∧ t.traces = [7]) ∧
      (ofCommands (linesOf 1 lines) = Log.under (number 1)
        [⟨.info, .commands, "Intent received intent=AdjustIntent channel_id=c user_id=u " ++
            "attribute_name=swim delta=1"⟩,
          ⟨.warning, .commands, "Intent failed intent=AdjustIntent channel_id=c user_id=u " ++
            "attribute_name=swim delta=1 error=unknown_attribute"⟩,
          ⟨.info, .commands, "Intent processed intent=AdjustIntent channel_id=c user_id=u " ++
            "attribute_name=swim delta=1 execution_time_ms=#"⟩] ∧
        ∃ t, s.tasks[1]? = some t ∧ t.traces = []) ∧
      ofCommands (linesOf 2 lines) = Log.under (number 2)
        [⟨.info, .commands, "Intent received intent=NoneType"⟩,
          ⟨.error, .commands, "Exception caught in intent intent=NoneType " ++
            "error=Unsupported intent: NoneType"⟩,
          ⟨.info, .commands, "Intent processed intent=NoneType execution_time_ms=#"⟩] ∧
        ∃ t, s.tasks[2]? = some t ∧ t.traces = [] := by
  have hready : ∀ t ∈ threeIntents.tasks, t.stage = .ready := by
    simp [threeIntents]
  have hused : ∀ t ∈ threeIntents.tasks, ∀ n ∈ t.traces, n ≤ threeIntents.world.traced := by
    simp [threeIntents]
  refine ⟨hready, hused, ?_⟩
  obtain ⟨⟨es, s⟩, hfollow⟩ := Option.isSome_iff_exists.1
    (show (threeIntents.follow turnsOfThree).isSome = true by decide +kernel)
  obtain ⟨hlines, htraces⟩ := LogRun.traces_intents hready hused
  obtain ⟨lines, hrun⟩ := hlines _ _ (Run.start.of_follow hfollow)
  obtain ⟨hlog, number, hintents⟩ := htraces lines s hrun
  have hends : ∀ id i before told,
      threeIntents.tasks[id]? = some ⟨.execute (.command i), before, .ready⟩ →
      ((threeIntents.follow turnsOfThree).bind fun r => (Log.context? i.fields).bind fun context =>
        (r.2.result? id).map (story context)) = some told →
      ofCommands (linesOf id lines) = Log.under (number id) told ∧
        ∃ t, s.tasks[id]? = some t ∧ t.traces = before := by
    intro id i before told hstart htold
    rw [hfollow, Option.bind_some] at htold
    obtain ⟨context, hwritten, htold⟩ := Option.bind_eq_some_iff.1 htold
    obtain ⟨r, hr, rfl⟩ := Option.map_eq_some_iff.1 htold
    obtain ⟨t, ht, hdone⟩ := System.result?_eq_some_iff.1 hr
    obtain ⟨u, hu, -, -, hends, -⟩ := hintents id i before hstart
    cases ht.symm.trans hu
    obtain ⟨hstory, hafter⟩ := hends context hwritten r hdone
    exact ⟨hstory, t, ht, hafter⟩
  have hnumbers : (threeIntents.follow turnsOfThree).map
      (fun r => r.2.world.log.map Log.Entry.trace) =
        some ([8, 9, 9, 9, 8, 8, 8, 8, 10, 10, 10, 8, 8, 8].map some) := by
    decide +kernel
  rw [hfollow, Option.map_some, Option.some.injEq] at hnumbers
  refine ⟨lines, s, number, hrun, hlog, hnumbers, hends 0 _ _ _ rfl ?_, hends 1 _ _ _ rfl ?_,
    hends 2 _ _ _ rfl ?_⟩
  all_goals decide +kernel

end CharacterLedger.Ledger