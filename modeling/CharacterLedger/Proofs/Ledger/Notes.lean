import CharacterLedger.Proofs.Ledger.Alone
import CharacterLedger.Proofs.Storage.Notes

/-!
# The notes of tasks

A step of a task adds notes at the end of the log, all of them under the number that the task runs
under.  What the ledger, the records and the pool note on behalf of a task is none of the commands'
own notes: these come when a command begins and when it ends, and only then.

* `IsInner` — none of these notes is one of the commands;
* `Task.Wrote`, `Task.Notes` — what happens to the log and to the trace on the way of a step, and in
  all of it;
* `Task.notes_of_step`, `Task.notes_of_first_step` — what every step does to them.
-/

namespace CharacterLedger

/-- Notes as entries under a trace number. -/
def Log.under (trace : Option Nat) (notes : List Log.Note) : List Log.Entry :=
  notes.map fun n => ⟨trace, n⟩

@[simp] theorem Log.under_append (trace : Option Nat) (notes more : List Log.Note) :
    Log.under trace (notes ++ more) = Log.under trace notes ++ Log.under trace more :=
  List.map_append

theorem Log.trace_of_mem_under {trace : Option Nat} {notes : List Log.Note} {e : Log.Entry}
    (h : e ∈ Log.under trace notes) : e.trace = trace := by
  obtain ⟨n, -, rfl⟩ := List.mem_map.mp h
  rfl

namespace Ledger

open CharacterLedger.Storage

@[simp] theorem World.log_record (w : World) (trace : Option Nat) (notes : List Log.Note) :
    (w.record trace notes).log = w.log ++ Log.under trace notes :=
  rfl

/-! ### The notes of the commands, and all others -/

/-- None of these notes is one of the commands. -/
def IsInner (notes : List Log.Note) : Prop := ∀ n ∈ notes, n.origin ≠ .commands

theorem isInner_nil : IsInner [] := nofun

theorem IsInner.append {notes more : List Log.Note} (h : IsInner notes) (h' : IsInner more) :
    IsInner (notes ++ more) := by
  intro n hn
  obtain hn | hn := List.mem_append.mp hn
  · exact h n hn
  · exact h' n hn

theorem isInner_of_ofPool {notes : List Log.Note} (h : OfPool notes) : IsInner notes := by
  intro n hn
  rw [h n hn]
  exact Log.Origin.noConfusion

theorem isInner_storeNotes (report? : Option String) (rest : String) :
    IsInner (storeNotes report? rest) := by
  intro n hn
  obtain ⟨report, -, rfl⟩ := List.mem_map.mp hn
  exact Log.Origin.noConfusion

theorem isInner_storeError (report? : Option String) (failure : Failure) :
    IsInner (storeError report? failure).1 := by
  cases failure with
  | timeout => exact isInner_nil
  | fault f =>
    simp only [storeError]
    split
    · exact isInner_storeNotes _ _
    · exact isInner_nil

theorem isInner_notLoaded (channel user : Value) (failure : Failure) :
    IsInner (notLoaded channel user failure).1 := by
  unfold notLoaded
  exact isInner_storeError _ failure

theorem isInner_toCharacter (channel user : Value) (row : Table.Row) :
    IsInner (Row.toCharacter channel user row).1 := by
  unfold Row.toCharacter
  split
  · exact isInner_notLoaded _ _ _
  · split
    · exact isInner_nil
    · exact isInner_storeNotes _ _

theorem isInner_loaded (channel user : Value)
    (r : Errand.Result (.ask (.character channel user))) : IsInner (loaded channel user r).1 := by
  cases r with
  | error failure => exact isInner_notLoaded channel user failure
  | ok row =>
    cases row with
    | none => exact isInner_nil
    | some row => exact isInner_toCharacter channel user row

theorem isInner_saved (c : Character) (r : Errand.Result (.save c)) : IsInner (saved c r).1 := by
  cases r with
  | error failure => exact isInner_storeError _ failure
  | ok => exact isInner_nil

theorem isInner_adjustedNotes (channel user : Value) (a : Adjustment) :
    IsInner (Task.adjustedNotes channel user a) := by
  intro n hn
  obtain ⟨report, -, rfl⟩ := List.mem_map.mp hn
  exact Log.Origin.noConfusion

theorem isInner_visited (p : Purpose) (r : p.Result) : IsInner (Task.visited p r).1 := by
  cases p with
  | openPool => cases r <;> exact isInner_nil
  | borrow e =>
    cases e with
    | ask question =>
      cases question with
      | character channel user => exact isInner_loaded channel user r
      | count =>
        cases r with
        | error failure => exact isInner_storeError _ failure
        | ok => exact isInner_nil
      | shape | rows => cases r <;> exact isInner_nil
    | save c => exact isInner_saved c r
    | change | breakConnection | keep => cases r <;> exact isInner_nil

/-! ### What a step notes -/

/-- What a call is closed with in the log. -/
def Call.closing (call : Call) (r : Except Error Reply) : List Log.Note :=
  match call.context? with
  | some context => Task.closingNotes context r
  | none => []

/-- The numbers that a task runs under once its call has ended. -/
def Call.tracesAfter (call : Call) (traces : List Nat) : List Nat :=
  match call.context? with
  | some _ => traces.tail
  | none => traces

namespace Task

/-- On the way of a step nothing has happened to the trace of the task, and what was noted was noted
under its number and by none of the commands. -/
structure Wrote (w : World) (t : Task) (w₁ : World) (t₁ : Task) : Prop where
  call : t₁.call = t.call
  traces : t₁.traces = t.traces
  traced : w₁.traced = w.traced
  log : ∃ notes, IsInner notes ∧ w₁.log = w.log ++ Log.under t.trace notes

/-- What a step does to the log and to the trace of a task. -/
inductive Notes (w : World) (t : Task) (r : World × Task) : Prop
  /-- The task goes on. -/
  | goes (wrote : Wrote w t r.1 r.2) (going : ∀ result, r.2.stage ≠ .done result)
      (begun : r.2.stage ≠ .ready)
  /-- The call ends, and with it its trace. -/
  | ends {notes : List Log.Note} {result : Except Error Reply} (inner : IsInner notes)
      (call : r.2.call = t.call) (traces : r.2.traces = t.call.tracesAfter t.traces)
      (traced : r.1.traced = w.traced)
      (log : r.1.log = w.log ++ Log.under t.trace (notes ++ t.call.closing result))
      (ended : r.2.stage = .done result)

section Steps

variable {w w₁ w₂ : World} {t t₁ : Task}

theorem Wrote.refl (w : World) (t : Task) : Wrote w t w t :=
  ⟨rfl, rfl, rfl, [], isInner_nil, (List.append_nil _).symm⟩

/-- What does not concern the log may change. -/
theorem Wrote.same (h : Wrote w t w₁ t₁) (hlog : w₂.log = w₁.log)
    (htraced : w₂.traced = w₁.traced) : Wrote w t w₂ t₁ := by
  obtain ⟨notes, hinner, hnotes⟩ := h.log
  exact ⟨h.call, h.traces, htraced.trans h.traced, notes, hinner, hlog.trans hnotes⟩

theorem Wrote.record (h : Wrote w t w₁ t₁) {more : List Log.Note} (hmore : IsInner more) :
    Wrote w t (w₁.record t₁.trace more) t₁ := by
  obtain ⟨notes, hinner, hnotes⟩ := h.log
  refine ⟨h.call, h.traces, h.traced, notes ++ more, hinner.append hmore, ?_⟩
  rw [World.log_record, hnotes, List.append_assoc, Log.under_append, trace, trace, h.traces]

theorem Wrote.moveTo (h : Wrote w t w₁ t₁) (stage : Stage) : Wrote w t w₁ (t₁.moveTo stage) :=
  ⟨h.call, h.traces, h.traced, h.log⟩

theorem Wrote.release (h : Wrote w t w₁ t₁) (lock : Nat) : Wrote w t (release w₁ lock) t₁ :=
  h.same rfl rfl

theorem notes_finish (h : Wrote w t w₁ t₁) (r : Except Error Reply) :
    Notes w t (finish w₁ t₁ r) := by
  obtain ⟨notes, hinner, hnotes⟩ := h.log
  obtain ⟨-, -, hcall, hstage⟩ := finish_spec w₁ t₁ r
  have htrace : t₁.trace = t.trace := by rw [trace, trace, h.traces]
  refine .ends hinner (hcall.trans h.call) ?_ ?_ ?_ hstage
  · rw [← h.call, ← h.traces]
    unfold finish Call.tracesAfter
    cases t₁.call.context? <;> rfl
  · rw [← h.traced]
    unfold finish
    split <;> rfl
  · rw [Log.under_append, ← List.append_assoc, ← hnotes, ← h.call, ← htrace]
    unfold finish Call.closing
    cases t₁.call.context? with
    | some context => rfl
    | none => exact (List.append_nil _).symm

theorem notes_finishRolling (h : Wrote w t w₁ t₁) (pool : Value) :
    Notes w t (finishRolling w₁ t₁ pool) := by
  unfold finishRolling
  rcases Dice.roll pool w₁.entropy with ⟨result, entropy⟩
  have hsame : Wrote w t { w₁ with entropy := entropy } t₁ := h.same rfl rfl
  cases result with
  | ok o => exact notes_finish hsame _
  | error e => exact notes_finish hsame _

theorem notes_reachLock (h : Wrote w t w₁ t₁) (id : Nat) (channel user : Value)
    {stage : Nat → Stage} (hgoing : ∀ lock result, stage lock ≠ .done result)
    (hbegun : ∀ lock, stage lock ≠ .ready) :
    Notes w t (reachLock id w₁ t₁ channel user stage) := by
  unfold reachLock
  split
  · exact notes_finish h _
  · next key _ =>
    rcases w₁.locks.lockFor key with ⟨locks, lock⟩
    have hjoined : Wrote w t (w₁.withLocks (locks.join lock id)) t₁ := h.same rfl rfl
    exact .goes (hjoined.moveTo _) (hgoing _) (hbegun _)

theorem notes_goOnClosing (h : Wrote w t w₁ t₁) {closing : ClosingStep}
    (hnotes : OfPool closing.notes) : Notes w t (goOnClosing w₁ t₁ closing) := by
  have hstored : Wrote w t (w₁.withStore closing.store) t₁ := h.same rfl rfl
  have hwrote := hstored.record (isInner_of_ofPool hnotes)
  unfold goOnClosing
  dsimp only
  split
  · exact notes_finish hwrote _
  · exact .goes (hwrote.moveTo _) (fun _ h => by cases h) (fun h => by cases h)

theorem notes_begin (h : Wrote w t w₁ t₁) (id : Nat) : Notes w t (begin id w₁ t₁) := by
  unfold begin
  cases t₁.call with
  | execute o =>
    dsimp only
    cases o.plan with
    | refuse e => exact notes_finish h _
    | rollDice n => exact notes_finishRolling h n
    | withCharacter channel user use =>
      exact notes_reachLock h id channel user (fun _ _ h => by cases h) (fun _ h => by cases h)
  | rating channel user name =>
    dsimp only
    cases readAction name with
    | error e => exact notes_finish h _
    | ok a =>
      exact notes_reachLock h id channel user (fun _ _ h => by cases h) (fun _ h => by cases h)
  | borrow | openPool => exact .goes (h.moveTo _) (fun _ h => by cases h) (fun h => by cases h)
  | closePool => exact notes_goOnClosing h (ofPool_beginClosing _)
  | holdLock channel user =>
    exact notes_reachLock h id channel user (fun _ _ h => by cases h) (fun _ h => by cases h)

theorem notes_useRecord (h : Wrote w t w₁ t₁) (lock : Nat) (channel user : Value) (c : Character)
    (use : Use) : Notes w t (useRecord w₁ t₁ lock channel user c use) := by
  have hreleased := h.release lock
  cases use with
  | rating | view => exact notes_finish hreleased _
  | resist => exact notes_finishRolling hreleased _
  | roll a bonus =>
    simp only [useRecord, rollWithBonus]
    split
    · exact notes_finish hreleased _
    · exact notes_finishRolling hreleased _
  | adjust a delta =>
    simp only [useRecord]
    split
    · exact notes_finish hreleased _
    · exact .goes (h.moveTo _) (fun _ h => by cases h) (fun h => by cases h)

theorem notes_afterLoading (h : Wrote w t w₁ t₁) (lock : Nat) (channel user : Value) (use : Use)
    (r : Errand.Result (.ask (.character channel user))) :
    Notes w t (afterLoading w₁ t₁ lock channel user use r) := by
  have hinner := isInner_loaded channel user r
  unfold afterLoading
  rcases hloaded : loaded channel user r with ⟨notes, result⟩
  rw [hloaded] at hinner
  have hwrote := h.record hinner
  cases result with
  | error e => exact notes_finish (hwrote.release lock) _
  | ok c => exact notes_useRecord hwrote lock channel user c use

theorem notes_afterSaving (h : Wrote w t w₁ t₁) (lock : Nat) (channel user : Value)
    (a : Adjustment) (changed : Character) (r : Errand.Result (.save changed)) :
    Notes w t (afterSaving w₁ t₁ lock channel user a changed r) := by
  have hinner := isInner_saved changed r
  unfold afterSaving
  rcases hsaved : saved changed r with ⟨notes, result⟩
  rw [hsaved] at hinner
  have hwrote := (h.record hinner).release lock
  cases result with
  | error e => exact notes_finish hwrote _
  | ok => exact notes_finish (hwrote.record (isInner_adjustedNotes channel user a)) _

/-- A step of a visit notes what the pool notes, and the task may go on from there. -/
theorem notes_visit {id : Nat} {choice : Choice} {p : Purpose} {phase : Phase p.Answer}
    {stage : Phase p.Answer → Stage} {after : World → Task → p.Result → World × Task}
    {r : World × Task} (hstep : visit id w t choice p phase stage after = some r)
    (hgoing : ∀ phase result, stage phase ≠ .done result) (hbegun : ∀ phase, stage phase ≠ .ready)
    (hafter : ∀ w₁ result, Wrote w t w₁ t → Notes w t (after w₁ t result)) : Notes w t r := by
  obtain ⟨st, hst, rfl⟩ := Option.map_eq_some_iff.1 hstep
  have hstored : Wrote w t (w.withStore st.store) t := (Wrote.refl w t).same rfl rfl
  have hwrote := hstored.record (isInner_of_ofPool (Visit.ofPool_step hst))
  dsimp only
  split
  · next next _ => exact .goes (hwrote.moveTo _) (hgoing next) (hbegun next)
  · next result _ => exact hafter _ result hwrote

/-- **A step of a task that has begun** notes under the number of the task, by none of the commands
unless it ends the call. -/
theorem notes_of_step {id : Nat} {choice : Choice} {r : World × Task}
    (hstep : t.step id choice w = some r) (hbegun : t.stage ≠ .ready) : Notes w t r := by
  unfold step at hstep
  cases hs : t.stage with
  | ready => exact absurd hs hbegun
  | visiting p phase =>
    rw [hs] at hstep
    exact notes_visit hstep (fun _ _ h => by cases h) (fun _ h => by cases h) fun w₁ result hwrote =>
      notes_finish (hwrote.record (isInner_visited p result)) _
  | loading lock channel user use phase =>
    rw [hs] at hstep
    exact notes_visit hstep (fun _ _ h => by cases h) (fun _ h => by cases h) fun w₁ result hwrote =>
      notes_afterLoading hwrote lock channel user use result
  | saving lock channel user a changed phase =>
    rw [hs] at hstep
    exact notes_visit hstep (fun _ _ h => by cases h) (fun _ h => by cases h) fun w₁ result hwrote =>
      notes_afterSaving hwrote lock channel user a changed result
  | holding lock =>
    rw [hs] at hstep
    cases choice with
    | finish =>
      cases hstep
      exact notes_finish ((Wrote.refl w t).release lock) _
    | go | expire | fail => cases hstep
  | queued | queuedToHold =>
    rw [hs] at hstep
    cases choice with
    | go =>
      simp only [advance, hs] at hstep
      split at hstep
      · cases hstep
        exact .goes ((Wrote.refl w t).moveTo _) (fun _ h => by cases h) (fun h => by cases h)
      · cases hstep
    | expire | fail | finish => cases hstep
  | closing c =>
    rw [hs] at hstep
    cases choice with
    | go =>
      simp only [advance, hs, Option.some.injEq] at hstep
      rw [← hstep]
      exact notes_goOnClosing (Wrote.refl w t) (ofPool_closeRest _)
    | expire | fail | finish => cases hstep
  | done =>
    rw [hs] at hstep
    cases choice with
    | go =>
      simp only [advance, hs] at hstep
      cases hstep
    | expire | fail | finish => cases hstep

/-- **The first step of a task** begins its trace and is like any other from there. -/
theorem notes_of_first_step {id : Nat} {choice : Choice} {r : World × Task}
    (hstep : t.step id choice w = some r) (hready : t.stage = .ready) :
    Notes (beginTrace w t).1 (beginTrace w t).2 r := by
  unfold step at hstep
  rw [hready] at hstep
  cases choice with
  | go =>
    simp only [advance, hready, Option.some.injEq] at hstep
    rw [← hstep]
    exact notes_begin (Wrote.refl _ _) id
  | expire | fail | finish => cases hstep

end Steps

end Task

end Ledger

end CharacterLedger
