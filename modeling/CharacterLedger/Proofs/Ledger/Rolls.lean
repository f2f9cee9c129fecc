import CharacterLedger.Proofs.Dice.Blocks
import CharacterLedger.Proofs.Ledger.Alone
import Mathlib.Data.List.Forall2

/-!
# Rolls cut the source into blocks

All tasks roll their dice from one source.  A task rolls once at most, in the step that ends it, and
draws all its faces in that one step.  So however the tasks take turns, the values that have been
drawn are blocks, one for each task that has rolled, in the order in which the tasks have ended.
What the rolls come to depends on nothing but the source and the pools that are rolled.

* `Task.dice?` — the dice that a step of a task rolls, if it rolls any;
* `Task.throws_of_step` — every other step leaves the source as it is, and ends in no outcome;
* `Event.Draws` — the values that belong to an event of a history;
* `RollRun` — the runs of a system, with the rolls on the way;
* `RollRun.results` — the rolls come to what the same pools come to one after the other;
* `Run.cuts_entropy` — all of this for every run, and for every two.
-/

namespace CharacterLedger.Ledger

open CharacterLedger.Dice CharacterLedger.Storage

/-! ### Results of rolls -/

/-- What a task ends with that has rolled its dice. -/
def rollResult (r : Except RollError Outcome) : Except Error Reply :=
  (r.map .outcome).mapError .ofRoll

/-- Whether a task has ended with an outcome, or has found no faces left. -/
def isOfDice : Except Error Reply → Bool
  | .ok (.outcome _) => true
  | .error .exhausted => true
  | _ => false

theorem isOfDice_error {e : Error} (h : e ≠ .exhausted) : isOfDice (.error e) = false := by
  cases e <;> first | rfl | exact absurd rfl h

theorem ofRoll_ne_exhausted {e : RollError} (h : e ≠ .exhausted) :
    Error.ofRoll e ≠ .exhausted := by
  cases e <;> first | exact absurd rfl h | simp [Error.ofRoll]

/-! ### Orders that are refused -/

/-- An error for which only what was given is to blame. -/
inductive IsOfCaller : Error → Prop
  | unknownName (given : Value) : IsOfCaller (.unknownName given)
  | badPool (b : BadPool) : IsOfCaller (.badPool b)
  | mismatch (m : Mismatch) : IsOfCaller (.mismatch m)
  | tooManyDigits : IsOfCaller .tooManyDigits

theorem IsOfCaller.ne_exhausted {e : Error} (h : IsOfCaller e) : e ≠ .exhausted := by
  cases h <;> exact Error.noConfusion

theorem isOfCaller_readAction {name : Value} {e : Error} (h : readAction name = .error e) :
    IsOfCaller e := by
  unfold readAction at h
  split at h
  · cases h
  · cases h
    exact .unknownName name

theorem isOfCaller_readAttribute {name : Value} {e : Error} (h : readAttribute name = .error e) :
    IsOfCaller e := by
  unfold readAttribute at h
  split at h
  · cases h
  · cases h
    exact .unknownName name

theorem isOfCaller_readPool {dice limit : Value} {e : Error} (h : readPool dice limit = .error e) :
    IsOfCaller e := by
  unfold readPool at h
  cases hpool : checkPool dice limit with
  | ok n =>
    rw [hpool] at h
    cases h
  | error err =>
    rw [hpool] at h
    cases h
    cases err with
    | badPool b => exact .badPool b
    | mismatch m => exact .mismatch m
    | exhausted => exact absurd hpool (checkPool_ne_exhausted dice limit)

theorem Intent.isOfCaller {i : Intent} {e : Error} (h : i.plan = .refuse e) : IsOfCaller e := by
  cases i with
  | roll channel user name bonus =>
    simp only [plan] at h
    split at h
    · next hname =>
      cases h
      exact isOfCaller_readAction hname
    · split at h
      · next hpool =>
        cases h
        exact isOfCaller_readPool hpool
      · cases h
  | resist channel user name =>
    simp only [plan] at h
    split at h
    · next hname =>
      cases h
      exact isOfCaller_readAttribute hname
    · cases h
  | dice n =>
    simp only [plan] at h
    split at h
    · next hpool =>
      cases h
      exact isOfCaller_readPool hpool
    · cases h
  | adjust channel user name delta =>
    simp only [plan] at h
    split at h
    · next hname =>
      cases h
      exact isOfCaller_readAction hname
    · cases h
  | view => cases h
  | unsupported s =>
    cases h
    exact .mismatch _

/-- **An order is refused only for what was given.** -/
theorem Order.isOfCaller {o : Order} {e : Error} (h : o.plan = .refuse e) : IsOfCaller e := by
  unfold Order.plan at h
  split at h
  · exact Intent.isOfCaller h
  · cases h
    exact .tooManyDigits

/-! ### What rolls no dice -/

theorem storeError_ne_exhausted (report? : Option String) (failure : Failure) :
    (storeError report? failure).2 ≠ .exhausted := by
  cases failure with
  | timeout => simp [storeError]
  | fault f =>
    simp only [storeError]
    split <;> simp

theorem plainError_ne_exhausted (failure : Failure) : plainError failure ≠ .exhausted := by
  cases failure <;> simp [plainError]

theorem loaded_ne_exhausted (channel user : Value)
    (r : Errand.Result (.ask (.character channel user))) :
    (loaded channel user r).2 ≠ .error .exhausted := by
  cases r with
  | error failure =>
    intro h
    exact storeError_ne_exhausted _ failure (Except.error.inj h)
  | ok row =>
    cases row with
    | none =>
      simp only [loaded, absentCharacter]
      split <;> simp
    | some row =>
      intro h
      obtain ⟨f, -, he⟩ | ⟨issues, -, -, he⟩ := Row.toCharacter_eq_error h <;> cases he

theorem saved_ne_exhausted (c : Character) (r : Errand.Result (.save c)) :
    (saved c r).2 ≠ .error .exhausted := by
  cases r with
  | error failure =>
    intro h
    exact storeError_ne_exhausted _ failure (Except.error.inj h)
  | ok => simp [saved]

theorem counted_ne_exhausted (r : Errand.Result (.ask .count)) :
    (counted r).2 ≠ .error .exhausted := by
  cases r with
  | error failure =>
    intro h
    exact storeError_ne_exhausted _ failure (Except.error.inj h)
  | ok => simp [counted]

theorem fetched_ne_exhausted (rows : List Table.Row) : fetched rows ≠ .error .exhausted := by
  unfold fetched
  split <;> simp

/-- A visit past the ledger rolls no dice. -/
theorem isOfDice_visited (p : Purpose) (r : p.Result) : isOfDice (Task.visited p r).2 = false := by
  have hmap : ∀ {α : Type} (x : Except Error α) (f : α → Reply), x ≠ .error .exhausted →
      (∀ a, isOfDice (.ok (f a)) = false) → isOfDice (x.map f) = false := by
    intro α x f hx hf
    cases x with
    | error e => exact isOfDice_error fun he => hx (he ▸ rfl)
    | ok a => exact hf a
  have herror : ∀ failure, isOfDice (.error (plainError failure)) = false :=
    fun failure => isOfDice_error (plainError_ne_exhausted failure)
  cases p with
  | openPool =>
    cases r with
    | ok => rfl
    | error failure => exact herror failure
  | borrow e =>
    cases e with
    | ask question =>
      cases question with
      | character channel user =>
        exact hmap _ _ (loaded_ne_exhausted channel user r) fun _ => rfl
      | count => exact hmap _ _ (counted_ne_exhausted r) fun _ => rfl
      | shape =>
        cases r with
        | ok => rfl
        | error failure => exact herror failure
      | rows =>
        cases r with
        | ok rows => exact hmap _ _ (fetched_ne_exhausted rows) fun _ => rfl
        | error failure => exact herror failure
    | save c => exact hmap _ _ (saved_ne_exhausted c r) fun _ => rfl
    | change | breakConnection | keep =>
      cases r with
      | ok => rfl
      | error failure => exact herror failure

/-! ### Steps that roll dice -/

/-- The dice that are rolled for a character once it has been read. -/
def Use.dice? : Use → Character → Option Value
  | .roll a bonus, c => (Value.plus (c.rating a).toInt bonus).toOption
  | .resist which, c => some (.int (c.attributeRating which))
  | .rating _, _ | .view, _ | .adjust .., _ => none

/-- The dice that a call rolls at once. -/
def Call.dice? : Call → Option Value
  | .execute o =>
    match o.plan with
    | .rollDice n => some n
    | .refuse _ | .withCharacter .. => none
  | .rating .. | .borrow _ | .openPool | .closePool | .holdLock .. => none

namespace Task

/-- What follows from the result of a visit, once a step has ended it. -/
def onceEnded {α β : Type} (f : Except Failure α → Option β) (s : Storage.Step α) : Option β :=
  match s.progress with
  | .going _ => none
  | .ended r => f r

/-- The dice that the step of a task by a choice rolls, if it rolls any. -/
def dice? (id : Nat) (choice : Choice) (w : World) (t : Task) : Option Value :=
  match t.stage with
  | .ready => t.call.dice?
  | .loading _ channel user use phase =>
    (Visit.step id (.borrow (.ask (.character channel user))) choice phase w.store).bind
      (onceEnded fun r => (loaded channel user r).2.toOption.bind use.dice?)
  | _ => none

/-- What a step does with the source of dice, by the dice that it rolls. -/
inductive Throws (w w' : World) (st' : Stage) : Option Value → Prop
  /-- It rolls none. -/
  | nothing (same : w'.entropy = w.entropy) (result : ∀ r, st' = .done r → isOfDice r = false) :
      Throws w w' st' none
  /-- It ends with what they come to. -/
  | roll {rating : Value} (dice : w'.entropy = (roll rating w.entropy).2)
      (result : st' = .done (rollResult (roll rating w.entropy).1)) : Throws w w' st' (some rating)

section Steps

variable {w w₁ : World} {t₁ : Task}

theorem throws_finish {r : Except Error Reply} (hsame : w₁.entropy = w.entropy)
    (hr : isOfDice r = false) : Throws w (finish w₁ t₁ r).1 (finish w₁ t₁ r).2.stage none := by
  obtain ⟨-, -, -, hstage⟩ := finish_spec w₁ t₁ r
  refine .nothing ((entropy_finish w₁ t₁ r).trans hsame) ?_
  intro r' hr'
  rw [hstage] at hr'
  exact Stage.done.inj hr' ▸ hr

theorem finishRolling_spec (w : World) (t : Task) (rating : Value) :
    (finishRolling w t rating).1.entropy = (roll rating w.entropy).2 ∧
      (finishRolling w t rating).2.stage = .done (rollResult (roll rating w.entropy).1) := by
  unfold finishRolling
  rcases roll rating w.entropy with ⟨result, e⟩
  cases result with
  | ok o =>
    exact ⟨entropy_finish { w with entropy := e } t _,
      (finish_spec { w with entropy := e } t _).2.2.2⟩
  | error err =>
    exact ⟨entropy_finish { w with entropy := e } t _,
      (finish_spec { w with entropy := e } t _).2.2.2⟩

theorem throws_finishRolling {rating : Value} (hsame : w₁.entropy = w.entropy) :
    Throws w (finishRolling w₁ t₁ rating).1 (finishRolling w₁ t₁ rating).2.stage
      (some rating) := by
  obtain ⟨hdice, hstage⟩ := finishRolling_spec w₁ t₁ rating
  rw [hsame] at hdice hstage
  exact .roll hdice hstage

theorem throws_reachLock {id : Nat} {channel user : Value} {stage : Nat → Stage}
    (hsame : w₁.entropy = w.entropy) (hgoing : ∀ lock r, stage lock ≠ .done r) :
    Throws w (reachLock id w₁ t₁ channel user stage).1
      (reachLock id w₁ t₁ channel user stage).2.stage none := by
  unfold reachLock
  split
  · exact throws_finish hsame rfl
  · exact .nothing hsame fun r hr => absurd hr (hgoing _ r)

theorem throws_goOnClosing {closing : ClosingStep} (hsame : w₁.entropy = w.entropy) :
    Throws w (goOnClosing w₁ t₁ closing).1 (goOnClosing w₁ t₁ closing).2.stage none := by
  unfold goOnClosing
  rcases closing with ⟨store, notes, next⟩
  cases next with
  | none => exact throws_finish hsame rfl
  | some c => exact .nothing hsame fun r hr => by cases hr

theorem throws_begin {id : Nat} (hsame : w₁.entropy = w.entropy) :
    Throws w (begin id w₁ t₁).1 (begin id w₁ t₁).2.stage t₁.call.dice? := by
  unfold begin Call.dice?
  cases t₁.call with
  | execute o =>
    dsimp only
    cases hplan : o.plan with
    | refuse e => exact throws_finish hsame (isOfDice_error (Order.isOfCaller hplan).ne_exhausted)
    | rollDice n => exact throws_finishRolling hsame
    | withCharacter => exact throws_reachLock hsame fun lock r hr => by cases hr
  | rating channel user name =>
    dsimp only
    cases hname : readAction name with
    | error e => exact throws_finish hsame (isOfDice_error (isOfCaller_readAction hname).ne_exhausted)
    | ok a => exact throws_reachLock hsame fun lock r hr => by cases hr
  | borrow | openPool => exact .nothing hsame fun r hr => by cases hr
  | closePool => exact throws_goOnClosing hsame
  | holdLock => exact throws_reachLock hsame fun lock r hr => by cases hr

theorem adjust_ne_exhausted (c : Character) (a : Action) (delta : Value) :
    adjust c a delta ≠ .error .exhausted := by
  unfold adjust
  split
  · simp
  · split <;> simp

theorem throws_useRecord {lock : Nat} {channel user : Value} {c : Character} {use : Use}
    (hsame : w₁.entropy = w.entropy) :
    Throws w (useRecord w₁ t₁ lock channel user c use).1
      (useRecord w₁ t₁ lock channel user c use).2.stage (use.dice? c) := by
  have hreleased : (release w₁ lock).entropy = w.entropy := hsame
  cases use with
  | rating | view => exact throws_finish hreleased rfl
  | roll a bonus =>
    simp only [useRecord, rollWithBonus, Use.dice?]
    cases Value.plus (c.rating a).toInt bonus with
    | error m => exact throws_finish hreleased rfl
    | ok pool => exact throws_finishRolling hreleased
  | resist => exact throws_finishRolling hreleased
  | adjust a delta =>
    simp only [useRecord, Use.dice?]
    cases hadjust : adjust c a delta with
    | error e =>
      refine throws_finish hreleased (isOfDice_error fun he => ?_)
      exact adjust_ne_exhausted c a delta (he ▸ hadjust)
    | ok => exact .nothing hsame fun r hr => by cases hr

theorem throws_afterLoading {lock : Nat} {channel user : Value} {use : Use}
    {r : Errand.Result (.ask (.character channel user))} (hsame : w₁.entropy = w.entropy) :
    Throws w (afterLoading w₁ t₁ lock channel user use r).1
      (afterLoading w₁ t₁ lock channel user use r).2.stage
      ((loaded channel user r).2.toOption.bind use.dice?) := by
  have hfails := loaded_ne_exhausted channel user r
  unfold afterLoading
  rcases hloaded : loaded channel user r with ⟨notes, result⟩
  rw [hloaded] at hfails
  have hrecorded : (w₁.record t₁.trace notes).entropy = w.entropy := hsame
  cases result with
  | error e => exact throws_finish hrecorded (isOfDice_error fun he => hfails (he ▸ rfl))
  | ok c => exact throws_useRecord hrecorded

theorem throws_afterSaving {lock : Nat} {channel user : Value} {a : Adjustment}
    {changed : Character} {r : Errand.Result (.save changed)} (hsame : w₁.entropy = w.entropy) :
    Throws w (afterSaving w₁ t₁ lock channel user a changed r).1
      (afterSaving w₁ t₁ lock channel user a changed r).2.stage none := by
  have hfails := saved_ne_exhausted changed r
  unfold afterSaving
  rcases hsaved : saved changed r with ⟨notes, result⟩
  rw [hsaved] at hfails
  cases result with
  | error e => exact throws_finish hsame (isOfDice_error fun he => hfails (he ▸ rfl))
  | ok => exact throws_finish hsame rfl

/-- A step of a visit rolls no dice, but the task may roll what it goes on with. -/
theorem throws_visit {id : Nat} {t : Task} {choice : Choice} {p : Purpose}
    {phase : Phase p.Answer} {stage : Phase p.Answer → Stage}
    {after : World → Task → p.Result → World × Task} {rolls : p.Result → Option Value}
    {r : World × Task} (hstep : visit id w t choice p phase stage after = some r)
    (hgoing : ∀ phase r, stage phase ≠ .done r)
    (hafter : ∀ w₁ result, w₁.entropy = w.entropy →
      Throws w (after w₁ t result).1 (after w₁ t result).2.stage (rolls result)) :
    Throws w r.1 r.2.stage
      ((Visit.step id p choice phase w.store).bind (onceEnded rolls)) := by
  obtain ⟨st, hst, rfl⟩ := Option.map_eq_some_iff.1 hstep
  rw [hst, Option.bind_some, onceEnded]
  cases hprogress : st.progress with
  | going next => exact .nothing rfl fun r hr => absurd hr (hgoing next r)
  | ended result => exact hafter _ result rfl

/-- A visit after which no dice are rolled. -/
theorem throws_visit_none {id : Nat} {t : Task} {choice : Choice} {p : Purpose}
    {phase : Phase p.Answer} {stage : Phase p.Answer → Stage}
    {after : World → Task → p.Result → World × Task}
    {r : World × Task} (hstep : visit id w t choice p phase stage after = some r)
    (hgoing : ∀ phase r, stage phase ≠ .done r)
    (hafter : ∀ w₁ result, w₁.entropy = w.entropy →
      Throws w (after w₁ t result).1 (after w₁ t result).2.stage none) :
    Throws w r.1 r.2.stage none := by
  have hthrows := throws_visit hstep hgoing (r := r) fun w₁ result hsame =>
    (hafter w₁ result hsame : Throws w _ _ ((fun _ => none : p.Result → Option Value) result))
  have hnone : (Visit.step id p choice phase w.store).bind
      (onceEnded fun _ => (none : Option Value)) = none := by
    rw [Option.bind_eq_none_iff]
    intro st _
    unfold onceEnded
    split <;> rfl
  rwa [hnone] at hthrows

end Steps

/-- **A step leaves the source of dice as it is, unless it rolls dice and ends the task.** -/
theorem throws_of_step {id : Nat} {choice : Choice} {w : World} {t : Task} {r : World × Task}
    (hstep : t.step id choice w = some r) : Throws w r.1 r.2.stage (t.dice? id choice w) := by
  unfold step at hstep
  unfold dice?
  cases hs : t.stage with
  | ready =>
    rw [hs] at hstep
    cases choice with
    | go =>
      simp only [advance, hs, Option.some.injEq] at hstep
      obtain ⟨-, -, hcall, -⟩ := beginTrace_spec w t
      have : Throws w (begin id (beginTrace w t).1 (beginTrace w t).2).1 _ _ :=
        throws_begin (entropy_beginTrace w t)
      rw [hcall, hstep] at this
      exact this
    | expire | fail | finish => cases hstep
  | visiting p phase =>
    rw [hs] at hstep
    exact throws_visit_none hstep (fun phase r hr => by cases hr)
      fun w₁ result hsame => throws_finish hsame (isOfDice_visited p result)
  | loading lock channel user use phase =>
    rw [hs] at hstep
    exact throws_visit hstep (fun phase r hr => by cases hr)
      fun w₁ result hsame => throws_afterLoading hsame
  | saving lock channel user a changed phase =>
    rw [hs] at hstep
    exact throws_visit_none hstep (fun phase r hr => by cases hr)
      fun w₁ result hsame => throws_afterSaving hsame
  | holding lock =>
    rw [hs] at hstep
    cases choice with
    | finish =>
      cases hstep
      exact throws_finish rfl rfl
    | go | expire | fail => cases hstep
  | queued | queuedToHold =>
    rw [hs] at hstep
    cases choice with
    | go =>
      simp only [advance, hs] at hstep
      split at hstep
      · cases hstep
        exact .nothing rfl fun r hr => by cases hr
      · cases hstep
    | expire | fail | finish => cases hstep
  | closing c =>
    rw [hs] at hstep
    cases choice with
    | go =>
      simp only [advance, hs, Option.some.injEq] at hstep
      rw [← hstep]
      exact throws_goOnClosing rfl
    | expire | fail | finish => cases hstep
  | done =>
    rw [hs] at hstep
    cases choice with
    | go =>
      simp only [advance, hs] at hstep
      cases hstep
    | expire | fail | finish => cases hstep

end Task

/-! ### Histories and blocks -/

/-- Whether an event is the end of a task that has rolled its dice, with an outcome or because there
were no faces left. -/
def Event.isOfDice : Event → Bool
  | reached _ => false
  | ended _ r => Ledger.isOfDice r

/-- The values that have been drawn for an event. -/
inductive Event.Draws : Event → List Value → Prop
  /-- An outcome shows its faces, as many as dice were rolled. -/
  | roll {id : Nat} {o : Outcome} (count : o.diceRolled.toInteger? = some o.faces.length) :
      Draws (ended id (.ok (.outcome o))) o.faces
  /-- A roll that has found no faces left has drawn those before. -/
  | runsOut {id : Nat} {faces : List Value} : Draws (ended id (.error .exhausted)) faces
  /-- A roll with values that are no integers can fail on them. -/
  | odd {id : Nat} {m : Mismatch} {faces : List Value}
      (odd : ∃ face, face ∈ faces ∧ ∀ n, face ≠ .int n) :
      Draws (ended id (.error (.mismatch m))) faces
  /-- Nothing is drawn for any other event. -/
  | nothing {e : Event} (other : e.isOfDice = false) : Draws e []

theorem Event.draws_of_drawn {r : Except RollError Outcome} {e : Entropy} {faces : List Value}
    (h : Drawn r e faces) (id : Nat) : Draws (ended id (rollResult r)) faces := by
  cases h with
  | outcome count => exact .roll count
  | exhausted => exact .runsOut
  | odd odd => exact .odd odd
  | @refused _ err refused =>
    exact .nothing (Ledger.isOfDice_error (ofRoll_ne_exhausted refused))

/-- Nothing is drawn for events that have nothing to do with dice. -/
theorem Event.exists_draws_nothing {es : List Event} (h : ∀ e, e ∈ es → e.isOfDice = false) :
    ∃ blocks, List.Forall₂ Draws es blocks ∧ blocks.flatten = [] := by
  induction es with
  | nil => exact ⟨[], .nil, rfl⟩
  | cons e es ih =>
    obtain ⟨blocks, hblocks, hempty⟩ := ih fun e he => h e (List.mem_cons_of_mem _ he)
    exact ⟨[] :: blocks, .cons (.nothing (h e List.mem_cons_self)) hblocks, hempty⟩

@[simp] theorem Event.between_done (id : Nat) (st : Stage) (r : Except Error Reply) :
    between id st (.done r) = [ended id r] := by
  cases st <;> rfl

/-- What a step leaves in the history has to do with dice only if the task ends so. -/
theorem Event.isOfDice_of_mem_between {id : Nat} {st st' : Stage} {e : Event}
    (h : e ∈ between id st st') (hresult : ∀ r, st' = .done r → Ledger.isOfDice r = false) :
    e.isOfDice = false := by
  unfold between at h
  split at h
  · rw [List.mem_singleton.1 h]
    rfl
  · rw [List.mem_singleton.1 h]
    rfl
  · rw [List.mem_singleton.1 h]
    exact hresult _ rfl
  · cases h

/-- The outcome that a task has ended with. -/
def outcome? : Except Error Reply → Option Outcome
  | .ok (.outcome o) => some o
  | _ => none

/-- The outcome that an event of a history is about. -/
def Event.outcome? : Event → Option Outcome
  | reached _ => none
  | ended _ r => Ledger.outcome? r

theorem Event.outcome?_of_isOfDice {e : Event} (h : e.isOfDice = false) : e.outcome? = none := by
  cases e with
  | reached => rfl
  | ended id r =>
    cases r with
    | error => rfl
    | ok reply => cases reply <;> first | rfl | cases h

namespace System

variable {s s' : System} {id : Nat} {choice : Choice}

/-- A step of a system is that of a task. -/
theorem exists_task_step (hstep : s.step id choice = some s') :
    ∃ t t', s.tasks[id]? = some t ∧ t.step id choice s.world = some (s'.world, t') ∧
      s'.tasks[id]? = some t' ∧ s.events s' id = Event.between id t.stage t'.stage := by
  unfold step at hstep
  cases ht : s.tasks[id]? with
  | none =>
    rw [ht] at hstep
    cases hstep
  | some t =>
    rw [ht] at hstep
    obtain ⟨⟨w', t'⟩, hr, rfl⟩ := Option.map_eq_some_iff.1 hstep
    have hself : (s.tasks.set id t')[id]? = some t' :=
      List.getElem?_set_self (List.getElem?_eq_some_iff.1 ht).1
    exact ⟨t, t', rfl, hr, hself, by rw [events, ht, hself]⟩

/-- **The values that a step draws belong to what it leaves in the history.** -/
theorem draws_of_step (hstep : s.step id choice = some s') :
    ∃ blocks, List.Forall₂ Event.Draws (s.events s' id) blocks ∧
      s.world.entropy.Yields blocks.flatten s'.world.entropy ∧
      ∀ other, .ended other (.error .exhausted) ∈ s.events s' id →
        s'.world.entropy.next = none := by
  obtain ⟨t, t', ht, hr, -, hevents⟩ := exists_task_step hstep
  have hthrows := Task.throws_of_step hr
  rw [hevents]
  generalize t.dice? id choice s.world = dice at hthrows
  cases hthrows with
  | nothing same result =>
    have hplain : ∀ e, e ∈ Event.between id t.stage t'.stage → e.isOfDice = false :=
      fun e he => Event.isOfDice_of_mem_between he result
    obtain ⟨blocks, hblocks, hempty⟩ := Event.exists_draws_nothing hplain
    refine ⟨blocks, hblocks, ?_, ?_⟩
    · rw [hempty, show s'.world.entropy = s.world.entropy from same]
      exact .nothing
    · intro other hother
      cases hplain _ hother
  | @roll rating dice result =>
    obtain ⟨faces, hyields, hdrawn⟩ := drawn_roll rating s.world.entropy
    have hdice : s'.world.entropy = (Dice.roll rating s.world.entropy).2 := dice
    rw [show t'.stage = _ from result, Event.between_done, hdice]
    refine ⟨[faces], .cons (Event.draws_of_drawn hdrawn id) .nil, by simpa using hyields, ?_⟩
    intro other hother
    have hresult := List.mem_singleton.1 hother
    cases hroll : (Dice.roll rating s.world.entropy).1 with
    | ok => simp [hroll, rollResult, Except.map, Except.mapError] at hresult
    | error err =>
      rw [hroll] at hdrawn hresult
      cases hdrawn with
      | exhausted empty => exact empty
      | odd => simp [rollResult, Except.map, Except.mapError, Error.ofRoll] at hresult
      | refused refused =>
        have hne := ofRoll_ne_exhausted refused
        simp [rollResult, Except.map, Except.mapError, hne.symm] at hresult

end System

/-- **The values that a run has drawn are blocks, one for each event of its history.**  Once a roll
has found no faces left there are none any more. -/
theorem Run.draws {s₀ s : System} {es : List Event} (h : Run s₀ es s) :
    ∃ blocks, List.Forall₂ Event.Draws es blocks ∧
      s₀.world.entropy.Yields blocks.flatten s.world.entropy ∧
      ((∃ id, .ended id (.error .exhausted) ∈ es) → s.world.entropy.next = none) := by
  induction h with
  | start =>
    refine ⟨[], .nil, .nothing, ?_⟩
    rintro ⟨id, hid⟩
    cases hid
  | step run step ih =>
    obtain ⟨blocks, hblocks, hyields, hempty⟩ := ih
    obtain ⟨last, hlast, hyields', hempty'⟩ := System.draws_of_step step
    refine ⟨blocks ++ last, List.rel_append hblocks hlast, ?_, ?_⟩
    · rw [List.flatten_append]
      exact hyields.append hyields'
    · rintro ⟨id, hid⟩
      rw [List.mem_append] at hid
      obtain hbefore | hnow := hid
      · have hnone := hempty ⟨id, hbefore⟩
        rw [hyields'.of_empty hnone]
        exact hnone
      · exact hempty' id hnow
  | forget _ ih => exact ih

/-! ### Runs with their rolls -/

/-- A roll on the way of a run: the pool that was rolled, and what its task has ended with. -/
structure Roll where
  pool : Value
  result : Except Error Reply

namespace System

variable {s s' : System} {id : Nat} {choice : Choice}

/-- The pool that is rolled in a step, if one is. -/
def pool? (s : System) (id : Nat) (choice : Choice) : Option Value :=
  s.tasks[id]?.bind fun t => (t.dice? id choice s.world).bind poolFor?

/-- The roll of a step, if there is one. -/
def rolls (s : System) (id : Nat) (choice : Choice) (s' : System) : List Roll :=
  match s.pool? id choice, s'.result? id with
  | some pool, some r => [⟨pool, r⟩]
  | _, _ => []

/-- What a step rolls. -/
inductive Throws (s s' : System) (id : Nat) : List Roll → Prop
  /-- Nothing. -/
  | nothing (same : s'.world.entropy = s.world.entropy)
      (outcomes : (s.events s' id).filterMap Event.outcome? = []) : Throws s s' id []
  /-- A pool, with which its task ends. -/
  | roll {pool : Value} {r : Except Error Reply}
      (dice : s'.world.entropy = (rollChecked pool s.world.entropy).2)
      (result : r = rollResult (rollChecked pool s.world.entropy).1)
      (outcomes : s.events s' id = [.ended id r]) : Throws s s' id [⟨pool, r⟩]

theorem throws_of_step (hstep : s.step id choice = some s') :
    Throws s s' id (s.rolls id choice s') := by
  obtain ⟨t, t', ht, hr, ht', hevents⟩ := exists_task_step hstep
  have hthrows := Task.throws_of_step hr
  rw [rolls, pool?, ht, Option.bind_some]
  generalize t.dice? id choice s.world = dice at hthrows ⊢
  cases hthrows with
  | nothing same result =>
    refine .nothing same ?_
    rw [hevents, List.filterMap_eq_nil_iff]
    exact fun e he => Event.outcome?_of_isOfDice (Event.isOfDice_of_mem_between he result)
  | @roll rating dice result =>
    have hdone : s'.result? id = some (rollResult (Dice.roll rating s.world.entropy).1) :=
      result?_eq_some_iff.2 ⟨t', ht', result⟩
    rw [show t'.stage = _ from result, Event.between_done] at hevents
    rw [Option.bind_some, hdone]
    cases hpool : poolFor? rating with
    | some pool =>
      rw [roll_of_poolFor? hpool] at hevents ⊢
      exact .roll (dice.trans (by rw [roll_of_poolFor? hpool])) rfl hevents
    | none =>
      obtain ⟨err, hrefused, hne⟩ := roll_of_refused hpool s.world.entropy
      have hdice : s'.world.entropy = (Dice.roll rating s.world.entropy).2 := dice
      rw [hrefused] at hevents hdice
      refine .nothing hdice ?_
      rw [hevents]
      rfl

end System

/-- The runs of a system, with their histories and with the rolls on their way. -/
inductive RollRun (s₀ : System) : List Event → List Roll → System → Prop
  | start : RollRun s₀ [] [] s₀
  /-- A task takes a step. -/
  | step {es : List Event} {rolls : List Roll} {s s' : System} {id : Nat} {choice : Choice}
      (run : RollRun s₀ es rolls s) (step : s.step id choice = some s') :
      RollRun s₀ (es ++ s.events s' id) (rolls ++ s.rolls id choice s') s'
  /-- Idle locks are forgotten. -/
  | forget {es : List Event} {rolls : List Roll} {s : System} (run : RollRun s₀ es rolls s) :
      RollRun s₀ es rolls s.forgetLocks

/-- There are rolls on the way of every run. -/
theorem Run.exists_rolls {s₀ s : System} {es : List Event} (h : Run s₀ es s) :
    ∃ rolls, RollRun s₀ es rolls s := by
  induction h with
  | start => exact ⟨[], .start⟩
  | step _ step ih =>
    obtain ⟨rolls, hrun⟩ := ih
    exact ⟨_, hrun.step step⟩
  | forget _ ih =>
    obtain ⟨rolls, hrun⟩ := ih
    exact ⟨rolls, hrun.forget⟩

/-- **The rolls of a run come to what the same pools come to that are rolled one after the other**,
and the outcomes of its history are theirs. -/
theorem RollRun.results {s₀ s : System} {es : List Event} {rolls : List Roll}
    (h : RollRun s₀ es rolls s) :
    rolls.map Roll.result =
      (rollPools (rolls.map Roll.pool) s₀.world.entropy).1.map rollResult ∧
    s.world.entropy = (rollPools (rolls.map Roll.pool) s₀.world.entropy).2 ∧
    es.filterMap Event.outcome? = (rolls.map Roll.result).filterMap outcome? := by
  induction h with
  | start => exact ⟨rfl, rfl, rfl⟩
  | @step es rolls s s' id choice _ step ih =>
    obtain ⟨hresults, hentropy, houtcomes⟩ := ih
    have hthrows := System.throws_of_step step
    generalize s.rolls id choice s' = last at hthrows
    cases hthrows with
    | nothing same outcomes =>
      rw [List.append_nil, List.filterMap_append, outcomes, List.append_nil]
      exact ⟨hresults, same.trans hentropy, houtcomes⟩
    | roll dice result outcomes =>
      rw [hentropy] at dice result
      rw [List.map_append, List.map_append, List.filterMap_append, List.filterMap_append, outcomes,
        List.map_singleton, List.map_singleton, rollPools_append]
      refine ⟨?_, dice, ?_⟩
      · rw [List.map_append, hresults, result]
        rfl
      · rw [houtcomes]
        rfl
  | forget _ ih => exact ih

theorem RollRun.run {s₀ s : System} {es : List Event} {rolls : List Roll}
    (h : RollRun s₀ es rolls s) : Run s₀ es s := by
  induction h with
  | start => exact .start
  | step _ step ih => exact ih.step step
  | forget _ ih => exact ih.forget

/-- The pools that are rolled in these steps of the tasks of a system. -/
def System.poolsOn (s : System) : List (Nat × Choice) → List Value
  | [] => []
  | (id, choice) :: steps =>
    match s.step id choice with
    | none => []
    | some next => (s.rolls id choice next).map Roll.pool ++ next.poolsOn steps

/-- Steps that can be taken make a run, with the pools that are rolled in them. -/
theorem RollRun.of_follow {steps : List (Nat × Choice)} {s₀ s s' : System} {es es' : List Event}
    {rolls : List Roll} (h : RollRun s₀ es rolls s) (hfollow : s.follow steps = some (es', s')) :
    ∃ rolls', RollRun s₀ (es ++ es') (rolls ++ rolls') s' ∧
      rolls'.map Roll.pool = s.poolsOn steps := by
  induction steps generalizing s es es' rolls with
  | nil =>
    cases hfollow
    exact ⟨[], by simpa using h, rfl⟩
  | cons first steps ih =>
    obtain ⟨id, choice⟩ := first
    simp only [System.follow] at hfollow
    cases hstep : s.step id choice with
    | none =>
      rw [hstep] at hfollow
      cases hfollow
    | some next =>
      rw [hstep] at hfollow
      simp only [Option.map_eq_some_iff] at hfollow
      obtain ⟨⟨rest, last⟩, hrest, heq⟩ := hfollow
      cases heq
      obtain ⟨rolls', hrun, hpools⟩ := ih (h.step hstep) hrest
      refine ⟨s.rolls id choice next ++ rolls', ?_, ?_⟩
      · simpa using hrun
      · simp [System.poolsOn, hstep, hpools]

namespace Run

/-- **Rolls cut the source into whole blocks.**  In every run, however the tasks take turns, the
values that have been drawn are blocks, one for each event of the history: the faces of an outcome,
which are as many as the dice that were rolled; the last values there were, for a roll that has
found no faces left; and none for any other event, unless a roll has drawn values that are no
integers and cannot be compared.  In two runs from the same source, whatever else happens in them,
the same pools come to the same results. -/
theorem cuts_entropy {w : World} {calls : List Call} {es : List Event} {s : System}
    (hrun : Run (System.start w calls) es s) :
    (∃ blocks, List.Forall₂ Event.Draws es blocks ∧
      w.entropy.Yields blocks.flatten s.world.entropy ∧
      ((∃ id, .ended id (.error .exhausted) ∈ es) → s.world.entropy.next = none)) ∧
    (∃ rolls, RollRun (System.start w calls) es rolls s) ∧
    ∀ rolls, RollRun (System.start w calls) es rolls s →
      es.filterMap Event.outcome? = (rolls.map Roll.result).filterMap outcome? ∧
      ∀ w' calls' es' rolls' s', RollRun (System.start w' calls') es' rolls' s' →
        w'.entropy = w.entropy → rolls'.map Roll.pool = rolls.map Roll.pool →
        rolls'.map Roll.result = rolls.map Roll.result ∧
          es'.filterMap Event.outcome? = es.filterMap Event.outcome? ∧
          s'.world.entropy = s.world.entropy := by
  refine ⟨hrun.draws, hrun.exists_rolls, ?_⟩
  intro rolls hrolls
  obtain ⟨hresults, hentropy, houtcomes⟩ := hrolls.results
  refine ⟨houtcomes, ?_⟩
  intro w' calls' es' rolls' s' hrolls' hsource hpools
  obtain ⟨hresults', hentropy', houtcomes'⟩ := hrolls'.results
  have hsource' : (System.start w' calls').world.entropy =
      (System.start w calls).world.entropy := hsource
  rw [hpools, hsource'] at hresults' hentropy'
  have hsame : rolls'.map Roll.result = rolls.map Roll.result := hresults'.trans hresults.symm
  refine ⟨hsame, ?_, hentropy'.trans hentropy.symm⟩
  rw [houtcomes, houtcomes', hsame]

/-- A source of four values. -/
def fourFaces : Entropy := .script 0 [.int 6, .int 2, .int 5, .int 1]

/-- Tasks over a file, two of which roll dice that belong to no character. -/
def rollsOnFile : System :=
  System.start (World.withRow (.blank "c" "u") 1 fourFaces)
    [.execute (.method (.roll (.text "c") (.text "u") (.text "hack") (.int 2))),
      .execute (.method (.dice (.int 1))), .execute (.method (.dice (.int 3))),
      .execute (.command (.view (.text "c") (.text "u")))]

/-- A character rolls two dice while another task rolls one, and the last finds one value for its
three dice. -/
def turnsOnFile : List (Nat × Choice) :=
  List.replicate 4 (0, .go) ++ [(3, .go), (1, .go)] ++ List.replicate 5 (0, .go) ++ [(2, .go)]

/-- Tasks over a database in memory that roll as many dice one after the other. -/
def rollsInMemory : System :=
  System.start (Session.world .empty .memory 1 fourFaces)
    [.execute (.method (.roll (.text "d") (.text "v") (.text "rig") (.int 1))),
      .execute (.method (.roll (.text "d") (.text "v") (.text "rig") (.int 2))),
      .execute (.method (.dice (.int 3)))]

/-- Each task goes on until it has ended. -/
def turnsInMemory : List (Nat × Choice) :=
  List.replicate 8 (0, .go) ++ List.replicate 6 (1, .go) ++ [(2, .go)]

/-- Four values.  The tasks over the file have drawn them all, in two blocks and the rest, and the
tasks in memory come to the same results. -/
theorem cuts_entropy_of_four :
    ∃ es rolls s es' rolls' s', RollRun rollsOnFile es rolls s ∧
      RollRun rollsInMemory es' rolls' s' ∧
      (∃ blocks, List.Forall₂ Event.Draws es blocks ∧
        fourFaces.Yields blocks.flatten s.world.entropy ∧ s.world.entropy.next = none) ∧
      rolls.map Roll.pool = [.int 1, .int 2, .int 3] ∧
      (es.filterMap Event.outcome?).map Outcome.faces = [[.int 6], [.int 2, .int 5]] ∧
      rolls'.map Roll.result = rolls.map Roll.result ∧
      es'.filterMap Event.outcome? = es.filterMap Event.outcome? := by
  obtain ⟨⟨es, s⟩, hfollow⟩ := Option.isSome_iff_exists.1
    (show (rollsOnFile.follow turnsOnFile).isSome = true by decide +kernel)
  obtain ⟨⟨es', s'⟩, hfollow'⟩ := Option.isSome_iff_exists.1
    (show (rollsInMemory.follow turnsInMemory).isSome = true by decide +kernel)
  have hpools : rollsOnFile.poolsOn turnsOnFile = [.int 1, .int 2, .int 3] := by rfl
  have hpools' : rollsInMemory.poolsOn turnsInMemory = [.int 1, .int 2, .int 3] := by rfl
  obtain ⟨rolls, hrun, hrolls⟩ := RollRun.start.of_follow hfollow
  obtain ⟨rolls', hrun', hrolls'⟩ := RollRun.start.of_follow hfollow'
  rw [hpools] at hrolls
  rw [hpools'] at hrolls'
  obtain ⟨⟨blocks, hblocks, hyields, -⟩, -, hcuts⟩ := cuts_entropy hrun.run
  obtain ⟨houtcomes, hsame⟩ := hcuts _ hrun
  obtain ⟨hresults, hevents, -⟩ := hsame _ _ _ _ _ hrun' rfl (hrolls'.trans hrolls.symm)
  obtain ⟨hvalues, hentropy, -⟩ := hrun.results
  rw [List.nil_append, hrolls] at hvalues hentropy
  refine ⟨_, _, s, _, _, s', hrun, hrun', ⟨blocks, hblocks, hyields, ?_⟩, hrolls, ?_, hresults,
    hevents⟩
  · rw [hentropy]
    rfl
  · rw [houtcomes, List.nil_append, hvalues]
    rfl

end Run

end CharacterLedger.Ledger
