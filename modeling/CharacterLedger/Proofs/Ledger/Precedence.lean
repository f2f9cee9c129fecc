import CharacterLedger.Proofs.Dice.Rules
import CharacterLedger.Proofs.Ledger.Rolls
import CharacterLedger.Proofs.Ledger.Surfacing
import CharacterLedger.Proofs.Ledger.Waiting
import CharacterLedger.Proofs.Storage.Ending

/-!
# What dice are refused for, and in which order

Dice are asked for in three ways: for an action of a character with a bonus, for an attribute of a
character, and by their plain number.  The name is looked at first, then the number that was given,
then the record is loaded, and last the sum is looked at.  The first of them that is wrong decides,
and nothing is drawn then.

* `Toss` — the three ways, with values of any types for channel, user and name;
* `Order.Asks` — an order that asks for them, and that can be written if it is a command;
* `Toss.verdict` — what comes of it, by what loading the record has come to and by the dice;
* `Toss.Advances` — what a step of the task does, of which `Task.advances_of_step` says that every
  step is so;
* `System.stepsLeft` — how far a task that asks for dice is from its end;
* `Run.toss_precedence` — all of it for every run of any tasks;
* `Run.not_all_tosses_refused` — what is amiss with commands that cannot be written, and in memory.

Whoever asks for dice with a channel and a user that are no key is turned away for that, before
anything is loaded.  Texts are always a key.
-/

namespace CharacterLedger.Ledger

open CharacterLedger.Dice CharacterLedger.Storage CharacterLedger.Table

/-! ### Dice that are asked for -/

/-- What dice are asked for: an action of a character with a bonus, an attribute of a character, or
their plain number. -/
inductive Toss where
  | action (channel user name : Value) (bonus : Int)
  | resistance (channel user name : Value)
  | plain (number : Int)

/-- The intent that asks for dice. -/
def Toss.intent : Toss → Intent
  | action channel user name bonus => .roll channel user name (.int bonus)
  | resistance channel user name => .resist channel user name
  | plain number => .dice (.int number)

/-- An order that asks for dice, and that can be written if it has to be. -/
structure Order.Asks (o : Order) (x : Toss) : Prop where
  intent : o.intent = x.intent
  writable : o.isWritable = true

theorem Order.Asks.plan {o : Order} {x : Toss} (h : o.Asks x) : o.plan = x.intent.plan := by
  rw [Order.plan_of_writable h.writable, h.intent]

/-- What comes of a pool: it is too large, or its dice are drawn and it is resolved. -/
def tossed (number : Int) (dice : Entropy) : Except Error Reply × Entropy :=
  if 100 < number then (.error (.badPool ⟨.tooLarge, .int number⟩), dice)
  else
    (rollResult (rollPool (.int number) number.toNat dice).1,
      (rollPool (.int number) number.toNat dice).2)

/-- What comes of a number that is given: it is refused if it is negative or too large. -/
def withinLimits (number : Int) (dice : Entropy) (next : Except Error Reply × Entropy) :
    Except Error Reply × Entropy :=
  if number < 0 then (.error (.badPool ⟨.negative, .int number⟩), dice)
  else if 100 < number then (.error (.badPool ⟨.tooLarge, .int number⟩), dice)
  else next

/-- What comes of a record that is loaded for dice. -/
def onceLoaded (load : Except Error Character) (dice : Entropy) (number : Character → Int) :
    Except Error Reply × Entropy :=
  match load with
  | .error e => (.error e, dice)
  | .ok c => tossed (number c) dice

namespace Toss

/-- What comes of dice that are asked for, by what loading the record has come to. -/
def verdict (load : Except Error Character) (dice : Entropy) : Toss → Except Error Reply × Entropy
  | action _ _ name bonus =>
    match Action.named? name with
    | none => (.error (.unknownName name), dice)
    | some a => withinLimits bonus dice (onceLoaded load dice fun c => (c.rating a).toInt + bonus)
  | resistance _ _ name =>
    match Attribute.named? name with
    | none => (.error (.unknownName name), dice)
    | some t => onceLoaded load dice fun c => c.attributeRating t
  | plain number => withinLimits number dice (tossed number dice)

/-- The channel and the user whose record is loaded, unless the name or the number is refused
before or there is nothing to load. -/
def about? : Toss → Option (Value × Value)
  | action channel user name bonus =>
    if (Action.named? name).isSome ∧ 0 ≤ bonus ∧ bonus ≤ 100 then some (channel, user) else none
  | resistance channel user name =>
    if (Attribute.named? name).isSome then some (channel, user) else none
  | plain _ => none

/-- What a toss is planned to come to, by its verdict. -/
inductive Planned (x : Toss) : Plan → Prop
  | refuse {e : Error} (nobody : x.about? = none)
      (verdict : ∀ load dice, x.verdict load dice = (.error e, dice)) : Planned x (.refuse e)
  | rollDice {number : Int} (nobody : x.about? = none)
      (verdict : ∀ load dice, x.verdict load dice =
        (rollResult (roll (.int number) dice).1, (roll (.int number) dice).2)) :
      Planned x (.rollDice (.int number))
  | withCharacter {channel user : Value} {use : Use} (about : x.about? = some (channel, user))
      (fails : ∀ e dice, x.verdict (.error e) dice = (.error e, dice))
      (rolls : ∀ c, ∃ number : Int, use.dice? c = some (.int number) ∧
        ∀ dice, x.verdict (.ok c) dice =
          (rollResult (roll (.int number) dice).1, (roll (.int number) dice).2)) :
      Planned x (.withCharacter channel user use)

end Toss

/-- A pool that is not negative is rolled as it is. -/
theorem tossed_eq {number : Int} (h : 0 ≤ number) (dice : Entropy) :
    tossed number dice =
      (rollResult (roll (.int number) dice).1, (roll (.int number) dice).2) := by
  have hsame : max number 0 = number := by omega
  rw [tossed, roll_int, hsame]
  by_cases hlarge : 100 < number
  · rw [if_pos hlarge, if_pos (show mostDice < number from hlarge)]
    rfl
  · rw [if_neg hlarge, if_neg (show ¬mostDice < number from hlarge)]

/-- What becomes of a number of dice that is read. -/
inductive Limited (number : Int) : Except Error Value → Prop
  | refused {e : Error} (outside : ¬(0 ≤ number ∧ number ≤ 100))
      (verdict : ∀ dice next, withinLimits number dice next = (.error e, dice)) :
      Limited number (.error e)
  | taken (inside : 0 ≤ number ∧ number ≤ 100)
      (verdict : ∀ dice next, withinLimits number dice next = next) :
      Limited number (.ok (.int number))

theorem limited_readPool (number : Int) :
    Limited number (readPool (.int number) (.int mostDice)) := by
  rw [readPool, checkPool_int]
  unfold mostDice
  by_cases hnegative : number < 0
  · rw [if_pos hnegative]
    exact .refused (by omega) fun dice next => by rw [withinLimits, if_pos hnegative]; rfl
  · by_cases hlarge : 100 < number
    · rw [if_neg hnegative, if_pos hlarge]
      exact .refused (by omega) fun dice next => by
        rw [withinLimits, if_neg hnegative, if_pos hlarge]; rfl
    · rw [if_neg hnegative, if_neg hlarge]
      exact .taken (by omega) fun dice next => by
        rw [withinLimits, if_neg hnegative, if_neg hlarge]

/-- A pool that is neither negative nor too large takes its faces from the source, two of them for a
pool of none, and has their outcome. -/
theorem tossed_of_shows {number : Int} (hleast : 0 ≤ number) (hgreatest : number ≤ 100)
    {dice left : Entropy} {faces : List Int} (hshows : dice.Shows faces left)
    (hlength : faces.length = if number = 0 then 2 else number.toNat) :
    tossed number dice = (.ok (.outcome (outcomeOf number faces)), left) := by
  have hcount : faces.length = diceFor number.toNat := by
    rw [hlength]
    unfold diceFor zeroPoolDice
    split <;> split <;> omega
  rw [tossed_eq hleast, roll_of_shows hgreatest hshows hcount]
  rfl

/-- **The plan of a toss says what its verdict says.** -/
theorem Toss.planned (x : Toss) : x.Planned x.intent.plan := by
  cases x with
  | action channel user name bonus =>
    simp only [intent, Intent.plan]
    cases hname : Action.named? name with
    | none =>
      simp only [readAction, hname]
      exact .refuse (by simp [about?, hname]) fun load dice => by simp only [verdict, hname]
    | some a =>
      simp only [readAction, hname]
      have hlimited := limited_readPool bonus
      generalize readPool (.int bonus) (.int mostDice) = r at hlimited
      cases hlimited with
      | refused outside refused =>
        exact .refuse (by simp [about?, hname]; omega) fun load dice => by
          simp only [verdict, hname, refused]
      | taken inside taken =>
        refine .withCharacter (by simp [about?, hname, inside]) ?_ ?_
        · intro e dice
          simp only [verdict, hname, taken, onceLoaded]
        · intro c
          refine ⟨(c.rating a).toInt + bonus, rfl, fun dice => ?_⟩
          simp only [verdict, hname, taken, onceLoaded]
          have hrating : 0 ≤ (c.rating a).toInt := Int.natCast_nonneg _
          exact tossed_eq (Int.add_nonneg hrating inside.1) dice
  | resistance channel user name =>
    simp only [intent, Intent.plan]
    cases hname : Attribute.named? name with
    | none =>
      simp only [readAttribute, hname]
      exact .refuse (by simp [about?, hname]) fun load dice => by simp only [verdict, hname]
    | some t =>
      simp only [readAttribute, hname]
      refine .withCharacter (by simp [about?, hname]) ?_ ?_
      · intro e dice
        simp only [verdict, hname, onceLoaded]
      · intro c
        refine ⟨c.attributeRating t, rfl, fun dice => ?_⟩
        simp only [verdict, hname, onceLoaded]
        exact tossed_eq (Int.natCast_nonneg _) dice
  | plain number =>
    simp only [intent, Intent.plan]
    have hlimited := limited_readPool number
    generalize readPool (.int number) (.int mostDice) = r at hlimited
    cases hlimited with
    | refused outside refused =>
      dsimp only
      exact .refuse rfl fun load dice => refused dice _
    | taken inside taken =>
      dsimp only
      refine .rollDice rfl fun load dice => ?_
      rw [verdict, taken]
      exact tossed_eq inside.1 dice

/-! ### Steps of a task that asks for dice -/

/-- What a step of a task that asks for dice does, by its stages and the worlds before and after. -/
inductive Toss.Advances (x : Toss) (id : Nat) (w w' : World) : Stage → Stage → Prop
  /-- There is nothing to load.  What comes of it is decided at once, and the pool is left alone. -/
  | decides {r : Except Error Reply} (nobody : x.about? = none) (store : w'.store = w.store)
      (locks : w'.locks = w.locks)
      (verdict : ∀ load, x.verdict load w.entropy = (r, w'.entropy)) :
      Advances x id w w' .ready (.done r)
  /-- The channel and the user are no key, and the pool is left alone as well. -/
  | turnsAway {channel user : Value} {m : Mismatch} (about : x.about? = some (channel, user))
      (noKey : Key.ofValues channel user = .error m) (store : w'.store = w.store)
      (locks : w'.locks = w.locks) (dice : w'.entropy = w.entropy) :
      Advances x id w w' .ready (.done (.error (.mismatch m)))
  /-- The record is still to be loaded. -/
  | goesOn {st st' : Stage} {channel user : Value} {key : Key}
      (about : x.about? = some (channel, user)) (isKey : Key.ofValues channel user = .ok key)
      (going : ∀ r, st' ≠ .done r) (dice : w'.entropy = w.entropy) : Advances x id w w' st st'
  /-- Loading ends in this step, and what it has come to decides. -/
  | loads {lock : Nat} {channel user : Value} {use : Use} {choice : Choice}
      {phase : Phase (Purpose.borrow (.ask (.character channel user))).Answer}
      {visit : Storage.Step (Purpose.borrow (.ask (.character channel user))).Answer}
      {answer : Errand.Result (.ask (.character channel user))} {r : Except Error Reply}
      (about : x.about? = some (channel, user))
      (step : Visit.step id (.borrow (.ask (.character channel user))) choice phase w.store =
        some visit)
      (ended : visit.progress = .ended answer) (store : w'.store = visit.store)
      (verdict : x.verdict (loaded channel user answer).2 w.entropy = (r, w'.entropy)) :
      Advances x id w w' (.loading lock channel user use phase) (.done r)

namespace Task

variable {o : Order} {x : Toss} {id : Nat} {w w₁ : World} {t t₁ : Task}

/-- A task that begins is decided at once, turned away, or comes to the lock of its character. -/
theorem advances_begin (hcall : t₁.call = .execute o) (hasks : o.Asks x) (hstore : w₁.store = w.store)
    (hlocks : w₁.locks = w.locks) (hdice : w₁.entropy = w.entropy) :
    x.Advances id w (begin id w₁ t₁).1 .ready (begin id w₁ t₁).2.stage := by
  have hplanned := x.planned
  simp only [begin, hcall, hasks.plan]
  generalize x.intent.plan = plan at hplanned
  cases hplanned with
  | @refuse e nobody verdict =>
    obtain ⟨hs, hl, -, hstage⟩ := finish_spec w₁ t₁ (.error e)
    rw [hstage]
    refine .decides nobody (hs.trans hstore) (hl.trans hlocks) fun load => ?_
    rw [verdict, entropy_finish, hdice]
  | @rollDice number nobody verdict =>
    obtain ⟨hs, hl⟩ := store_finishRolling w₁ t₁ (.int number)
    obtain ⟨he, hstage⟩ := finishRolling_spec w₁ t₁ (.int number)
    rw [hstage]
    refine .decides nobody (hs.trans hstore) (hl.trans hlocks) fun load => ?_
    rw [verdict, he, hdice]
  | @withCharacter channel user use about fails rolls =>
    simp only [reachLock]
    cases hkey : Key.ofValues channel user with
    | error m =>
      obtain ⟨hs, hl, -, hstage⟩ := finish_spec w₁ t₁ (.error (.mismatch m))
      rw [hstage]
      exact .turnsAway about hkey (hs.trans hstore) (hl.trans hlocks)
        ((entropy_finish w₁ t₁ _).trans hdice)
    | ok key => exact .goesOn about hkey (fun r hr => by cases hr) hdice

/-- A record that dice are rolled for is used by rolling them. -/
theorem useRecord_of_dice? {use : Use} {c : Character} {pool : Value} (h : use.dice? c = some pool)
    (w : World) (t : Task) (lock : Nat) (channel user : Value) :
    useRecord w t lock channel user c use = finishRolling (release w lock) t pool := by
  cases use with
  | roll a bonus =>
    rw [Use.dice?] at h
    simp only [useRecord, rollWithBonus]
    cases hsum : Value.plus (c.rating a).toInt bonus with
    | error m =>
      rw [hsum] at h
      cases h
    | ok sum =>
      rw [hsum] at h
      cases h
      rfl
  | resist which =>
    cases h
    rfl
  | rating | view | adjust => cases h

/-- What loading has come to decides. -/
theorem verdict_afterLoading (t₁ : Task) (lock : Nat) {channel user : Value} {use : Use}
    (hplan : x.intent.plan = .withCharacter channel user use)
    (answer : Errand.Result (.ask (.character channel user))) (hdice : w₁.entropy = w.entropy) :
    ∃ r, (afterLoading w₁ t₁ lock channel user use answer).2.stage = .done r ∧
      (afterLoading w₁ t₁ lock channel user use answer).1.store = w₁.store ∧
      x.verdict (loaded channel user answer).2 w.entropy =
        (r, (afterLoading w₁ t₁ lock channel user use answer).1.entropy) := by
  have hplanned := x.planned
  rw [hplan] at hplanned
  cases hplanned with
  | withCharacter about fails rolls =>
    unfold afterLoading
    rcases loaded channel user answer with ⟨notes, result⟩
    cases result with
    | error e =>
      obtain ⟨hs, -, -, hstage⟩ :=
        finish_spec (release (w₁.record t₁.trace notes) lock) t₁ (.error e)
      refine ⟨_, hstage, hs, ?_⟩
      rw [fails, entropy_finish]
      exact congrArg (Prod.mk _) hdice.symm
    | ok c =>
      obtain ⟨number, hnumber, hverdict⟩ := rolls c
      simp only [useRecord_of_dice? hnumber]
      have hleft := store_finishRolling (release (w₁.record t₁.trace notes) lock) t₁ (.int number)
      obtain ⟨he, hstage⟩ :=
        finishRolling_spec (release (w₁.record t₁.trace notes) lock) t₁ (.int number)
      have hsame : (release (w₁.record t₁.trace notes) lock).entropy = w.entropy := hdice
      refine ⟨_, hstage, hleft.1, ?_⟩
      rw [hverdict, he, hsame]

/-- A step decides about the dice, or leads to loading the record that decides. -/
theorem advances_of_loading {choice : Choice} {lock : Nat} {channel user : Value} {use : Use}
    {key : Key} {phase : Phase (Purpose.borrow (.ask (.character channel user))).Answer}
    {r : World × Task} (hplan : x.intent.plan = .withCharacter channel user use)
    (hkey : Key.ofValues channel user = .ok key)
    (hstage : t.stage = .loading lock channel user use phase)
    (hstep : t.step id choice w = some r) : x.Advances id w r.1 t.stage r.2.stage := by
  have hplanned := x.planned
  rw [hplan] at hplanned
  cases hplanned with
  | withCharacter about fails rolls =>
    unfold step at hstep
    rw [hstage] at hstep ⊢
    obtain ⟨visit, hvisit, rfl⟩ := Option.map_eq_some_iff.1 hstep
    cases hprogress : visit.progress with
    | going next => exact .goesOn about hkey (fun r hr => by cases hr) rfl
    | ended answer =>
      obtain ⟨result, hdone, hstore, hverdict⟩ := verdict_afterLoading t lock hplan answer
        (show ((w.withStore visit.store).record t.trace visit.notes).entropy = w.entropy from rfl)
      dsimp only
      rw [hdone]
      exact .loads about hvisit hprogress hstore hverdict

end Task

section Stands

variable {o : Order} {x : Toss}

/-- Where a task that asks for dice can be. -/
inductive Toss.Stands (x : Toss) : Stage → Prop
  | ready : Stands x .ready
  | done {r : Except Error Reply} : Stands x (.done r)
  | queued {lock : Nat} {channel user : Value} {use : Use} {key : Key}
      (plan : x.intent.plan = .withCharacter channel user use)
      (isKey : Key.ofValues channel user = .ok key) : Stands x (.queued lock channel user use)
  | loading {lock : Nat} {channel user : Value} {use : Use} {key : Key}
      {phase : Phase (Purpose.borrow (.ask (.character channel user))).Answer}
      (plan : x.intent.plan = .withCharacter channel user use)
      (isKey : Key.ofValues channel user = .ok key) (reads : phase.transaction? = none) :
      Stands x (.loading lock channel user use phase)

theorem Order.Asks.plan_of_use? (hasks : o.Asks x) {channel user : Value} {use : Use}
    (h : (Call.execute o).use? = some (channel, user, use)) :
    x.intent.plan = .withCharacter channel user use := by
  rw [← hasks.plan]
  exact Call.use?_execute_eq_some_iff.1 h

theorem Order.Asks.stands_of_fits (hasks : o.Asks x) {st : Stage}
    (h : Task.Fits (.execute o) st) : x.Stands st := by
  cases st with
  | ready => exact .ready
  | done r => exact .done
  | queued lock channel user use =>
    obtain ⟨huse, key, hkey⟩ := h
    exact .queued (hasks.plan_of_use? huse) hkey
  | loading lock channel user use phase =>
    obtain ⟨huse, ⟨key, hkey⟩, hreads⟩ := h
    exact .loading (hasks.plan_of_use? huse) hkey hreads
  | saving lock channel user adjustment changed phase =>
    -- dice are rolled for no adjustment
    have hplanned := x.planned
    rw [hasks.plan_of_use? h.1] at hplanned
    cases hplanned with
    | withCharacter _ _ rolls =>
      obtain ⟨number, hnumber, -⟩ := rolls changed
      cases hnumber
  | queuedToHold | holding =>
    obtain ⟨hnone, key, hkey⟩ := h
    obtain ⟨_, _, hholds⟩ := Call.exists_holdLock hnone hkey
    cases hholds
  | visiting | closing => cases h

/-- **Every step of a task that asks for dice** decides about them, or leads to loading the record
that decides. -/
theorem Task.advances_of_step {id : Nat} {w : World} {t : Task} {choice : Choice}
    {r : World × Task} (hcall : t.call = .execute o) (hasks : o.Asks x) (hfits : Fits t.call t.stage)
    (hstep : t.step id choice w = some r) : x.Advances id w r.1 t.stage r.2.stage := by
  rw [hcall] at hfits
  have hstands := hasks.stands_of_fits hfits
  generalize hstage : t.stage = st at hstands
  cases hstands with
  | ready =>
    unfold step at hstep
    rw [hstage] at hstep
    cases choice with
    | go =>
      simp only [advance, hstage, Option.some.injEq] at hstep
      obtain ⟨hstore, hlocks, hbegun, -⟩ := beginTrace_spec w t
      have hdice : (beginTrace w t).1.entropy = w.entropy := by
        unfold beginTrace
        split <;> rfl
      rw [← hstep]
      exact advances_begin (hbegun.trans hcall) hasks hstore hlocks hdice
    | expire | fail | finish => cases hstep
  | done =>
    rw [step_done hstage] at hstep
    cases hstep
  | queued plan isKey =>
    have hplanned := x.planned
    rw [plan] at hplanned
    unfold step at hstep
    rw [hstage] at hstep
    cases hplanned with
    | withCharacter about fails rolls =>
      cases choice with
      | go =>
        simp only [advance, hstage] at hstep
        split at hstep
        · cases hstep
          exact .goesOn about isKey (fun r hr => by cases hr) rfl
        · cases hstep
      | expire | fail | finish => cases hstep
  | loading plan isKey =>
    rw [← hstage]
    exact advances_of_loading plan isKey hstage hstep

/-! ### The way to the end -/

/-- How many steps a task that asks for dice takes at most until it ends, while nobody else
moves. -/
def Stage.stepsLeft (pool : Pool) : Stage → Nat
  | ready => 3 * pool.size.toNat + pool.tracked.length + 15
  | queued .. => 3 * pool.size.toNat + pool.tracked.length + 14
  | loading _ _ _ _ phase => phase.stepsLeft pool + 1
  | _ => 0

/-- **Every step leaves a task that asks for dice fewer steps.** -/
theorem Task.Moves.stepsLeft_lt {id : Nat} {s s' : Store} {l l' : KeyLocks} {st st' : Stage}
    (h : Task.Moves id (.execute o) s l st s' l' st')
    (hstands : x.Stands st) : st'.stepsLeft s'.pool < st.stepsLeft s.pool := by
  cases hstands with
  | ready =>
    cases h with
    | refuse | rollAtOnce | reach =>
      simp only [Stage.stepsLeft]
      omega
    | closeNothing closes | goClosing closes | closeAtOnce closes => cases closes
    | goVisiting purpose => cases purpose
    | reachToHold holds => cases holds
  | done => cases h
  | queued =>
    cases h with
    | acquire =>
      simp only [Stage.stepsLeft, Phase.stepsLeft]
      omega
  | loading =>
    cases h with
    | load move =>
      have hlt := move.stepsLeft_lt
      simp only [Stage.stepsLeft]
      omega
    | loadFails | used | cannotAdjust | adjusts =>
      simp only [Stage.stepsLeft]
      omega

/-- **A task that asks for dice goes on until it has ended**, unless it waits for others. -/
theorem Task.goes_on_of_stands {t : Task} (hstands : x.Stands t.stage) (id : Nat)
    (w : World) : (∃ r, t.stage = .done r) ∨ Waits id w t.stage ∨
      ∃ choice, (t.step id choice w).isSome = true := by
  generalize hstage : t.stage = st at hstands
  cases hstands with
  | ready => exact .inr (.inr ⟨.go, by simp [step, advance, hstage]⟩)
  | done => exact .inl ⟨_, rfl⟩
  | @queued lock _ _ _ _ _ _ =>
    cases hfirst : w.locks.isHeldBy lock id with
    | true => exact .inr (.inr ⟨.go, by simp [step, advance, hstage, hfirst]⟩)
    | false => exact .inr (.inl (.inl ⟨lock, rfl, hfirst⟩))
  | loading _ _ reads =>
    obtain ⟨choice, visit, hvisit⟩ | ⟨rfl, hothers⟩ := Visit.exists_step_of_ask id w.store reads
    · exact .inr (.inr ⟨choice, by simp only [step, hstage, Task.visit, hvisit]; rfl⟩)
    · exact .inr (.inl (.inr ⟨_, rfl, hothers⟩))

end Stands

namespace System

variable {s s' : System} {id : Nat} {choice : Choice}

/-- How many steps the task takes at most until it ends, if it asks for dice and nobody else
moves. -/
def stepsLeft (s : System) (id : Nat) : Nat :=
  match s.tasks[id]? with
  | some t => t.stage.stepsLeft s.world.store.pool
  | none => 0

/-- A task that is on its way has not ended. -/
theorem result?_of_stage {t : Task} (ht : s.tasks[id]? = some t) (hgoing : ∀ r, t.stage ≠ .done r) :
    s.result? id = none := by
  rw [Option.eq_none_iff_forall_ne_some]
  intro r hr
  obtain ⟨u, hu, hdone⟩ := result?_eq_some_iff.1 hr
  rw [ht, Option.some.injEq] at hu
  subst hu
  exact hgoing r hdone

/-- **A task waits only for another one that has not ended.** -/
theorem Sound.exists_before (h : s.Sound) (hwaits : s.Waits id) :
    ∃ other t, other ≠ id ∧ s.tasks[other]? = some t ∧ s.result? other = none := by
  obtain ⟨t, ht, ⟨lock, hqueued, hfirst⟩ | ⟨p, hvisit, hturn⟩⟩ := hwaits
  · obtain ⟨key, hkey⟩ := Task.key?_of_fits (h.fits id t ht) hqueued
    have hst : s.standing id = some ⟨lock, key, false⟩ := by
      rw [standing, ht]
      exact Task.standing?_of_lock? hqueued hkey
    obtain ⟨other, st', hst', -, -, hbefore⟩ := h.exists_first hst
    obtain ⟨u, hu, hstanding⟩ := Option.bind_eq_some_iff.1 hst'
    refine ⟨other, u, ?_, hu, result?_of_stage hu ?_⟩
    · rintro rfl
      rw [hfirst] at hbefore
      cases hbefore
    · intro r hr
      have hlock := Task.lock?_of_standing? hstanding
      rw [hr] at hlock
      cases hlock
  · have hopenings := h.store.openings
    have hline : id ∈ s.world.store.pool.opening := by
      rw [hopenings.line, visits, ht, Option.bind_some, hvisit]
      rfl
    cases hopening : s.world.store.pool.opening with
    | nil =>
      rw [hopening] at hline
      cases hline
    | cons other rest =>
      have hother := (hopenings.line other).1 (by rw [hopening]; exact List.mem_cons_self)
      cases hu : s.tasks[other]? with
      | none => simp [visits, hu, Visiting.isInLine, Visiting.yields] at hother
      | some u =>
        refine ⟨other, u, ?_, hu, result?_of_stage hu ?_⟩
        · rintro rfl
          exact hturn (by rw [hopening]; rfl)
        · intro r hr
          simp [visits, hu, hr, Stage.visit?, Visiting.isInLine, Visiting.yields] at hother

end System

/-! ### Runs -/

namespace Run

variable {w : World} {calls : List Call} {s₀ s : System} {es : List Event} {id : Nat} {o : Order}
  {x : Toss}

/-- A task that has ended in a run has done so in a step on its way. -/
theorem exists_last_step (h : Run s₀ es s) (hstart : s₀.result? id = none) {r : Except Error Reply}
    (hdone : s.result? id = some r) :
    ∃ s₁ s₂, Passes s₀ es s id s₁ s₂ ∧ s₁.result? id = none ∧ s₂.result? id = some r := by
  induction h with
  | start =>
    rw [hstart] at hdone
    cases hdone
  | @step es s s' other choice run step ih =>
    cases hbefore : s.result? id with
    | some r' =>
      have hkept := System.result?_of_step step hbefore
      rw [hdone, Option.some.injEq] at hkept
      obtain ⟨s₁, s₂, hpasses, hgoing, hended⟩ := ih (hkept ▸ hbefore)
      exact ⟨s₁, s₂, hpasses.step step, hgoing, hended⟩
    | none =>
      obtain rfl := System.eq_of_ends step hbefore hdone
      exact ⟨s, s', .last run step, hbefore, hdone⟩
  | forget _ ih =>
    obtain ⟨s₁, s₂, hpasses, hgoing, hended⟩ := ih hdone
    exact ⟨s₁, s₂, hpasses.forget, hgoing, hended⟩

/-- A task has still the call that it was started with. -/
theorem task_of_call (h : Run (System.start w calls) es s) {call : Call}
    (hcall : calls[id]? = some call) {t : Task} (ht : s.tasks[id]? = some t) :
    t.call = call ∧ Task.Fits t.call t.stage := by
  obtain ⟨u, hu, hsame, hfits⟩ := h.exists_task hcall
  rw [ht, Option.some.injEq] at hu
  exact hu ▸ ⟨hsame, hfits⟩

/-- The step of a task on the way of a run. -/
theorem advances_of_passes (hcall : calls[id]? = some (.execute o)) (hasks : o.Asks x)
    {s₁ s₂ : System} (hpasses : Passes (System.start w calls) es s id s₁ s₂) :
    ∃ t₁ t₂, s₁.tasks[id]? = some t₁ ∧ s₂.tasks[id]? = some t₂ ∧
      x.Advances id s₁.world s₂.world t₁.stage t₂.stage := by
  obtain ⟨es₁, choice, es₂, hrun, hstep, -⟩ := hpasses
  obtain ⟨t₁, t₂, ht₁, htask, ht₂, -⟩ := System.exists_task_step hstep
  obtain ⟨hexecutes, hfits⟩ := hrun.task_of_call hcall ht₁
  exact ⟨t₁, t₂, ht₁, ht₂, Task.advances_of_step hexecutes hasks hfits htask⟩

/-- A task that asks for dice changes no row on its way. -/
theorem rows_of_passes (hrest : w.AtRest) (hone : w.store.OneDatabase)
    (hopen : ∀ call, call ∈ calls → call ≠ .closePool)
    (hreads : ∀ e, Call.borrow e ∈ calls → ¬ (Purpose.borrow e).IsTransaction)
    (hcall : calls[id]? = some (.execute o)) (hasks : o.Asks x) {s₁ s₂ : System}
    (hpasses : Passes (System.start w calls) es s id s₁ s₂) : s₂.rows = s₁.rows := by
  obtain ⟨es₁, choice, es₂, hrun, hstep, -⟩ := hpasses
  have hsound := System.sound_start hrest hopen
  have hdatabase := hrun.oneDatabase hsound (System.oneDatabase_start hone hreads)
  obtain ⟨t, t', ht, hset, -, hmove⟩ := System.moves_of_step hstep
  obtain ⟨hexecutes, hfits⟩ := hrun.task_of_call hcall ht
  obtain ⟨changed, hcommits, -⟩ | ⟨hrows, -⟩ :=
    System.rows_of_move (hrun.sound hsound) hdatabase ht hset hmove
  · rw [hexecutes] at hfits
    have hstands := hasks.stands_of_fits hfits
    generalize t.stage = st at hstands hcommits
    generalize t'.stage = st' at hcommits
    cases hcommits
    cases hstands
  · exact hrows

/-- **What dice are refused for, and in which order.**  In every run of any tasks, each step of a
task that asks for dice decides about them by `Toss.verdict`, without the pool if the name or the
number is refused or there is nothing to load, or else leads to the step in which loading ends, and
draws nothing before.  No step changes a row.  The task goes on until it has ended, unless it waits
for another that has not, and every step takes it nearer to its end.  A resistance has four dice at
most.  A pool that is resolved takes as many faces as it has dice, or two. -/
theorem toss_precedence (hrun : Run (System.start w calls) es s)
    (hcall : calls[id]? = some (.execute o)) (hasks : o.Asks x) :
    (∀ s₁ s₂, Passes (System.start w calls) es s id s₁ s₂ →
      ∃ t₁ t₂, s₁.tasks[id]? = some t₁ ∧ s₂.tasks[id]? = some t₂ ∧
        x.Advances id s₁.world s₂.world t₁.stage t₂.stage) ∧
    (∀ r, s.result? id = some r → ∃ s₁ s₂, Passes (System.start w calls) es s id s₁ s₂ ∧
      s₁.result? id = none ∧ s₂.result? id = some r) ∧
    (w.AtRest → w.store.OneDatabase → (∀ call, call ∈ calls → call ≠ .closePool) →
      (∀ e, Call.borrow e ∈ calls → ¬ (Purpose.borrow e).IsTransaction) →
      ∀ s₁ s₂, Passes (System.start w calls) es s id s₁ s₂ → s₂.rows = s₁.rows) ∧
    (s.result? id = none → s.Waits id ∨ ∃ choice, (s.step id choice).isSome = true) ∧
    (w.AtRest → (∀ call, call ∈ calls → call ≠ .closePool) → s.Waits id →
      ∃ other t, other ≠ id ∧ s.tasks[other]? = some t ∧ s.result? other = none) ∧
    (∀ choice s', s.step id choice = some s' → s'.stepsLeft id < s.stepsLeft id) ∧
    (∀ channel user name key, x = .resistance channel user name → x.about? = some key →
      ∀ c, ∃ n : Nat, n ≤ 4 ∧ ∀ dice, x.verdict (.ok c) dice = tossed n dice) ∧
    ∀ (number : Int) (dice left : Entropy) (faces : List Int), 0 ≤ number → number ≤ 100 →
      dice.Shows faces left → faces.length = (if number = 0 then 2 else number.toNat) →
      tossed number dice = (.ok (.outcome (outcomeOf number faces)), left) := by
  obtain ⟨t, ht, hexecutes, hfits⟩ := hrun.exists_task hcall
  have hstands : x.Stands t.stage := hasks.stands_of_fits (hexecutes ▸ hfits)
  have hgoing : (System.start w calls).result? id = none := by
    obtain ⟨u, hu, -, -⟩ := (Run.start : Run (System.start w calls) [] _).exists_task hcall
    refine System.result?_of_stage hu fun r hr => ?_
    rw [(System.stage_of_start hu).2] at hr
    cases hr
  refine ⟨fun s₁ s₂ => advances_of_passes hcall hasks, fun r => hrun.exists_last_step hgoing,
    ?_, ?_, ?_, ?_, ?_, ?_⟩
  · intro hrest hone hopen hreads s₁ s₂
    exact rows_of_passes hrest hone hopen hreads hcall hasks
  · intro hnone
    obtain ⟨r, hdone⟩ | hwaits | ⟨choice, hstep⟩ := Task.goes_on_of_stands hstands id s.world
    · rw [System.result?_eq_some_iff.2 ⟨t, ht, hdone⟩] at hnone
      cases hnone
    · exact .inl ⟨t, ht, hwaits⟩
    · exact .inr ⟨choice, by simpa [System.step, ht] using hstep⟩
  · intro hrest hopen hwaits
    exact (hrun.sound (System.sound_start hrest hopen)).exists_before hwaits
  · intro choice s' hstep
    obtain ⟨u, u', hu, hset, -, hmove⟩ := System.moves_of_step hstep
    rw [ht, Option.some.injEq] at hu
    subst hu
    rw [hexecutes] at hmove
    have hlt := hmove.stepsLeft_lt hstands
    simpa only [System.stepsLeft, ht, (System.tasks_of_set ht hset).1] using hlt
  · rintro channel user name key rfl habout c
    cases hname : Attribute.named? name with
    | none => simp [Toss.about?, hname] at habout
    | some which =>
      refine ⟨c.attributeRating which, c.attributeRating_le which, fun dice => ?_⟩
      simp only [Toss.verdict, hname, onceLoaded]
  · intro number dice left faces hleast hgreatest hshows hlength
    exact tossed_of_shows hleast hgreatest hshows hlength

/-- A character with a rating of three in every action rolls with 98 dice more. -/
def greedyToss : Toss := .action (.text "c") (.text "u") (.text "hack") 98

/-- A file with the row of that character, one connection and one face. -/
def greedyWorld : World :=
  World.withRow ⟨"c", "u", .ofFn fun _ => Rating.clamp 3⟩ 1 (.script 0 [.int 6])

/-- The number of dice that a call has been refused for. -/
def tooMany? : Except Error Reply → Option Int
  | .error (.badPool ⟨.tooLarge, .int number⟩) => some number
  | _ => none

/-- The record is loaded, and only the sum is too large.  The refusal names it, and no row is
changed. -/
theorem toss_precedence_of_greedy :
    ∃ (es : List Event) (s s₁ s₂ : System) (t₁ t₂ : Task) (r : Except Error Reply),
      Run (System.start greedyWorld [.execute (.command greedyToss.intent)]) es s ∧
      s.result? 0 = some r ∧ tooMany? r = some 101 ∧
      s₁.tasks[0]? = some t₁ ∧ s₂.tasks[0]? = some t₂ ∧ t₂.stage = .done r ∧
      greedyToss.Advances 0 s₁.world s₂.world t₁.stage t₂.stage ∧ s₂.rows = s₁.rows := by
  have hview : ((System.start greedyWorld [.execute (.command greedyToss.intent)]).follow
      (List.replicate 9 (0, .go))).map (fun r => (r.2.result? 0).map tooMany?) =
        some (some (some 101)) := by decide +kernel
  obtain ⟨⟨es, s⟩, hfollow, hview⟩ := Option.map_eq_some_iff.1 hview
  obtain ⟨r, hdone, hrefused⟩ := Option.map_eq_some_iff.1 hview
  have hrun := Run.start.of_follow hfollow
  have hcall : [Call.execute (.command greedyToss.intent)][0]? =
    some (.execute (.command greedyToss.intent)) := rfl
  have hasks : Order.Asks (.command greedyToss.intent) greedyToss := ⟨rfl, by decide +kernel⟩
  obtain ⟨hsteps, hends, hrows, -⟩ := toss_precedence hrun hcall hasks
  obtain ⟨s₁, s₂, hpasses, -, hended⟩ := hends r hdone
  obtain ⟨t₁, t₂, ht₁, ht₂, hadvances⟩ := hsteps s₁ s₂ hpasses
  obtain ⟨u, hu, hstage⟩ := System.result?_eq_some_iff.1 hended
  rw [ht₂, Option.some.injEq] at hu
  subst hu
  exact ⟨_, s, s₁, s₂, t₁, t₂, r, hrun, hdone, hrefused, ht₁, ht₂, hstage, hadvances,
    hrows (World.atRest_world ..) (World.oneDatabase_withRow ..) (by simp) (by simp) s₁ s₂ hpasses⟩

/-- The least number of plain dice that cannot be written. -/
def unwritableToss : Toss := .plain (Number.tenTo Number.mostDigits)

/-- An action of a character whose name and bonus are right. -/
def soundToss : Toss := .action (.text "c") (.text "u") (.text "hack") 0

/-- Whether a call has ended because an integer cannot be written. -/
def isUnwritten : Except Error Reply → Bool
  | .error .tooManyDigits => true
  | _ => false

/-- **Not every toss is refused as it should be.**  The command to roll more dice than can be written
fails, and not for their number.  And a roll that comes to a connection in memory that has been broken
off fails with a fault that is no error of the storage. -/
theorem not_all_tosses_refused :
    (∃ es s, Run (System.start World.inMemory [.execute (.command unwritableToss.intent)]) es s ∧
      s.result? 0 = some (.error .tooManyDigits) ∧
      ∀ load dice, unwritableToss.verdict load dice =
        (.error (.badPool ⟨.tooLarge, .int (Number.tenTo Number.mostDigits)⟩), dice)) ∧
    ∃ es s, Run (System.start World.inMemory [.borrow .breakConnection,
        .execute (.command soundToss.intent)]) es s ∧
      s.result? 1 = some (.error (.fault .inactive)) ∧
      ∀ key, ¬ (Error.fault .inactive).IsOfStorage key := by
  refine ⟨?_, ?_⟩
  · have hview : ((System.start World.inMemory [.execute (.command unwritableToss.intent)]).follow
        [(0, .go)]).map (fun r => (r.2.result? 0).map isUnwritten) = some (some true) := by
      decide +kernel
    obtain ⟨es, s, hrun, hview⟩ := exists_of_view (fun s => (s.result? 0).map isUnwritten) hview
    obtain ⟨result, hresult, hunwritten⟩ := Option.map_eq_some_iff.1 hview
    refine ⟨es, s, hrun, hresult.trans ?_, ?_⟩
    · unfold isUnwritten at hunwritten
      split at hunwritten
      · rfl
      · cases hunwritten
    · have hlarge : (100 : Int) < Number.tenTo Number.mostDigits := by decide +kernel
      intro load dice
      rw [unwritableToss, Toss.verdict, withinLimits, if_neg (by omega), if_pos hlarge]
  · have hview : ((System.start World.inMemory [.borrow .breakConnection,
        .execute (.command soundToss.intent)]).follow
          (List.replicate 6 (0, .go) ++ List.replicate 5 (1, .go))).map
            (fun r => (r.2.result? 1).map fault?) = some (some (some .inactive)) := by
      decide +kernel
    obtain ⟨es, s, hrun, hview⟩ := exists_of_view (fun s => (s.result? 1).map fault?) hview
    obtain ⟨result, hresult, hfault⟩ := Option.map_eq_some_iff.1 hview
    exact ⟨es, s, hrun, hresult.trans (congrArg some (eq_of_fault? hfault)), fun key h => nomatch h⟩

end Run

end CharacterLedger.Ledger
