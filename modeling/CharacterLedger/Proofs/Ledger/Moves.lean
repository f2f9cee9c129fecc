import CharacterLedger.Ledger.System
import CharacterLedger.Proofs.Ledger.Locks
import CharacterLedger.Proofs.Storage.Closing
import CharacterLedger.Proofs.Storage.Rest

/-!
# The moves of a task

A step of a task takes it from one stage to another, with one change of the store and one of the
locks.  This module lists the moves a task can make, one rule each, and shows that every step is one
of them.  The log, the dice and the trace numbers are left out.

* `Call.intent?`, `Call.use?`, `Call.key?` — the intent and the character that a call is about, and
  the key of its lock;
* `Call.refusal?` — the error that a call is refused with at once;
* `Task.Moves` — a move, from a stage, a store and locks to others;
* `Task.moves_of_step`, `System.moves_of_step` — every step is a move;
* `Stage.visit?`, `Stage.closing?`, `Task.Moves.visits` — what a move does to the visit of the task,
  or to the connection that it is closing;
* `Stage.lock?`, `Task.Moves.locking` — what a move does to the locks;
* `Task.Fits`, `Task.Moves.fits` — a stage is always one that the call of the task can come to.
-/

namespace CharacterLedger.Ledger

open CharacterLedger.Storage

/-! ### Calls and stages -/

namespace Call

/-- The intent that a call is an order for. -/
def intent? : Call → Option Intent
  | execute o => some o.intent
  | rating .. | borrow _ | openPool | closePool | holdLock .. => none

/-- The character that a call is about, and what is done with it. -/
def use? : Call → Option (Value × Value × Use)
  | execute o =>
    match o.plan with
    | .withCharacter channel user use => some (channel, user, use)
    | .refuse _ | .rollDice _ => none
  | rating channel user name =>
    match readAction name with
    | .ok a => some (channel, user, .rating a)
    | .error _ => none
  | borrow _ | openPool | closePool | holdLock .. => none

/-- The key whose lock a call needs. -/
def key? : Call → Option Key
  | holdLock channel user => (Key.ofValues channel user).toOption
  | call => call.use?.bind fun about => (Key.ofValues about.1 about.2.1).toOption

/-- The error of a channel and a user that are no key. -/
def keyRefusal? (channel user : Value) : Option Error :=
  match Key.ofValues channel user with
  | .error m => some (.mismatch m)
  | .ok _ => none

/-- The error that a call is refused with before anything is read. -/
def refusal? : Call → Option Error
  | execute o =>
    match o.plan with
    | .refuse e => some e
    | .rollDice _ => none
    | .withCharacter channel user _ => keyRefusal? channel user
  | rating channel user name =>
    match readAction name with
    | .error e => some e
    | .ok _ => keyRefusal? channel user
  | holdLock channel user => keyRefusal? channel user
  | borrow _ | openPool | closePool => none

/-- What a call that takes no lock goes to the pool for. -/
def purpose? : Call → Option Purpose
  | borrow e => some (.borrow e)
  | openPool => some .openPool
  | execute _ | rating .. | closePool | holdLock .. => none

theorem key?_of_use? {call : Call} {channel user : Value} {use : Use}
    (h : call.use? = some (channel, user, use)) :
    call.key? = (Key.ofValues channel user).toOption := by
  cases call with
  | execute | rating => simp [key?, h]
  | borrow | openPool | closePool | holdLock => cases h

/-- An order is about the character that its plan is about. -/
theorem use?_execute_eq_some_iff {o : Order} {channel user : Value} {use : Use} :
    (execute o).use? = some (channel, user, use) ↔ o.plan = .withCharacter channel user use := by
  rw [use?]
  cases o.plan <;> simp

/-- A call that needs a lock is about a character, unless it holds the lock for others. -/
theorem exists_holdLock {call : Call} {key : Key} (hnone : call.use? = none)
    (hkey : call.key? = some key) : ∃ channel user, call = .holdLock channel user := by
  cases call with
  | holdLock channel user => exact ⟨channel, user, rfl⟩
  | execute | rating | borrow | openPool | closePool => simp [key?, hnone] at hkey

end Call

namespace Stage

/-- The visit that a task is on. -/
def visit? : Stage → Option Visiting
  | visiting p phase => some ⟨p, phase⟩
  | loading _ channel user _ phase => some ⟨.borrow (.ask (.character channel user)), phase⟩
  | saving _ _ _ _ changed phase => some ⟨.borrow (.save changed), phase⟩
  | ready | closing _ | queued .. | queuedToHold _ | holding _ | done _ => none

/-- The lock that a task waits for or holds, and whether it holds it. -/
def lock? : Stage → Option (Nat × Bool)
  | queued lock .. | queuedToHold lock => some (lock, false)
  | loading lock .. | saving lock .. | holding lock => some (lock, true)
  | ready | visiting .. | closing _ | done _ => none

/-- The connection that a task is closing, which it has taken from the tracked ones. -/
def closing? : Stage → Option Nat
  | closing c => some c
  | _ => none

end Stage

/-- What comes of a character that has been read and is not to be changed. -/
def Use.Gives : Use → Character → Except Error Reply → Prop
  | rating a, c, r => r = .ok (.rating (c.rating a))
  | view, c, r => r = .ok (.character c)
  | roll .., _, r | resist _, _, r => (∃ o, r = .ok (.outcome o)) ∨ ∃ e, r = .error e
  | adjust .., _, _ => False

namespace Task

/-! ### Moves -/

/-- A move of the task `id`.  Whatever a rule does not mention stays as it is. -/
inductive Moves (id : Nat) (call : Call) (s : Store) (l : KeyLocks) :
    Stage → Store → KeyLocks → Stage → Prop
  /-- The call is refused at once. -/
  | refuse {e : Error} (refused : call.refusal? = some e) :
      Moves id call s l .ready s l (.done (.error e))
  /-- Dice are rolled at once. -/
  | rollAtOnce {r : Except Error Reply} {o : Order} {n : Value} (executes : call = .execute o)
      (rolls : o.plan = .rollDice n) :
      Moves id call s l .ready s l (.done r)
  /-- There is no pool to close. -/
  | closeNothing (closes : call = .closePool) (isClosed : s.pool.current = none) :
      Moves id call s l .ready s l (.done (.ok .done))
  /-- The task goes to the pool. -/
  | goVisiting {p : Purpose} (purpose : call.purpose? = some p) :
      Moves id call s l .ready s l (.visiting p .entering)
  /-- The task begins to close the pool, with the last tracked connection. -/
  | goClosing {c : Nat} (closes : call = .closePool) (last : s.pool.tracked.getLast? = some c) :
      Moves id call s l .ready (s.withPool s.pool.untrackLast) l (.closing c)
  /-- The task closes a pool that tracks no connection. -/
  | closeAtOnce (closes : call = .closePool) (empty : s.pool.tracked = []) :
      Moves id call s l .ready (s.withPool s.pool.shut) l (.done (.ok .done))
  /-- The task comes to the lock of a character. -/
  | reach {channel user : Value} {use : Use} {key : Key}
      (about : call.use? = some (channel, user, use))
      (isKey : Key.ofValues channel user = .ok key) :
      Moves id call s l .ready s (l.reach key id) (.queued (l.lockFor key).2 channel user use)
  /-- The task comes to a lock that it only holds. -/
  | reachToHold {channel user : Value} {key : Key} (holds : call = .holdLock channel user)
      (isKey : Key.ofValues channel user = .ok key) :
      Moves id call s l .ready s (l.reach key id) (.queuedToHold (l.lockFor key).2)
  /-- The task takes the lock. -/
  | acquire {lock : Nat} {channel user : Value} {use : Use} (first : l.isHeldBy lock id = true) :
      Moves id call s l (.queued lock channel user use) s l
        (.loading lock channel user use .entering)
  /-- The task takes a lock that it only holds. -/
  | acquireToHold {lock : Nat} (first : l.isHeldBy lock id = true) :
      Moves id call s l (.queuedToHold lock) s l (.holding lock)
  /-- One connection of the pool is closed, and the task takes the next. -/
  | closeNext {c d : Nat} (last : s.pool.tracked.getLast? = some d) :
      Moves id call s l (.closing c) ((s.close c).withPool s.pool.untrackLast) l (.closing d)
  /-- The last connection of the pool is closed, and with it the pool. -/
  | closed {c : Nat} (empty : s.pool.tracked = []) :
      Moves id call s l (.closing c) ((s.close c).withPool s.pool.shut) l (.done (.ok .done))
  /-- A visit that needs no lock goes on. -/
  | visit {p : Purpose} {phase next : Phase p.Answer} {t : Store}
      (move : Visit.Moves id p s phase t (.going next)) :
      Moves id call s l (.visiting p phase) t l (.visiting p next)
  /-- A visit that needs no lock ends. -/
  | visited {p : Purpose} {phase : Phase p.Answer} {t : Store} {r : p.Result}
      (move : Visit.Moves id p s phase t (.ended r)) :
      Moves id call s l (.visiting p phase) t l (.done (visited p r).2)
  /-- Loading goes on. -/
  | load {lock : Nat} {channel user : Value} {use : Use}
      {phase next : Phase (Purpose.borrow (.ask (.character channel user))).Answer} {t : Store}
      (move : Visit.Moves id (.borrow (.ask (.character channel user))) s phase t (.going next)) :
      Moves id call s l (.loading lock channel user use phase) t l
        (.loading lock channel user use next)
  /-- The record cannot be read. -/
  | loadFails {lock : Nat} {channel user : Value} {use : Use}
      {phase : Phase (Purpose.borrow (.ask (.character channel user))).Answer} {t : Store}
      {r : Errand.Result (.ask (.character channel user))} {e : Error}
      (move : Visit.Moves id (.borrow (.ask (.character channel user))) s phase t (.ended r))
      (fails : (loaded channel user r).2 = .error e) :
      Moves id call s l (.loading lock channel user use phase) t (l.release lock)
        (.done (.error e))
  /-- The record has been read, and that is all that was needed. -/
  | used {lock : Nat} {channel user : Value} {use : Use}
      {phase : Phase (Purpose.borrow (.ask (.character channel user))).Answer} {t : Store}
      {r : Errand.Result (.ask (.character channel user))} {c : Character}
      {result : Except Error Reply}
      (move : Visit.Moves id (.borrow (.ask (.character channel user))) s phase t (.ended r))
      (reads : (loaded channel user r).2 = .ok c) (gives : use.Gives c result) :
      Moves id call s l (.loading lock channel user use phase) t (l.release lock) (.done result)
  /-- The rating cannot be adjusted. -/
  | cannotAdjust {lock : Nat} {channel user : Value} {a : Action} {delta : Value}
      {phase : Phase (Purpose.borrow (.ask (.character channel user))).Answer} {t : Store}
      {r : Errand.Result (.ask (.character channel user))} {c : Character} {e : Error}
      (move : Visit.Moves id (.borrow (.ask (.character channel user))) s phase t (.ended r))
      (reads : (loaded channel user r).2 = .ok c) (fails : adjust c a delta = .error e) :
      Moves id call s l (.loading lock channel user (.adjust a delta) phase) t (l.release lock)
        (.done (.error e))
  /-- The rating is adjusted, and the record is to be written. -/
  | adjusts {lock : Nat} {channel user : Value} {a : Action} {delta : Value}
      {phase : Phase (Purpose.borrow (.ask (.character channel user))).Answer} {t : Store}
      {r : Errand.Result (.ask (.character channel user))} {c changed : Character}
      {adjustment : Adjustment}
      (move : Visit.Moves id (.borrow (.ask (.character channel user))) s phase t (.ended r))
      (reads : (loaded channel user r).2 = .ok c)
      (adjusted : adjust c a delta = .ok (adjustment, changed)) :
      Moves id call s l (.loading lock channel user (.adjust a delta) phase) t l
        (.saving lock channel user adjustment changed .entering)
  /-- Saving goes on. -/
  | save {lock : Nat} {channel user : Value} {adjustment : Adjustment} {changed : Character}
      {phase next : Phase (Purpose.borrow (.save changed)).Answer} {t : Store}
      (move : Visit.Moves id (.borrow (.save changed)) s phase t (.going next)) :
      Moves id call s l (.saving lock channel user adjustment changed phase) t l
        (.saving lock channel user adjustment changed next)
  /-- The record cannot be written. -/
  | saveFails {lock : Nat} {channel user : Value} {adjustment : Adjustment} {changed : Character}
      {phase : Phase (Purpose.borrow (.save changed)).Answer} {t : Store} {failure : Failure}
      {e : Error}
      (move : Visit.Moves id (.borrow (.save changed)) s phase t (.ended (.error failure)))
      (fails : (Ledger.saved changed (.error failure)).2 = .error e) :
      Moves id call s l (.saving lock channel user adjustment changed phase) t (l.release lock)
        (.done (.error e))
  /-- The record has been written. -/
  | saved {lock : Nat} {channel user : Value} {adjustment : Adjustment} {changed : Character}
      {phase : Phase (Purpose.borrow (.save changed)).Answer} {t : Store}
      (move : Visit.Moves id (.borrow (.save changed)) s phase t (.ended (.ok ()))) :
      Moves id call s l (.saving lock channel user adjustment changed phase) t (l.release lock)
        (.done (.ok (.adjusted adjustment.after)))
  /-- The task gives back a lock that it only held. -/
  | letGo {lock : Nat} : Moves id call s l (.holding lock) s (l.release lock) (.done (.ok .done))

/-! ### Every step is a move -/

theorem finish_spec (w : World) (t : Task) (r : Except Error Reply) :
    (finish w t r).1.store = w.store ∧ (finish w t r).1.locks = w.locks ∧
      (finish w t r).2.call = t.call ∧ (finish w t r).2.stage = .done r := by
  unfold finish
  cases t.call.context? <;> exact ⟨rfl, rfl, rfl, rfl⟩

theorem beginTrace_spec (w : World) (t : Task) :
    (beginTrace w t).1.store = w.store ∧ (beginTrace w t).1.locks = w.locks ∧
      (beginTrace w t).2.call = t.call ∧ (beginTrace w t).2.stage = t.stage := by
  unfold beginTrace
  split <;> exact ⟨rfl, rfl, rfl, rfl⟩

/-- Rolling leaves the store and the locks alone. -/
theorem store_finishRolling (w : World) (t : Task) (pool : Value) :
    (finishRolling w t pool).1.store = w.store ∧ (finishRolling w t pool).1.locks = w.locks := by
  unfold finishRolling
  rcases Dice.roll pool w.entropy with ⟨result, e⟩
  cases result with
  | ok o =>
    obtain ⟨hstore, hlocks, -⟩ := finish_spec { w with entropy := e } t (.ok (.outcome o))
    exact ⟨hstore, hlocks⟩
  | error err =>
    obtain ⟨hstore, hlocks, -⟩ := finish_spec { w with entropy := e } t (.error (.ofRoll err))
    exact ⟨hstore, hlocks⟩

/-- The outcome of a step is that of a move. -/
def Makes (id : Nat) (w : World) (t : Task) (r : World × Task) : Prop :=
  r.2.call = t.call ∧ Moves id t.call w.store w.locks t.stage r.1.store r.1.locks r.2.stage

section Steps

variable {id : Nat} {w w₁ : World} {t t₁ : Task}

/-- A move to the end is made by finishing the task. -/
theorem makes_finish {r : Except Error Reply} (hcall : t₁.call = t.call)
    (hmove : Moves id t.call w.store w.locks t.stage w₁.store w₁.locks (.done r)) :
    Makes id w t (finish w₁ t₁ r) := by
  obtain ⟨hstore, hlocks, hcall', hstage⟩ := finish_spec w₁ t₁ r
  refine ⟨hcall'.trans hcall, ?_⟩
  rw [hstore, hlocks, hstage]
  exact hmove

/-- A roll ends in an outcome or an error. -/
theorem makes_finishRolling {pool : Value} (hcall : t₁.call = t.call)
    (hmove : ∀ r : Except Error Reply, ((∃ o, r = .ok (.outcome o)) ∨ ∃ e, r = .error e) →
      Moves id t.call w.store w.locks t.stage w₁.store w₁.locks (.done r)) :
    Makes id w t (finishRolling w₁ t₁ pool) := by
  unfold finishRolling
  rcases Dice.roll pool w₁.entropy with ⟨result, entropy⟩
  cases result with
  | ok o => exact makes_finish hcall (hmove _ (.inl ⟨o, rfl⟩))
  | error e => exact makes_finish hcall (hmove _ (.inr ⟨_, rfl⟩))

theorem makes_reachLock {channel user : Value} {stage : Nat → Stage} (hcall : t₁.call = t.call)
    (hstore : w₁.store = w.store) (hlocks : w₁.locks = w.locks) (hready : t.stage = .ready)
    (hrefused : t.call.refusal? = Call.keyRefusal? channel user)
    (hmove : ∀ key, Key.ofValues channel user = .ok key →
      Moves id t.call w.store w.locks .ready w.store (w.locks.reach key id)
        (stage (w.locks.lockFor key).2)) :
    Makes id w t (reachLock id w₁ t₁ channel user stage) := by
  unfold reachLock
  cases hk : Key.ofValues channel user with
  | error m =>
    refine makes_finish hcall ?_
    rw [hstore, hlocks, hready]
    exact .refuse (hrefused.trans (by rw [Call.keyRefusal?, hk]))
  | ok key =>
    refine ⟨hcall, ?_⟩
    have := hmove key hk
    rw [← hlocks, ← hstore, ← hready] at this
    rw [← hlocks, ← hstore]
    exact this

/-- A task that goes on with closing the pool makes a move. -/
theorem makes_goOnClosing {closing : ClosingStep} (hcall : t₁.call = t.call)
    (hlocks : w₁.locks = w.locks)
    (hmove : Moves id t.call w.store w.locks t.stage closing.store w.locks
      (match closing.next with
      | none => .done (.ok .done)
      | some c => .closing c)) :
    Makes id w t (goOnClosing w₁ t₁ closing) := by
  unfold goOnClosing
  rcases closing with ⟨store, notes, next⟩
  rw [← hlocks] at hmove
  cases next with
  | none =>
    refine makes_finish hcall ?_
    rw [← hlocks]
    exact hmove
  | some c =>
    refine ⟨hcall, ?_⟩
    rw [← hlocks]
    exact hmove

/-- What a task begins with is a move. -/
theorem makes_begin (hcall : t₁.call = t.call) (hstore : w₁.store = w.store)
    (hlocks : w₁.locks = w.locks) (hready : t.stage = .ready) : Makes id w t (begin id w₁ t₁) := by
  unfold begin
  rw [hcall]
  cases hc : t.call with
  | execute o =>
    have huse : t.call.use? = match o.plan with
        | .withCharacter channel user use => some (channel, user, use)
        | .refuse _ | .rollDice _ => none := by
      rw [hc]
      rfl
    have hrefused : t.call.refusal? = match o.plan with
        | .refuse e => some e
        | .rollDice _ => none
        | .withCharacter channel user _ => Call.keyRefusal? channel user := by
      rw [hc]
      rfl
    dsimp only
    cases hp : o.plan with
    | refuse e =>
      rw [hp] at hrefused
      refine makes_finish hcall ?_
      rw [hstore, hlocks, hready]
      exact .refuse hrefused
    | rollDice n =>
      refine makes_finishRolling hcall ?_
      intro r _
      rw [hstore, hlocks, hready]
      exact .rollAtOnce hc hp
    | withCharacter channel user use =>
      rw [hp] at huse hrefused
      refine makes_reachLock hcall hstore hlocks hready hrefused ?_
      intro key hkey
      exact .reach huse hkey
  | rating channel user name =>
    have huse : t.call.use? = match readAction name with
        | .ok a => some (channel, user, .rating a)
        | .error _ => none := by
      rw [hc]
      rfl
    have hrefused : t.call.refusal? = match readAction name with
        | .error e => some e
        | .ok _ => Call.keyRefusal? channel user := by
      rw [hc]
      rfl
    simp only
    cases hn : readAction name with
    | error e =>
      rw [hn] at hrefused
      refine makes_finish hcall ?_
      rw [hstore, hlocks, hready]
      exact .refuse hrefused
    | ok a =>
      rw [hn] at huse hrefused
      refine makes_reachLock hcall hstore hlocks hready hrefused ?_
      intro key hkey
      exact .reach huse hkey
  | borrow e =>
    refine ⟨hcall, ?_⟩
    rw [hready, hc]
    show Moves id _ w.store w.locks .ready w₁.store w₁.locks _
    rw [hstore, hlocks]
    exact .goVisiting rfl
  | openPool =>
    refine ⟨hcall, ?_⟩
    rw [hready, hc]
    show Moves id _ w.store w.locks .ready w₁.store w₁.locks _
    rw [hstore, hlocks]
    exact .goVisiting rfl
  | closePool =>
    refine makes_goOnClosing hcall hlocks ?_
    rw [hready, hstore, beginClosing]
    cases hcurrent : w.store.pool.current with
    | none =>
      simp only [Pool.isOpen, hcurrent]
      exact .closeNothing hc hcurrent
    | some q =>
      simp only [Pool.isOpen, hcurrent, Option.isSome_some, if_true, closeRest]
      cases hlast : w.store.pool.tracked.getLast? with
      | none => exact .closeAtOnce hc (List.getLast?_eq_none_iff.1 hlast)
      | some c => exact .goClosing hc hlast
  | holdLock channel user =>
    refine makes_reachLock hcall hstore hlocks hready (by rw [hc]; rfl) ?_
    intro key hkey
    exact .reachToHold hc hkey

/-- A step of a visit is one of its moves, and the task goes on by what came of it. -/
theorem exists_of_visit {choice : Choice} {p : Purpose} {phase : Phase p.Answer}
    {stage : Phase p.Answer → Stage} {after : World → Task → p.Result → World × Task}
    {r : World × Task} (h : visit id w t choice p phase stage after = some r) :
    ∃ (w₁ : World) (next : Progress p.Answer), Visit.Moves id p w.store phase w₁.store next ∧
      w₁.locks = w.locks ∧ r = match next with
        | .going phase => (w₁, t.moveTo (stage phase))
        | .ended result => after w₁ t result := by
  unfold visit at h
  rw [Option.map_eq_some_iff] at h
  obtain ⟨st, hst, rfl⟩ := h
  exact ⟨(w.withStore st.store).record t.trace st.notes, st.progress, Visit.moves_of_step hst, rfl,
    rfl⟩

theorem makes_afterLoading {lock : Nat} {channel user : Value} {use : Use}
    {phase : Phase (Purpose.borrow (.ask (.character channel user))).Answer}
    {r : Errand.Result (.ask (.character channel user))}
    (hstage : t.stage = .loading lock channel user use phase) (hlocks : w₁.locks = w.locks)
    (hmove : Visit.Moves id (.borrow (.ask (.character channel user))) w.store phase w₁.store
      (.ended r)) :
    Makes id w t (afterLoading w₁ t lock channel user use r) := by
  have hreleased : ∀ w₂ : World, w₂.store = w₁.store → w₂.locks = w₁.locks →
      (release w₂ lock).store = w₁.store ∧ (release w₂ lock).locks = w.locks.release lock := by
    intro w₂ hs hl
    exact ⟨hs, by rw [← hlocks, ← hl]; rfl⟩
  unfold afterLoading
  rcases hl : loaded channel user r with ⟨notes, result⟩
  obtain ⟨hstore, hlocks'⟩ := hreleased (w₁.record t.trace notes) rfl rfl
  have hloaded : (loaded channel user r).2 = result := by rw [hl]
  cases result with
  | error e =>
    refine makes_finish rfl ?_
    rw [hstore, hlocks', hstage]
    exact .loadFails hmove hloaded
  | ok c =>
    have hgives : ∀ result, use.Gives c result →
        Moves id t.call w.store w.locks t.stage (release (w₁.record t.trace notes) lock).store
          (release (w₁.record t.trace notes) lock).locks (.done result) := by
      intro result hg
      rw [hstore, hlocks', hstage]
      exact .used hmove hloaded hg
    cases use with
    | rating a => exact makes_finish rfl (hgives _ rfl)
    | view => exact makes_finish rfl (hgives _ rfl)
    | resist which => exact makes_finishRolling rfl hgives
    | roll a bonus =>
      simp only [useRecord, rollWithBonus]
      split
      · exact makes_finish rfl (hgives _ (.inr ⟨_, rfl⟩))
      · exact makes_finishRolling rfl hgives
    | adjust a delta =>
      simp only [useRecord]
      split
      · next e he =>
        refine makes_finish rfl ?_
        rw [hstore, hlocks', hstage]
        exact .cannotAdjust hmove hloaded he
      · next adjustment changed hadjusted =>
        refine ⟨rfl, ?_⟩
        show Moves id _ w.store w.locks t.stage w₁.store w₁.locks _
        rw [hlocks, hstage]
        exact .adjusts hmove hloaded hadjusted

theorem makes_afterSaving {lock : Nat} {channel user : Value} {adjustment : Adjustment}
    {changed : Character} {phase : Phase (Purpose.borrow (.save changed)).Answer}
    {r : Errand.Result (.save changed)}
    (hstage : t.stage = .saving lock channel user adjustment changed phase)
    (hlocks : w₁.locks = w.locks)
    (hmove : Visit.Moves id (.borrow (.save changed)) w.store phase w₁.store (.ended r)) :
    Makes id w t (afterSaving w₁ t lock channel user adjustment changed r) := by
  cases r with
  | error failure =>
    refine makes_finish rfl ?_
    show Moves id _ w.store w.locks t.stage w₁.store (w₁.locks.release lock) _
    rw [hlocks, hstage]
    exact .saveFails hmove rfl
  | ok _ =>
    refine makes_finish rfl ?_
    show Moves id _ w.store w.locks t.stage w₁.store (w₁.locks.release lock) _
    rw [hlocks, hstage]
    exact .saved hmove

theorem makes_advance {r : World × Task} (h : advance id w t = some r) : Makes id w t r := by
  unfold advance at h
  cases hs : t.stage with
  | ready =>
    rw [hs] at h
    obtain ⟨hstore, hlocks, hcall, -⟩ := beginTrace_spec w t
    rw [← Option.some.inj h]
    exact makes_begin hcall hstore hlocks hs
  | queued lock channel user use =>
    rw [hs] at h
    simp only [Option.ite_none_right_eq_some, Option.some.injEq] at h
    obtain ⟨hfirst, rfl⟩ := h
    refine ⟨rfl, ?_⟩
    rw [hs]
    exact .acquire hfirst
  | queuedToHold lock =>
    rw [hs] at h
    simp only [Option.ite_none_right_eq_some, Option.some.injEq] at h
    obtain ⟨hfirst, rfl⟩ := h
    refine ⟨rfl, ?_⟩
    rw [hs]
    exact .acquireToHold hfirst
  | closing c =>
    rw [hs] at h
    rw [← Option.some.inj h]
    refine makes_goOnClosing rfl rfl ?_
    rw [hs, closeNext, closeRest, Store.close_pool]
    cases hlast : w.store.pool.tracked.getLast? with
    | none => exact .closed (List.getLast?_eq_none_iff.1 hlast)
    | some d => exact .closeNext hlast
  | visiting | loading | saving | holding | done =>
    rw [hs] at h
    cases h

/-- **Every step of a task is one of its moves.** -/
theorem moves_of_step {choice : Choice} {r : World × Task} (h : step id choice w t = some r) :
    Makes id w t r := by
  unfold step at h
  cases hs : t.stage with
  | visiting p phase =>
    rw [hs] at h
    obtain ⟨w₁, next, hmove, hlocks, rfl⟩ := exists_of_visit h
    cases next with
    | going phase' =>
      refine ⟨rfl, ?_⟩
      show Moves id _ w.store w.locks t.stage w₁.store w₁.locks _
      rw [hlocks, hs]
      exact .visit hmove
    | ended result =>
      refine makes_finish rfl ?_
      show Moves id _ w.store w.locks t.stage w₁.store w₁.locks _
      rw [hlocks, hs]
      exact .visited hmove
  | loading lock channel user use phase =>
    rw [hs] at h
    obtain ⟨w₁, next, hmove, hlocks, rfl⟩ := exists_of_visit h
    cases next with
    | going phase' =>
      refine ⟨rfl, ?_⟩
      show Moves id _ w.store w.locks t.stage w₁.store w₁.locks _
      rw [hlocks, hs]
      exact .load hmove
    | ended result => exact makes_afterLoading hs hlocks hmove
  | saving lock channel user adjustment changed phase =>
    rw [hs] at h
    obtain ⟨w₁, next, hmove, hlocks, rfl⟩ := exists_of_visit h
    cases next with
    | going phase' =>
      refine ⟨rfl, ?_⟩
      show Moves id _ w.store w.locks t.stage w₁.store w₁.locks _
      rw [hlocks, hs]
      exact .save hmove
    | ended result => exact makes_afterSaving hs hlocks hmove
  | holding lock =>
    rw [hs] at h
    cases choice with
    | finish =>
      rw [← Option.some.inj h]
      refine makes_finish rfl ?_
      rw [hs]
      exact .letGo
    | go | expire | fail => cases h
  | ready | closing | queued | queuedToHold | done =>
    rw [hs] at h
    cases choice with
    | go => exact makes_advance h
    | expire | fail | finish => cases h

end Steps

end Task

namespace Task

/-! ### Stages fit their calls -/

/-- A stage is one that the call can come to. -/
def Fits (call : Call) : Stage → Prop
  | .queued _ channel user use =>
    call.use? = some (channel, user, use) ∧ ∃ key, Key.ofValues channel user = .ok key
  | .loading _ channel user use phase =>
    call.use? = some (channel, user, use) ∧ (∃ key, Key.ofValues channel user = .ok key) ∧
      phase.transaction? = none
  | .saving _ channel user adjustment _ phase =>
    call.use? = some (channel, user, .adjust adjustment.action adjustment.delta) ∧
      (∃ key, Key.ofValues channel user = .ok key) ∧ phase.isReturning = false
  | .queuedToHold _ | .holding _ => call.use? = none ∧ ∃ key, call.key? = some key
  | .visiting p _ => call.purpose? = some p
  | .closing _ => call = .closePool
  | .ready | .done _ => True

/-- A step that ends an adjustment that succeeds, with the record that it has written. -/
inductive Commits : Stage → Stage → Character → Prop
  | adjusted {lock : Nat} {channel user : Value} {adjustment : Adjustment} {changed : Character}
      {phase : Phase (Purpose.borrow (.save changed)).Answer} :
      Commits (.saving lock channel user adjustment changed phase)
        (.done (.ok (.adjusted adjustment.after))) changed

/-- An adjustment ends while its task holds the lock. -/
theorem Commits.holds {st st' : Stage} {changed : Character} (h : Commits st st' changed) :
    ∃ lock, st.lock? = some (lock, true) := by
  cases h with
  | adjusted => exact ⟨_, rfl⟩

/-! ### What moves do to visits, closing and locks -/

section Effects

variable {id : Nat} {call : Call} {s s' : Store} {l l' : KeyLocks} {st st' : Stage}

/-- What a move of a task does to its visit. -/
inductive Visits (id : Nat) (call : Call) (s : Store) (st : Stage) (s' : Store) (st' : Stage) :
    Prop
  /-- The task is on none, but may go on one. -/
  | none (store : s' = s) (before : st.visit? = Option.none) (after : Visiting.IsIdle st'.visit?)
      (idle : st.closing? = Option.none ∧ st'.closing? = Option.none)
  /-- It is a move of that visit, and a transaction that succeeds is that of a record. -/
  | moves {p : Purpose} {phase : Phase p.Answer} {next : Progress p.Answer}
      (before : st.visit? = some ⟨p, phase⟩) (move : Visit.Moves id p s phase s' next)
      (after : Visiting.Follows next st'.visit?)
      (commits : ∀ a, next = .ended (.ok a) → p.IsTransaction →
        (∃ changed, Commits st st' changed) ∨ ∃ phase', st = .visiting p phase')
      (idle : st.closing? = Option.none ∧ st'.closing? = Option.none)
  /-- The task closes the pool. -/
  | closes (closing : call = .closePool ∨ st.closing? ≠ Option.none)
      (before : st.visit? = Option.none) (after : st'.visit? = Option.none)
      (closes : Closes (s.closeTaken st.closing?) s' st'.closing?)

theorem Moves.visits (h : Moves id call s l st s' l' st') : Visits id call s st s' st' := by
  cases h with
  | refuse | rollAtOnce | closeNothing | reach | reachToHold | acquireToHold | letGo =>
    exact .none rfl rfl (.inl rfl) ⟨rfl, rfl⟩
  | goVisiting | acquire => exact .none rfl rfl (.inr ⟨_, rfl⟩) ⟨rfl, rfl⟩
  | goClosing closes last => exact .closes (.inl closes) rfl rfl (.one last)
  | closeAtOnce closes empty => exact .closes (.inl closes) rfl rfl (.all empty)
  | closeNext last => exact .closes (.inr nofun) rfl rfl (.one last)
  | closed empty => exact .closes (.inr nofun) rfl rfl (.all empty)
  | visit move => exact .moves rfl move rfl (fun _ _ _ => .inr ⟨_, rfl⟩) ⟨rfl, rfl⟩
  | visited move => exact .moves rfl move (.inl rfl) (fun _ _ _ => .inr ⟨_, rfl⟩) ⟨rfl, rfl⟩
  | load move => exact .moves rfl move rfl (fun _ _ htransaction => htransaction.elim) ⟨rfl, rfl⟩
  | loadFails move | used move | cannotAdjust move =>
    exact .moves rfl move (.inl rfl) (fun _ _ htransaction => htransaction.elim) ⟨rfl, rfl⟩
  | adjusts move =>
    exact .moves rfl move (.inr ⟨_, rfl⟩) (fun _ _ htransaction => htransaction.elim) ⟨rfl, rfl⟩
  | save move => exact .moves rfl move rfl (fun _ hended => nomatch hended) ⟨rfl, rfl⟩
  | saveFails move => exact .moves rfl move (.inl rfl) (fun _ hended => nomatch hended) ⟨rfl, rfl⟩
  | saved move =>
    exact .moves rfl move (.inl rfl) (fun _ _ _ => .inl ⟨_, .adjusted⟩) ⟨rfl, rfl⟩

/-- A step that ends an adjustment is the last one of the visit that writes the record. -/
theorem Moves.saved_of_commits (h : Moves id call s l st s' l' st') {changed : Character}
    (hcommits : Commits st st' changed) (hfits : Fits call st) :
    ∃ phase, st.visit? = some ⟨.borrow (.save changed), phase⟩ ∧ st'.visit? = none ∧
      Visit.Moves id (.borrow (.save changed)) s phase s' (.ended (.ok ())) ∧
      phase.isReturning = false := by
  cases hcommits with
  | adjusted =>
    cases h with
    | saved move => exact ⟨_, rfl, rfl, move, hfits.2.2⟩

/-- A move leaves the locks alone, or the task comes to a lock, takes it or gives it back. -/
inductive Locking (id : Nat) (call : Call) (l : KeyLocks) (st : Stage) (l' : KeyLocks)
    (st' : Stage) : Prop
  | alone (locks : l' = l) (stage : st'.lock? = st.lock?)
  | reaches {key : Key} (isKey : call.key? = some key) (before : st.lock? = none)
      (locks : l' = l.reach key id) (after : st'.lock? = some ((l.lockFor key).2, false))
  | acquires {lock : Nat} (before : st.lock? = some (lock, false)) (locks : l' = l)
      (first : l.isHeldBy lock id = true) (after : st'.lock? = some (lock, true))
  | releases {lock : Nat} (before : st.lock? = some (lock, true)) (locks : l' = l.release lock)
      (after : st'.lock? = none)

theorem Moves.locking (h : Moves id call s l st s' l' st') : Locking id call l st l' st' := by
  cases h with
  | refuse | rollAtOnce | closeNothing | goVisiting | goClosing | closeAtOnce | closeNext | closed
  | visit | visited | load | adjusts | save => exact .alone rfl rfl
  | @reach channel user use key about isKey =>
    refine .reaches ?_ rfl rfl rfl
    rw [Call.key?_of_use? about, isKey]
    rfl
  | @reachToHold channel user key holds isKey =>
    refine .reaches ?_ rfl rfl rfl
    rw [holds]
    simp [Call.key?, isKey, Except.toOption]
  | acquire first | acquireToHold first => exact .acquires rfl rfl first rfl
  | loadFails | used | cannotAdjust | saveFails | saved | letGo => exact .releases rfl rfl rfl

/-- A task that is done moves no more. -/
theorem Moves.not_done {r : Except Error Reply} (h : Moves id call s l (.done r) s' l' st') :
    False := by
  cases h

/-- A move leads to a task that has begun. -/
theorem Moves.not_ready (h : Moves id call s l st s' l' .ready) : False := by
  cases h

end Effects

/-! ### Every stage fits -/

theorem adjust_eq_ok {c changed : Character} {a : Action} {delta : Value}
    {adjustment : Adjustment} (h : adjust c a delta = .ok (adjustment, changed)) :
    changedRating (c.rating a) delta = .ok adjustment.after ∧
      c.withField a.name adjustment.after = .ok changed ∧
      adjustment = ⟨a, delta, c.rating a, adjustment.after⟩ := by
  unfold adjust at h
  cases hr : changedRating (c.rating a) delta with
  | error m =>
    rw [hr] at h
    cases h
  | ok after =>
    rw [hr] at h
    simp only at h
    cases hw : c.withField a.name after with
    | error issues =>
      rw [hw] at h
      cases h
    | ok changed' =>
      rw [hw] at h
      cases h
      exact ⟨rfl, hw, rfl⟩

/-- A move leads to a stage that the call can come to. -/
theorem Moves.fits {id : Nat} {call : Call} {s s' : Store} {l l' : KeyLocks} {st st' : Stage}
    (h : Moves id call s l st s' l' st') (hfits : Fits call st) : Fits call st' := by
  cases h with
  | refuse | rollAtOnce | closeNothing | closeAtOnce | closed | visited | loadFails | used
  | cannotAdjust | saveFails | saved | letGo => exact trivial
  | goVisiting purpose => exact purpose
  | goClosing closes => exact closes
  | reach about isKey => exact ⟨about, _, isKey⟩
  | @reachToHold channel user key holds isKey =>
    subst holds
    exact ⟨rfl, key, by simp [Call.key?, isKey, Except.toOption]⟩
  | acquireToHold | closeNext | visit => exact hfits
  | acquire => exact ⟨hfits.1, hfits.2, rfl⟩
  | load move => exact ⟨hfits.1, hfits.2.1, move.asking hfits.2.2⟩
  | adjusts move reads adjusted =>
    obtain ⟨-, -, hadjustment⟩ := adjust_eq_ok adjusted
    obtain ⟨huse, hkey, -⟩ := hfits
    rw [hadjustment]
    exact ⟨huse, hkey, rfl⟩
  | save move =>
    obtain ⟨huse, hkey, -⟩ := hfits
    refine ⟨huse, hkey, ?_⟩
    cases hr : Phase.isReturning _ with
    | false => rfl
    | true =>
      obtain ⟨question, hp⟩ | hchange := move.returning hr
      · cases hp
      · exact hchange.elim

/-- Only a call to close the pool closes connections. -/
theorem closePool_of_fits {call : Call} {st : Stage} (hfits : Fits call st)
    (hclosing : st.closing? ≠ none) : call = .closePool := by
  cases st with
  | closing => exact hfits
  | ready | visiting | queued | loading | saving | queuedToHold | holding | done =>
    exact absurd rfl hclosing

/-- A task whose stage has a lock has the key that it is the lock of. -/
theorem key?_of_fits {call : Call} {st : Stage} (hfits : Fits call st) {lock : Nat} {holds : Bool}
    (hlock : st.lock? = some (lock, holds)) : ∃ key, call.key? = some key := by
  cases st with
  | queued =>
    obtain ⟨huse, key, hkey⟩ := hfits
    exact ⟨key, by rw [Call.key?_of_use? huse, hkey]; rfl⟩
  | loading | saving =>
    obtain ⟨huse, ⟨key, hkey⟩, -⟩ := hfits
    exact ⟨key, by rw [Call.key?_of_use? huse, hkey]; rfl⟩
  | queuedToHold | holding => exact hfits.2
  | ready | visiting | closing | done => cases hlock

end Task

/-- **Every step of a system is a move of one of its tasks.** -/
theorem System.moves_of_step {s s' : System} {id : Nat} {choice : Choice}
    (h : s.step id choice = some s') :
    ∃ t t', s.tasks[id]? = some t ∧ s'.tasks = s.tasks.set id t' ∧ t'.call = t.call ∧
      Task.Moves id t.call s.world.store s.world.locks t.stage s'.world.store s'.world.locks
        t'.stage := by
  unfold System.step at h
  cases ht : s.tasks[id]? with
  | none =>
    rw [ht] at h
    cases h
  | some t =>
    rw [ht] at h
    simp only [Option.map_eq_some_iff] at h
    obtain ⟨⟨w', t'⟩, hstep, rfl⟩ := h
    obtain ⟨hcall, hmove⟩ := Task.moves_of_step hstep
    exact ⟨t, t', rfl, rfl, hcall, hmove⟩

end CharacterLedger.Ledger
