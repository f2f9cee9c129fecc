import CharacterLedger.Ledger.Task.Character
import CharacterLedger.Storage.Closing
import CharacterLedger.Storage.Visit

/-!
# Steps of tasks

Tasks share a `World` and take turns; one step of a task is one change of the world, and between two
steps of a task others may have moved. A task that is about a character waits for the lock of that
character before it reads the record; the other calls take no lock.
-/

namespace CharacterLedger.Ledger

open CharacterLedger.Storage

namespace Task

/-! ### Visits that no lock protects -/

/-- What a visit past the ledger ends in. -/
def visited : (p : Purpose) → p.Result → List Log.Note × Except Error Reply
  | .borrow (.ask (.character channel user)), r =>
    let (notes, result) := loaded channel user r
    (notes, result.map .character)
  | .borrow (.save c), r =>
    let (notes, result) := saved c r
    (notes, result.map fun _ => .done)
  | .borrow (.ask .count), r =>
    let (notes, result) := counted r
    (notes, result.map .count)
  | .borrow (.ask .shape), .ok (version, columns) => ([], .ok (.shape version columns))
  | .borrow (.ask .rows), .ok rows => ([], (fetched rows).map .rows)
  | .borrow (.change _), .ok () => ([], .ok .done)
  | .borrow .breakConnection, .ok () => ([], .ok .done)
  | .borrow .keep, .ok () => ([], .ok .done)
  | .openPool, .ok () => ([], .ok .done)
  | _, .error failure => ([], .error (plainError failure))

/-- Goes on after a visit past the ledger. -/
def afterVisit (w : World) (t : Task) (p : Purpose) (r : p.Result) : World × Task :=
  let (notes, result) := visited p r
  finish (w.record t.trace notes) t result

/-! ### Steps -/

/-- Stands in the line of the lock for a character. -/
def reachLock (id : Nat) (w : World) (t : Task) (channel user : Value)
    (stage : Nat → Stage) : World × Task :=
  match Key.ofValues channel user with
  | .error m => finish w t (.error (.mismatch m))
  | .ok key =>
    let (locks, lock) := w.locks.lockFor key
    (w.withLocks (locks.join lock id), t.moveTo (stage lock))

/-- Goes on with closing the pool, or ends with it. -/
def goOnClosing (w : World) (t : Task) (closing : ClosingStep) : World × Task :=
  let w := (w.withStore closing.store).record t.trace closing.notes
  match closing.next with
  | none => finish w t (.ok .done)
  | some c => (w, t.moveTo (.closing c))

/-- Begins what the call comes to. -/
def begin (id : Nat) (w : World) (t : Task) : World × Task :=
  match t.call with
  | .execute o =>
    match o.plan with
    | .refuse e => finish w t (.error e)
    | .rollDice n => finishRolling w t n
    | .withCharacter channel user use =>
      reachLock id w t channel user fun lock => .queued lock channel user use
  | .rating channel user name =>
    match readAction name with
    | .error e => finish w t (.error e)
    | .ok a => reachLock id w t channel user fun lock => .queued lock channel user (.rating a)
  | .borrow e => (w, t.moveTo (.visiting (.borrow e) .entering))
  | .openPool => (w, t.moveTo (.visiting .openPool .entering))
  | .closePool => goOnClosing w t (beginClosing w.store)
  | .holdLock channel user => reachLock id w t channel user .queuedToHold

/-- A step of the visit that a task is on: the world with the store and the log after it, and the
task at the stage that the visit has got to, or what it goes on with after the visit. -/
def visit (id : Nat) (w : World) (t : Task) (choice : Choice) (p : Purpose)
    (phase : Phase p.Answer) (stage : Phase p.Answer → Stage)
    (after : World → Task → p.Result → World × Task) :
    Option (World × Task) :=
  (Visit.step id p choice phase w.store).map fun s =>
    let w := (w.withStore s.store).record t.trace s.notes
    match s.progress with
    | .going phase => (w, t.moveTo (stage phase))
    | .ended r => after w t r

/-- The next step of a task that waits for nothing but its turn. -/
def advance (id : Nat) (w : World) (t : Task) : Option (World × Task) :=
  match t.stage with
  | .ready =>
    let (w, t) := beginTrace w t
    some (begin id w t)
  | .queued lock channel user use =>
    if w.locks.isHeldBy lock id then some (w, t.moveTo (.loading lock channel user use .entering))
    else none
  | .queuedToHold lock =>
    if w.locks.isHeldBy lock id then some (w, t.moveTo (.holding lock)) else none
  | .closing c => some (goOnClosing w t (closeNext w.store c))
  | _ => none

/-- The step of a task by a choice, if the choice can be made. -/
def step (id : Nat) (choice : Choice) (w : World) (t : Task) : Option (World × Task) :=
  match t.stage with
  | .visiting p phase => visit id w t choice p phase (.visiting p) fun w t r => afterVisit w t p r
  | .loading lock channel user use phase =>
    visit id w t choice (.borrow (.ask (.character channel user))) phase
      (.loading lock channel user use) fun w t r => afterLoading w t lock channel user use r
  | .saving lock channel user a changed phase =>
    visit id w t choice (.borrow (.save changed)) phase (.saving lock channel user a changed)
      fun w t r => afterSaving w t lock channel user a changed r
  | .holding lock =>
    match choice with
    | .finish => some (finish (release w lock) t (.ok .done))
    | _ => none
  | _ =>
    match choice with
    | .go => advance id w t
    | _ => none

end Task

end CharacterLedger.Ledger
