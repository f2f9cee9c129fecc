import CharacterLedger.Session.Process

/-!
# How processes go on

A process begins its step, and goes on with it whenever something that it waits for is over.
-/

namespace CharacterLedger.Session

open CharacterLedger.Ledger CharacterLedger.Table

/-- How long tasks wait for a connection while all of them are taken, in nanoseconds. -/
def shortPatience : Nat := 10000000

namespace Course

/-- The end of a process, if there is an error, and else what it goes on with. -/
def orElse (c : Course) (i task : Nat) (go : Course → Course) : Course :=
  match c.result? task with
  | some (.error e) => c.finish i (.error e)
  | _ => go c

/-- The answer of a task. -/
def answerOf (c : Course) (task : Nat) : Except Error Answer :=
  match c.result? task with
  | some (.ok r) => .ok (.reply r)
  | some (.error e) => .error e
  | none => .ok .nothing

/-- The course at the last home. -/
def atLast (c : Course) : Course := c.withAgenda (c.agenda.enter c.agenda.lastHome)

/-- Whether the pool is open, as an answer. -/
def openness (c : Course) : Except Error Answer := .ok (.flag c.atLast.world.store.pool.isOpen)

/-- Changes the disk and ends. -/
def finishOnDisk (c : Course) (i : Nat) (f : Disk → Except Fault Disk) : Course :=
  let (answer, c) := c.onDisk f
  c.finish i answer

/-- Borrows one connection more, or goes on once there are enough. -/
def takeNext (c : Course) (i : Nat) (keepers : List Nat) (left : Nat) (step : Step) : Course :=
  match left with
  | left + 1 => c.call i (.borrow .keep) fun task => .taking (task :: keepers) left step
  | 0 =>
    let c := c.enterFor i
    let before := c.agenda.patience
    let (child, c) := c.addProcess (.within i) step
    let c := c.withAgenda { c.agenda with patience := shortPatience }
    (c.moveTo i (.starving keepers before child)).atOnce (.resume child)

/-- Begins a step at the last home. -/
def start (c : Course) (i : Nat) : Step → Course
  | .request (.error e) => c.finish i (.error e)
  | .request (.ok call) => c.call i call .calling
  | .gather steps =>
    match c.addParts i steps with
    | ([], c) => c.finish i (.ok (.all []))
    | (parts, c) => c.moveTo i (.gathering parts parts.length)
  | .hold channel user step => c.call i (.holdLock channel user) fun task => .locking task step
  | .starve step => c.takeNext i [] c.world.store.pool.size.toNat step
  | .info =>
    let pool := c.world.store.pool
    let locks := c.world.locks.size
    c.call i (.borrow (.ask .shape)) (.describing pool.isOpen pool.size locks)
  | .isOpen => c.finish i c.openness
  | .openPool times =>
    match c.addParts i (List.replicate times (.request (.ok .openPool))) with
    | ([], c) => c.finish i c.openness
    | (parts, c) => c.moveTo i (.opening parts parts.length)
  | .closePool => c.call i .closePool .closing
  | .reopen => c.call i .closePool .closingToReopen
  | .hide => c.finishOnDisk i fun d => d.rename directory hiddenDirectory
  | .restore => c.finishOnDisk i fun d => d.rename hiddenDirectory directory
  | .lock hold => c.finishOnDisk i (setHold (some hold))
  | .unlock => c.finishOnDisk i fun d => .ok d.releaseAll

/-- The first error among processes that have ended. -/
def firstError (c : Course) : List Nat → Option Error
  | [] => none
  | part :: parts =>
    match c.answer? part with
    | some (.error e) => some e
    | _ => firstError c parts

/-- The first error among tasks. -/
def firstFailure (c : Course) : List Nat → Option Error
  | [] => none
  | task :: tasks =>
    match c.result? task with
    | some (.error e) => some e
    | _ => firstFailure c tasks

/-- Gives back what tasks keep. -/
def letGo (c : Course) (tasks : List Nat) : Course :=
  c.withAgenda (tasks.foldl (fun a id => a.act id .finish) c.agenda)

/-- Whether somebody waits for the lock that a task holds. -/
def isWanted (c : Course) (holder : Nat) : Bool :=
  match c.agenda.system.tasks[holder]?.map Task.stage with
  | some (.holding lock) =>
    decide (1 < ((c.agenda.enterFor holder).system.world.locks.line lock).length)
  | _ => false

/-- Looks whether the step that was begun has ended, or the lock is wanted. -/
def look (c : Course) (i holder child : Nat) : Course :=
  if c.hasEnded child || c.isWanted holder then
    let c := c.enterFor i
    let locks := c.world.locks.size
    let blocked := !c.hasEnded child
    let c := c.letGo [holder]
    if blocked then c.moveTo i (.awaiting blocked locks child)
    else c.finish i (.ok (.held blocked locks (c.answer child)))
  else c.ask (.look i)

/-- Goes on with a step. -/
def goOn (c : Course) (i : Nat) : Progress → Course
  | .begun step => (c.settle i).start i step
  | .calling task => c.finish i (c.answerOf task)
  | .closing task => c.orElse i task fun c => c.finish i c.openness
  | .closingToReopen task =>
    c.orElse i task fun c => ((c.enterFor i).addHome.settle i).call i .openPool .reopening
  | .reopening task => c.orElse i task fun c => c.finish i (.ok .nothing)
  | .describing isOpen size locks task =>
    match c.result? task with
    | some (.ok (.shape version columns)) =>
      c.finish i (.ok (.info isOpen size locks version columns))
    | _ => c.orElse i task fun c => c.finish i (.ok .nothing)
  | .opening parts _ =>
    c.finish i (match c.firstError parts with
      | some e => .error e
      | none => c.openness)
  | .gathering parts _ => c.finish i (.ok (.all (parts.map c.answer)))
  | .locking holder step =>
    c.orElse i holder fun c =>
      let (child, c) := c.addProcess (.besides i) step
      ((c.ask (.resume child)).moveTo i (.looking holder child)).look i holder child
  | .looking holder child => c.look i holder child
  | .awaiting blocked locks child => c.finish i (.ok (.held blocked locks (c.answer child)))
  | .taking keepers left step =>
    match c.firstFailure keepers with
    | some e => (c.letGo keepers).finish i (.error e)
    | none => c.takeNext i keepers left step
  | .starving keepers before child =>
    let c := (c.letGo keepers).enterFor i
    let c := c.withAgenda { c.agenda with patience := before }
    c.finish i (.ok (.starved (c.answer child)))
  | .ended _ => c

/-- A process moves on to the point after the end of a part, and goes on if that was the last. -/
def countDown (c : Course) (i left : Nat) (progress : Nat → Progress) : Course :=
  let c := c.moveTo i (progress (left - 1))
  if left ≤ 1 then c.ask (.resume i) else c

/-- A process learns of the end of a part. -/
def endPart (c : Course) (i : Nat) : Course :=
  match c.progress? i with
  | some (.gathering parts left) => c.countDown i left (.gathering parts)
  | some (.opening parts left) => c.countDown i left (.opening parts)
  | _ => c

end Course

end CharacterLedger.Session
