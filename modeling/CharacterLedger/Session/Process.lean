import CharacterLedger.Session.Scene
import CharacterLedger.Session.Schedule
import CharacterLedger.Session.Step

/-!
# Processes

A process carries out one step of a session. It begins tasks and other processes and waits for them:
the parts of a gathering begin at turns of their own and report their ends, while the step that all
connections are taken for goes on in the turn of its process. A process that holds a lock looks at
each of its turns whether the step that it has begun has ended, or somebody waits for the lock.
-/

namespace CharacterLedger.Session

open CharacterLedger.Ledger CharacterLedger.Table

/-- What a process tells when it has come to its end. -/
inductive Link where
  /-- Nobody has begun it. -/
  | free
  /-- The process that waits for it goes on in the same turn. -/
  | within (process : Nat)
  /-- The process that it is a part of learns of it at a later turn. -/
  | partOf (process : Nat)
  /-- The process that has begun it looks by itself. -/
  | besides (process : Nat)
deriving DecidableEq, Repr

/-- How far a process has got. A number stands for a task or a process that it waits for. -/
inductive Progress where
  | begun (step : Step)
  | calling (task : Nat)
  | closing (task : Nat)
  | closingToReopen (task : Nat)
  | reopening (task : Nat)
  | describing (isOpen : Bool) (size : Int) (locks : Nat) (task : Nat)
  | opening (parts : List Nat) (left : Nat)
  | gathering (parts : List Nat) (left : Nat)
  | locking (holder : Nat) (step : Step)
  | looking (holder child : Nat)
  | awaiting (blocked : Bool) (locks child : Nat)
  | taking (keepers : List Nat) (left : Nat) (step : Step)
  | starving (keepers : List Nat) (patience child : Nat)
  | ended (answer : Except Error Answer)

/-- A process, and the home that it began at. -/
structure Process where
  link : Link
  home : Nat
  progress : Progress

/-- The processes of a session and the agenda of their tasks. -/
structure Course where
  agenda : Agenda
  processes : List Process
  /-- How long the tasks of a new home wait for a connection. -/
  patience : Nat

namespace Course

/-- How far a process has got. -/
def progress? (c : Course) (i : Nat) : Option Progress := c.processes[i]?.map Process.progress

/-- The course with a process at another point. -/
def moveTo (c : Course) (i : Nat) (p : Progress) : Course :=
  { c with processes := c.processes.modify i fun q => { q with progress := p } }

/-- The course with another agenda. -/
def withAgenda (c : Course) (a : Agenda) : Course := { c with agenda := a }

/-- The home of a process. -/
def homeOf (c : Course) (i : Nat) : Nat := (c.processes[i]?.map Process.home).getD 0

/-- The course at the home of a process. -/
def enterFor (c : Course) (i : Nat) : Course := c.withAgenda (c.agenda.enter (c.homeOf i))

/-- A process moves to the last home. -/
def settle (c : Course) (i : Nat) : Course :=
  let home := c.agenda.lastHome
  let settled : Course :=
    { c with processes := c.processes.modify i fun p => { p with home := home } }
  settled.enterFor i

/-- The world of the present home. -/
def world (c : Course) : World := c.agenda.system.world

/-- The course with another world. -/
def withWorld (c : Course) (w : World) : Course :=
  c.withAgenda { c.agenda with system := { c.agenda.system with world := w } }

/-- The course with a turn asked for. -/
def ask (c : Course) (t : Turn) : Course := c.withAgenda (c.agenda.ask t)

/-- The course with something more to do in the present turn. -/
def atOnce (c : Course) (t : Turn) : Course := c.withAgenda (c.agenda.atOnce t)

/-- What came of a task. -/
def result? (c : Course) (task : Nat) : Option (Except Error Reply) := c.agenda.system.result? task

/-- What came of a process. -/
def answer? (c : Course) (i : Nat) : Option (Except Error Answer) :=
  match c.progress? i with
  | some (.ended answer) => some answer
  | _ => none

/-- Whether a process has come to its end. -/
def hasEnded (c : Course) (i : Nat) : Bool := (c.answer? i).isSome

/-- What came of a process that has come to its end. -/
def answer (c : Course) (i : Nat) : Except Error Answer := (c.answer? i).getD (.ok .nothing)

/-- The end of a process, of which it tells. -/
def finish (c : Course) (i : Nat) (answer : Except Error Answer) : Course :=
  let c := c.moveTo i (.ended answer)
  match c.processes[i]?.map Process.link with
  | some (.within process) => c.atOnce (.resume process)
  | some (.partOf process) => c.ask (.partEnded process)
  | some (.besides process) =>
    match c.progress? process with
    | some (.awaiting ..) => c.ask (.resume process)
    | _ => c
  | _ => c

/-- A process begins a call and goes on when it is over. -/
def call (c : Course) (i : Nat) (call : Call) (progress : Nat → Progress) : Course :=
  let (task, agenda) := c.agenda.begin i (c.homeOf i) call
  (c.withAgenda agenda).moveTo i (progress task)

/-- The course with one more process, and its number. -/
def addProcess (c : Course) (link : Link) (step : Step) : Nat × Course :=
  (c.processes.length, { c with processes := c.processes ++ [⟨link, 0, .begun step⟩] })

/-- The course with processes for the parts of a process, each with a turn of its own. -/
def addParts (c : Course) (i : Nat) : List Step → List Nat × Course
  | [] => ([], c)
  | step :: steps =>
    let (part, c) := c.addProcess (.partOf i) step
    let (parts, c) := (c.ask (.resume part)).addParts i steps
    (part :: parts, c)

/-- Something outside the ledger happens to the disk. -/
def onDisk (c : Course) (f : Disk → Except Fault Disk) : Except Error Answer × Course :=
  match f c.world.store.disk with
  | .error e => (.error (.fault e), c)
  | .ok disk => (.ok .nothing, c.withWorld (c.world.withStore { c.world.store with disk := disk }))

/-- The disk with another hold on the file of the session. -/
def setHold (hold : Option Hold) (d : Disk) : Except Fault Disk :=
  match d.openFile (.ofPath file) with
  | .error f => .error f
  | .ok (d, _, id) => .ok (d.setHold id hold)

/-- The course with a new home, where the pool has not been opened. -/
def addHome (c : Course) : Course :=
  let pool := c.world.store.pool
  c.withAgenda (c.agenda.addHome ⟨.make pool.location pool.size, .empty, c.patience⟩)

end Course

end CharacterLedger.Session
