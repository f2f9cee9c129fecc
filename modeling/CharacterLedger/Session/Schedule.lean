import CharacterLedger.Session.Agenda

/-!
# How tasks take turns

A turn lasts until the task has to wait. Turns are taken in the order in which they were asked for;
only when none is left, the oldest round trip to a file comes back, and only when there is none
either, time passes, until the earliest waits for a connection or for a file expire.

To wait for a connection takes turns of its own: a helper looks for one, and the task learns of it
two turns later. A helper that finds none stands in a line, of which each connection that is given
back calls the first. A task that gives up learns so two turns later as well, if it never had time
to wait, and otherwise four.
-/

namespace CharacterLedger.Session

open CharacterLedger.Ledger CharacterLedger.Storage

namespace Agenda

/-- The number of connections at hand in a queue. -/
def atHand (s : System) (q : Nat) : Nat := (s.world.store.pool.queue q).length

/-- Calls the first helper of a queue of the present home that has got a connection since the system
was `before`. -/
def callHelper (before : System) (a : Agenda) : Agenda :=
  let isCalled (h : Nat × Nat) : Bool :=
    decide (atHand before h.1 < atHand a.system h.1) && a.homeOf h.2 == a.present
  match a.helpers.find? isCalled with
  | none => a
  | some h =>
    let called : Agenda := { a with helpers := a.helpers.erase h }
    called.ask (.fetch h.2)

/-- Whether a task can make a step. -/
def canGo (a : Agenda) (id : Nat) : Bool :=
  a.system.tasks[id]?.any fun t => (t.step id .go (a.enterFor id).system.world).isSome

/-- Calls the tasks whose turn in a line has come. -/
def callLines (a : Agenda) : Agenda :=
  let (called, lines) := a.lines.partition a.canGo
  { a with lines := lines, turns := a.turns ++ called.map .goOn }

/-- Whether a line has changed from one system to the next. -/
def hasMovedOn (before after : System) : Bool :=
  after.world.locks.lines != before.world.locks.lines ||
    after.world.store.pool.opening != before.world.store.pool.opening

/-- A task makes a step, if it can. -/
def act (a : Agenda) (id : Nat) (choice : Choice) : Agenda :=
  let a := a.enterFor id
  match a.system.step id choice with
  | none => a
  | some s =>
    if hasMovedOn a.system s then
      (callHelper a.system { a with system := s.forgetLocks }).callLines
    else callHelper a.system { a with system := s }

/-- What a task waits for. -/
def pause (a : Agenda) (id : Nat) : Pause :=
  match a.system.tasks[id]? with
  | none => .word
  | some t => .ofTask (a.enterFor id).system.world id t

/-- The agenda with one more wait. -/
def startWait (a : Agenda) (id : Nat) : Agenda :=
  let a := a.enterFor id
  { a with waits := a.waits ++ [⟨id, a.patience, a.clock + a.patience⟩] }

/-- The agenda with round trips of a task to wait for. -/
def startTrips (a : Agenda) (id count : Nat) : Agenda :=
  { a with trips := a.trips ++ [⟨id, count, a.clock + a.persistence⟩] }

/-- Whether another program keeps out what a task is about to do. -/
def isKeptOut (a : Agenda) (id : Nat) : Bool :=
  a.system.tasks[id]?.any fun t => Pause.isKeptOut (a.enterFor id).system.world.store t

/-- A task goes on until it has to wait. -/
def goOn (a : Agenda) (id : Nat) : Agenda :=
  match a.pause id with
  | .nothing =>
    if a.canGo id then (a.act id .go).atOnce (.goOn id) else { a with lines := a.lines ++ [id] }
  | .trips count => a.startTrips id count
  | .line => { a with lines := a.lines ++ [id] }
  | .connection _ => (a.startWait id).ask (.fetch id)
  | .word =>
    match a.owners.lookup id with
    | some (process, _) => a.atOnce (.resume process)
    | none => a

/-- A task goes on after a round trip, or makes the next one. -/
def arrive (a : Agenda) (id left : Nat) : Agenda :=
  if left = 0 && a.canGo id then (a.act id .go).atOnce (.goOn id)
  else a.startTrips id (max left 1)

/-- A task fails to get at a file, or at what another task is about to write there. -/
def lapse (a : Agenda) (id : Nat) : Agenda :=
  (a.act id (if a.canGo id then .go else .expire)).atOnce (.goOn id)

/-- A helper takes a connection, or stands in line, or has no time to. -/
def fetch (a : Agenda) (id : Nat) : Agenda :=
  let a := a.enterFor id
  let isPatient := a.waits.any fun w => w.task == id && w.patience != 0
  let settled : Agenda := { a with waits := a.waits.filter fun w => w.task != id }
  match a.pause id with
  | .connection q =>
    if !isPatient then settled.ask (.later (.giveUp id))
    else if atHand a.system q = 0 then { a with helpers := a.helpers ++ [(q, id)] }
    else (settled.act id .go).ask (.later (.goOn id))
  | _ => settled

/-- What is done at a turn that is no process's. -/
def take (a : Agenda) : Turn → Agenda
  | .goOn id => a.goOn id
  | .arrive id left => a.arrive id left
  | .fetch id => a.fetch id
  | .giveUp id => (a.act id .expire).atOnce (.goOn id)
  | .lapse id => a.lapse id
  | .later t => a.ask t
  | .resume _ | .partEnded _ | .look _ => a

/-! ### When no turn is left -/

/-- Whether a round trip can come back: the last of several only if the task can go on then. -/
def comesBack (a : Agenda) (trip : Trip) : Bool :=
  1 < trip.left || (a.canGo trip.task && !a.isKeptOut trip.task)

/-- The end of the waits that do not last beyond a time, which has come. -/
def endWaits (a : Agenda) (time : Nat) : Agenda :=
  let (ended, waits) := a.waits.partition fun w => decide (w.limit ≤ time)
  { a with
    waits := waits
    helpers := a.helpers.filter fun h => ended.all fun w => w.task != h.2
    clock := max a.clock time
    turns := a.turns ++ ended.map fun w => .later (.later (.later (.giveUp w.task))) }

/-- A round trip comes back, with a turn at which its task is told. -/
def endTrip (a : Agenda) (trip : Trip) (t : Turn) : Agenda :=
  let waiting : Agenda := { a with
    trips := a.trips.erase trip
    clock := match t with
      | .lapse _ => max a.clock trip.limit
      | _ => a.clock }
  waiting.ask (.later t)

/-- The round trip whose time is up first. -/
def firstLapse? (a : Agenda) : Option Trip :=
  (a.trips.map Trip.limit).min?.bind fun time =>
    a.trips.find? fun trip => decide (trip.limit ≤ time)

/-- Lets the oldest round trip come back that can, or else the time pass until the earliest waits
end. Whoever waits for a connection gives up before one that waits as long for a file. -/
def passTime (a : Agenda) : Option Agenda :=
  match a.trips.find? a.comesBack with
  | some trip => some (a.endTrip trip (.arrive trip.task (trip.left - 1)))
  | none =>
    match (a.waits.map Wait.limit).min?, a.firstLapse? with
    | none, none => none
    | some time, none => some (a.endWaits time)
    | none, some trip => some (a.endTrip trip (.lapse trip.task))
    | some time, some trip =>
      if time ≤ trip.limit then some (a.endWaits time)
      else some (a.endTrip trip (.lapse trip.task))

end Agenda

end CharacterLedger.Session
