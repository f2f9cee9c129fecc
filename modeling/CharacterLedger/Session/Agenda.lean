import CharacterLedger.Session.Pause

/-!
# The agenda

The tasks of a session take turns, and the agenda says whose turn is next and what the others wait
for.

In the course of a session a ledger may be given up for a new one, with a pool and locks of its own,
while tasks of the old one are still on their way. Each ledger has a `Home`, and a task sees the
pool and the locks of its own.
-/

namespace CharacterLedger.Session

open CharacterLedger.Ledger CharacterLedger.Storage

/-- What is done at a turn. -/
inductive Turn where
  /-- A task goes on. -/
  | goOn (task : Nat)
  /-- A round trip of a task has come back, and so many are left. -/
  | arrive (task left : Nat)
  /-- The helper of a task looks for a connection. -/
  | fetch (task : Nat)
  /-- A task gives up waiting for a connection. -/
  | giveUp (task : Nat)
  /-- A task that could not get at a file learns that it will not. -/
  | lapse (task : Nat)
  /-- A process goes on. -/
  | resume (process : Nat)
  /-- A process learns that a part of it has come to its end. -/
  | partEnded (process : Nat)
  /-- A process looks whether it can go on. -/
  | look (process : Nat)
  /-- The turn is asked for. -/
  | later (t : Turn)
deriving DecidableEq, Repr

/-- A task that waits for a connection, and until when. It does not wait at all if it has no
patience. -/
structure Wait where
  task : Nat
  patience : Nat
  limit : Nat
deriving DecidableEq, Repr

/-- The round trips to a file that a task waits for: how many, and how long the last one takes if it
cannot get at the file. -/
structure Trip where
  task : Nat
  left : Nat
  limit : Nat
deriving DecidableEq, Repr

/-- The pool of a ledger, its locks, and how long its tasks wait for a connection. -/
structure Home where
  pool : Pool
  locks : KeyLocks
  patience : Nat

/-- The agenda of a system of tasks. Times are numbers of nanoseconds. -/
structure Agenda where
  system : System
  /-- The homes, of which the pool and the locks of one are those of the system. -/
  homes : List Home
  /-- The home that the system is at, whose entry in the list may be out of date. -/
  present : Nat
  /-- What still belongs to the present turn. -/
  urgent : List Turn
  /-- The turns that have been asked for. -/
  turns : List Turn
  /-- The round trips that tasks wait for. -/
  trips : List Trip
  /-- The helpers in the lines of queues: the queue and the task of each. -/
  helpers : List (Nat × Nat)
  /-- The tasks that wait in other lines. -/
  lines : List Nat
  waits : List Wait
  clock : Nat
  /-- How long a connection tries to get at a file. -/
  persistence : Nat
  /-- How long the tasks of the present home wait for a connection. -/
  patience : Nat
  /-- The processes that have begun the tasks, and the homes of the tasks. -/
  owners : List (Nat × Nat × Nat)

namespace Agenda

/-! ### Homes -/

/-- The home of a task. -/
def homeOf (a : Agenda) (id : Nat) : Nat := ((a.owners.lookup id).map Prod.snd).getD a.present

/-- The homes, with the entry of the present one brought up to date. -/
def savedHomes (a : Agenda) : List Home :=
  let w := a.system.world
  a.homes.set a.present ⟨w.store.pool, w.locks, a.patience⟩

/-- A system at a home. -/
def systemAt (s : System) (h : Home) : System :=
  { s with world := (s.world.withStore (s.world.store.withPool h.pool)).withLocks h.locks }

/-- The agenda at another home. -/
def enter (a : Agenda) (home : Nat) : Agenda :=
  if home = a.present then a
  else
    match a.savedHomes[home]? with
    | none => a
    | some h =>
      { a with
        system := systemAt a.system h
        homes := a.savedHomes
        present := home
        patience := h.patience }

/-- The agenda at the home of a task. -/
def enterFor (a : Agenda) (id : Nat) : Agenda := a.enter (a.homeOf id)

/-- The number of the last home. -/
def lastHome (a : Agenda) : Nat := a.homes.length - 1

/-- The agenda with one more home, at which it is. -/
def addHome (a : Agenda) (h : Home) : Agenda :=
  ({ a with homes := a.savedHomes ++ [h] } : Agenda).enter a.homes.length

/-! ### Turns -/

/-- The agenda with a turn at the end. -/
def ask (a : Agenda) (t : Turn) : Agenda := { a with turns := a.turns ++ [t] }

/-- The agenda with something more to do in the present turn, before anything else. -/
def atOnce (a : Agenda) (t : Turn) : Agenda := { a with urgent := t :: a.urgent }

/-! ### Beginnings -/

/-- The agenda with a task for a call at a home, which goes on for a process. -/
def begin (a : Agenda) (process home : Nat) (call : Call) : Nat × Agenda :=
  let id := a.system.tasks.length
  let begun : Agenda := { a with
    system := a.system.add call
    owners := (id, process, home) :: a.owners }
  (id, begun.atOnce (.goOn id))

/-- The agenda of a world without tasks, and with one home. -/
def ofWorld (w : World) (patience : Nat) : Agenda where
  system := ⟨w, []⟩
  homes := [⟨w.store.pool, w.locks, patience⟩]
  present := 0
  urgent := []
  turns := []
  trips := []
  helpers := []
  lines := []
  waits := []
  clock := 0
  persistence := patience
  patience := patience
  owners := []

end Agenda

end CharacterLedger.Session
