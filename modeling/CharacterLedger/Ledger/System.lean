import CharacterLedger.Ledger.Task.Step

/-!
# The system of tasks

A system is a world and the tasks that share it. Any task that can move may move next; `settle` is
one way to choose: the tasks take turns in their order, and a wait expires only when no task can
go. Its number of rounds is bounded by what the tasks can still do, and it stops before when nothing
moves any more.
-/

namespace CharacterLedger.Ledger

open CharacterLedger.Storage

/-- A world and its tasks. -/
structure System where
  world : World
  tasks : List Task

namespace System

/-- The system with tasks for these calls, none of which has begun. -/
def start (w : World) (calls : List Call) : System := ⟨w, calls.map Task.new⟩

/-- The system with a task for one more call. -/
def add (s : System) (call : Call) : System := { s with tasks := s.tasks ++ [Task.new call] }

/-- The step of one task by a choice, if the choice can be made. -/
def step (s : System) (id : Nat) (choice : Choice) : Option System :=
  match s.tasks[id]? with
  | none => none
  | some t => (t.step id choice s.world).map fun r => ⟨r.1, s.tasks.set id r.2⟩

/-- Forgets the locks that nobody needs. -/
def forgetLocks (s : System) : System :=
  { s with world := s.world.withLocks s.world.locks.forgetIdle }

/-- Tries one step of each task in turn, and says whether one could be made. -/
def round (choice : Choice) : List Nat → System → Bool × System
  | [], s => (false, s)
  | id :: ids, s =>
    match s.step id choice with
    | none => round choice ids s
    | some s => (true, (round choice ids s.forgetLocks).2)

/-- Makes the first wait expire that can, and says whether there was one. -/
def expireFirst : List Nat → System → Bool × System
  | [], s => (false, s)
  | id :: ids, s =>
    match s.step id .expire with
    | none => expireFirst ids s
    | some s => (true, s.forgetLocks)

/-- The numbers of the tasks. -/
def ids (s : System) : List Nat := List.range s.tasks.length

/-- Lets the tasks take turns for some rounds, or until nothing moves. -/
def settleFor : Nat → System → System
  | 0, s => s
  | rounds + 1, s =>
    match round .go s.ids s with
    | (true, s) => settleFor rounds s
    | (false, s) =>
      match expireFirst s.ids s with
      | (true, s) => settleFor rounds s
      | (false, s) => s

/-- A number of rounds that no system needs: a task takes fewer steps than there are connections it
could make or close, and a few for each of its visits. -/
def rounds (s : System) : Nat :=
  let tasks := s.tasks.length + 1
  tasks * tasks * (s.world.store.pool.size.toNat + s.world.store.connections.length + 20) * 8

/-- Lets the tasks take turns until nothing moves. -/
def settle (s : System) : System := settleFor s.rounds s

/-- The result of a task. -/
def result? (s : System) (id : Nat) : Option (Except Error Reply) := s.tasks[id]?.bind Task.result?

end System

end CharacterLedger.Ledger
