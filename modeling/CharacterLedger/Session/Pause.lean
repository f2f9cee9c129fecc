import CharacterLedger.Ledger.System

/-!
# What tasks wait for

Between two of its steps a task may have to wait: for a number of round trips to its file, for its
turn in a line, for a connection, or until it is told to end. Where it waits for nothing it goes on
at once.
-/

namespace CharacterLedger.Session

open CharacterLedger.Ledger CharacterLedger.Storage

/-- What a task waits for. -/
inductive Pause where
  | nothing
  /-- For round trips to the file of a connection. -/
  | trips (count : Nat)
  /-- For its turn in the line of a lock or of the opening of the pool. -/
  | line
  /-- For a connection of a queue. -/
  | connection (queue : Nat)
  /-- For the end of what it keeps, or for nothing any more. -/
  | word
deriving DecidableEq, Repr

namespace Pause

/-- Waits for round trips on a connection, which there are none of if it is closed. -/
def onConnection (s : Store) (c count : Nat) : Pause :=
  if s.isOpen c then trips count else nothing

/-- Waits for the last tracked connection to be closed. -/
def onLast (s : Store) : Pause :=
  match s.pool.tracked.getLast? with
  | some c => onConnection s c 1
  | none => nothing

/-- Waits for the statement of an errand. -/
def onWork (s : Store) (c : Nat) : Purpose → Pause
  | .borrow .keep => word
  | _ => onConnection s c 1

/-- How many round trips an errand still takes once its statement has been run. -/
def tripsBack : Purpose → Nat
  | .borrow (.ask .shape) => 5
  | .borrow (.ask _) => 2
  | _ => 1

/-- How many round trips it takes to set up the database of a connection. -/
def tripsToPrepare (s : Store) (c : Nat) : Nat :=
  match s.connection? c with
  | none => 1
  | some k =>
    match s.readable k with
    | .error _ => 1
    | .ok d => if Visit.setUpWrites d.version then 6 else 3

/-- What a visit waits for. -/
def ofPhase (me : Nat) (s : Store) (p : Purpose) : Phase p.Answer → Pause
  | .entering => nothing
  | .awaitingOpening => if s.pool.opening.head? = some me then nothing else line
  | .connecting _ => trips 1
  | .preparing c => onConnection s c (tripsToPrepare s c)
  | .abandoning _ => onLast s
  | .awaiting q => connection q
  | .checking _ c => onConnection s c 2
  | .replacing _ _ => trips 1
  | .working _ c => onWork s c p
  | .committing _ c => onConnection s c 1
  | .undoing _ c _ => onConnection s c 1
  | .returning _ c _ => onConnection s c (tripsBack p)

/-- What the task `id` waits for. -/
def ofTask (w : World) (id : Nat) (t : Task) : Pause :=
  match t.stage with
  | .ready => nothing
  | .visiting p phase => ofPhase id w.store p phase
  | .closing c => onConnection w.store c 1
  | .queued lock _ _ _ | .queuedToHold lock =>
    if w.locks.isHeldBy lock id then nothing else line
  | .loading _ _ _ _ phase => ofPhase id w.store _ phase
  | .saving _ _ _ _ _ phase => ofPhase id w.store _ phase
  | .holding _ | .done _ => word

/-- Whether another program keeps the statement of a visit out. -/
def isVisitKeptOut (s : Store) (p : Purpose) : Phase p.Answer → Bool
  | .preparing c =>
    s.isKeptOut c .version (.ok ()) false ||
      (s.connection? c).any fun k =>
        Visit.setUpWrites (s.content k).version && s.isKeptOut c .setUp (.ok ()) true
  | .working _ c =>
    match p with
    | .borrow (.ask q) => s.isKeptOut c q.statement q.bound false
    | .borrow (.save _) => s.isKeptOut c .save (.ok ()) true
    | .borrow (.change x) => s.isKeptOut c x.statement x.bound true
    | _ => false
  | _ => false

/-- Whether another program keeps out what a task is about to do. -/
def isKeptOut (s : Store) (t : Task) : Bool :=
  match t.stage with
  | .visiting p phase => isVisitKeptOut s p phase
  | .loading _ _ _ _ phase => isVisitKeptOut s _ phase
  | .saving _ _ _ _ _ phase => isVisitKeptOut s _ phase
  | _ => false

end Pause

end CharacterLedger.Session
