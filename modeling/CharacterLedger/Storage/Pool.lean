import CharacterLedger.Storage.Location

/-!
# The pool

A pool hands connections out in the order in which they came back. It is given only their numbers.
Every opening installs a queue of its own, and queues are known by their places in the list of all
that were ever installed: a connection goes back to the queue that it came from, even if the pool
has been closed meanwhile. One visit at a time opens the pool; the others stand in line behind it.
-/

namespace CharacterLedger.Storage

/-- A pool of connections. -/
structure Pool where
  location : Location
  size : Int
  /-- The connections that closing the pool closes. -/
  tracked : List Nat
  /-- The connections at hand, for each time the pool was opened. -/
  queues : List (List Nat)
  /-- The queue of the last opening, until the pool is closed. -/
  current : Option Nat
  /-- Who opens the pool, and who waits for the opening to end. -/
  opening : List Nat
deriving DecidableEq

namespace Pool

/-- The number of connections of a pool: in memory there is one, whatever was asked for. -/
def sizeAt (location : Location) (size : Int) : Int :=
  match location with
  | .memory => 1
  | .file _ => size

/-- A pool that has not been opened. -/
def make (location : Location) (size : Int) : Pool :=
  ⟨location, sizeAt location size, [], [], none, []⟩

/-- Whether the pool is open. -/
def isOpen (p : Pool) : Bool := p.current.isSome

/-- The connections at hand in a queue. -/
def queue (p : Pool) (q : Nat) : List Nat := p.queues[q]?.getD []

/-- The pool with a connection put at the end of a queue. -/
def put (p : Pool) (q c : Nat) : Pool :=
  { p with queues := p.queues.modify q fun cs => cs ++ [c] }

/-- The pool without the first connection of a queue. -/
def drop (p : Pool) (q : Nat) : Pool := { p with queues := p.queues.modify q List.tail }

/-- The pool with a connection in the place of another among those that closing closes. -/
def retrack (p : Pool) (old new : Nat) : Pool :=
  { p with tracked := (p.tracked.filter fun c => c != old) ++ [new] }

/-- The pool without the last of the connections that closing it closes. -/
def untrackLast (p : Pool) : Pool := { p with tracked := p.tracked.dropLast }

/-- The pool closed: there is no queue to take connections from. -/
def shut (p : Pool) : Pool := { p with current := none }

/-- The pool open, with these connections at hand. -/
def install (p : Pool) (made : List Nat) : Pool :=
  { p with queues := p.queues ++ [made], current := some p.queues.length }

/-- The pool with a task at the end of the line of those that want to open it. -/
def join (p : Pool) (task : Nat) : Pool := { p with opening := p.opening ++ [task] }

/-- The pool without the task at the head of that line. -/
def leave (p : Pool) : Pool := { p with opening := p.opening.tail }

@[simp] theorem length_put (p : Pool) (q c : Nat) :
    (p.put q c).queues.length = p.queues.length :=
  List.length_modify ..

@[simp] theorem length_drop (p : Pool) (q : Nat) : (p.drop q).queues.length = p.queues.length :=
  List.length_modify ..

@[simp] theorem queue_put_self (p : Pool) {q : Nat} (c : Nat) (h : q < p.queues.length) :
    (p.put q c).queue q = p.queue q ++ [c] := by
  simp [queue, put, h]

@[simp] theorem queue_put_of_ne (p : Pool) {q other : Nat} (c : Nat) (h : other ≠ q) :
    (p.put q c).queue other = p.queue other := by
  simp [queue, put, h.symm]

@[simp] theorem queue_drop_self (p : Pool) (q : Nat) : (p.drop q).queue q = (p.queue q).tail := by
  cases h : p.queues[q]? <;> simp [queue, drop, h]

@[simp] theorem queue_drop_of_ne (p : Pool) {q other : Nat} (h : other ≠ q) :
    (p.drop q).queue other = p.queue other := by
  simp [queue, drop, h.symm]

/-- An opening installs a new queue. -/
@[simp] theorem queue_install_new (p : Pool) (made : List Nat) :
    (p.install made).queue p.queues.length = made := by
  simp [queue, install]

end Pool

end CharacterLedger.Storage
