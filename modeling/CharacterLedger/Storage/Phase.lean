import CharacterLedger.Storage.Errand

/-!
# Phases

A visit to the pool goes through phases. A step of a visit changes the store, may leave notes, and
takes the visit to its next phase or ends it.

A step is taken by a `Choice`. `go` does what comes next and is impossible while the visit has to
wait. `expire` ends a wait. `fail` is a failure of the store where the store could fail by itself.
`finish` ends the errand of keeping a connection.
-/

namespace CharacterLedger.Storage

open CharacterLedger.Table

/-- How far a visit has got that comes back with an `α`. -/
inductive Phase (α : Type) where
  | entering
  | awaitingOpening
  /-- The connections that are ready, of the pool that is being opened. -/
  | connecting (made : List Nat)
  /-- The first connection, on which the database is to be set up. -/
  | preparing (first : Nat)
  | abandoning (f : Fault)
  | awaiting (q : Nat)
  | checking (q c : Nat)
  | replacing (q c : Nat)
  | working (q c : Nat)
  | committing (q c : Nat)
  | undoing (q c : Nat) (f : Fault)
  /-- The errand is done, and the connection is still to be given back. -/
  | returning (q c : Nat) (answer : α)

/-- What makes a step. -/
inductive Choice where
  | go
  | expire
  | fail (f : Fault)
  | finish
deriving DecidableEq, Repr

/-- Where a visit is after a step. -/
inductive Progress (α : Type) where
  | going (phase : Phase α)
  | ended (result : Except Failure α)

/-- What a step does. -/
structure Step (α : Type) where
  store : Store
  notes : List Log.Note
  progress : Progress α

namespace Visit

variable {α : Type}

/-- A note of the pool. -/
def note (level : Log.Level) (message : String) : Log.Note := ⟨level, .connection, message⟩

/-- The visit goes on. -/
def goOn (s : Store) (phase : Phase α) (notes : List Log.Note) : Step α := ⟨s, notes, .going phase⟩

/-- The visit ends with a fault. -/
def endWith (s : Store) (f : Fault) (notes : List Log.Note) : Step α :=
  ⟨s, notes, .ended (.error (.fault f))⟩

/-- The visit gives the connection back and ends. -/
def giveBack (s : Store) (q c : Nat) (result : Except Failure α) : Step α :=
  ⟨s.withPool (s.pool.put q c), [note .debug "Database connection held for # seconds"],
    .ended result⟩

end Visit

end CharacterLedger.Storage
