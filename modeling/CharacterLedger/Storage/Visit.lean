import CharacterLedger.Storage.Opening
import CharacterLedger.Storage.Work

/-!
# Visits to the pool

A visit borrows a connection for an errand, or only opens the pool. Other visits may move between
any two of its steps; one step of a visit is one change of the store.

Visits that come while the pool is being opened wait in line, and each looks anew when its turn
comes. An open pool hands its connections out in the order in which they came back; a file
connection that has been closed is replaced first. Whoever holds a connection gives it back to the
queue that it came from, whatever became of the pool.
-/

namespace CharacterLedger.Storage

open CharacterLedger.Table

namespace Visit

/-- The note about a connection that has to be replaced. -/
def invalidNote (f : Fault) : Log.Note :=
  note .warning ("Database connection is invalid, recreating new connection: " ++ f.message)

/-- The visit comes to the pool. -/
def enter (me : Nat) (p : Purpose) (s : Store) : Step p.Answer :=
  match s.pool.current with
  | some q => withOpenPool p s q []
  | none =>
    if s.pool.opening.isEmpty then beginOpening p (s.withPool (s.pool.join me))
    else goOn (s.withPool (s.pool.join me)) .awaitingOpening []

/-- The turn of the visit to open the pool has come. -/
def takeTurn (p : Purpose) (s : Store) : Step p.Answer :=
  match s.pool.current with
  | some q => withOpenPool p (s.withPool s.pool.leave) q []
  | none => beginOpening p s

/-- The next step of a visit. -/
def go (me : Nat) (p : Purpose) (s : Store) : Phase p.Answer → Option (Step p.Answer)
  | .entering => some (enter me p s)
  | .awaitingOpening => if s.pool.opening.head? = some me then some (takeTurn p s) else none
  | .connecting made => some (connectNext p s made)
  | .preparing c => prepare p s c
  | .abandoning f =>
    match s.pool.tracked.getLast? with
    | none => some (endWith (s.withPool s.pool.leave) f [])
    | some c => some (goOn (s.closeLast c) (.abandoning f) [])
  | .awaiting q =>
    match s.pool.queue q with
    | [] => none
    | c :: _ =>
      let phase : Phase p.Answer := match s.pool.location with
        | .memory => .working q c
        | .file _ => .checking q c
      some (goOn (s.withPool (s.pool.drop q)) phase
        [note .debug "Acquired database connection from pool"])
  | .checking q c =>
    if s.isOpen c then some (goOn s (.working q c) [])
    else some (goOn s (.replacing q c) [invalidNote .inactive])
  | .replacing q c =>
    match s.connect with
    | .error f => some (endWith (s.withPool (s.pool.put q c)) f [])
    | .ok (s, new) => some (goOn (s.withPool (s.pool.retrack c new)) (.working q new) [])
  | .working q c => onErrand p fun e => work e s q c
  | .committing q c => onErrand p fun e => endTransaction e s q c
  | .undoing q c f => onErrand p fun e => undo e s q c f
  | .returning q c answer => some (giveBack s q c (.ok answer))

/-- A wait of the visit ends. -/
def expire (p : Purpose) (s : Store) : Phase p.Answer → Option (Step p.Answer)
  | .awaiting _ =>
    some ⟨s, [note .error "Timed out waiting for database connection"], .ended (.error .timeout)⟩
  | .preparing c =>
    if s.isBusy c then some (goOn s (.abandoning .locked) [failureNote s .locked]) else none
  | .working q c => onErrand p fun e => workExpired e s q c
  | _ => none

/-- Whether an opening that starts now can fail for want of a directory. -/
def mayLackDirectory (s : Store) (f : Fault) : Bool :=
  s.pool.current.isNone && (directory? s.pool.location).isSome && f.family == .file

/-- A failure of the store meets the visit. -/
def fail (me : Nat) (p : Purpose) (s : Store) (f : Fault) :
    Phase p.Answer → Option (Step p.Answer)
  | .entering =>
    if mayLackDirectory s f && s.pool.opening.isEmpty then some (endWith s f []) else none
  | .awaitingOpening =>
    if mayLackDirectory s f && s.pool.opening.head? == some me then
      some (endWith (s.withPool s.pool.leave) f [])
    else none
  | .connecting _ | .preparing _ =>
    if f.isOfDatabase then some (goOn s (.abandoning f) [failureNote s f]) else none
  | .checking q c => if f.isOfDatabase then some (goOn s (.replacing q c) [invalidNote f]) else none
  | .replacing q c =>
    if f.isOfDatabase then some (endWith (s.withPool (s.pool.put q c)) f []) else none
  | .working q c =>
    if f.isOfDatabase then onErrand p fun e => workFailing e s q c f else none
  | .committing q c => if f.isOfDatabase then some (goOn s (.undoing q c f) []) else none
  | _ => none

/-- Ends the errand of keeping a connection. -/
def finish (p : Purpose) (s : Store) : Phase p.Answer → Option (Step p.Answer)
  | .working q c => onErrand p fun e => workFinished e s q c
  | _ => none

/-- The step of a visit by a choice, if the choice can be made. -/
def step (me : Nat) (p : Purpose) (choice : Choice) (phase : Phase p.Answer) (s : Store) :
    Option (Step p.Answer) :=
  match choice with
  | .go => go me p s phase
  | .expire => expire p s phase
  | .fail f => fail me p s f phase
  | .finish => finish p s phase

end Visit

end CharacterLedger.Storage
