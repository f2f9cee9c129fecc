import CharacterLedger.Storage.Phase

/-!
# Opening the pool

The first visit to a pool that is not open opens it: it makes the directory, connects as often as
the pool has places, and sets up the database on the first connection. Only then is the queue
installed. What can fail on the way leads to the phase in which every tracked connection is closed.
-/

namespace CharacterLedger.Storage

open CharacterLedger.Table

namespace Visit

/-- What a visit does once the pool is open: nothing more, or it waits for a connection. -/
def withOpenPool : (p : Purpose) → Store → Nat → List Log.Note → Step p.Answer
  | .borrow _, s, q, notes => goOn s (.awaiting q) notes
  | .openPool, s, _, notes => ⟨s, notes, .ended (.ok ())⟩

/-- The pool is open with these connections. -/
def finishOpening (p : Purpose) (s : Store) (made : List Nat) (notes : List Log.Note) :
    Step p.Answer :=
  let q := s.pool.queues.length
  withOpenPool p (s.withPool (s.pool.install made).leave) q
    (notes ++ [note .info ("Database connection pool initialized with size " ++
      toString s.pool.size)])

/-- Whether these are all the connections of the pool. -/
def isComplete (s : Store) (made : List Nat) : Bool := decide (s.pool.size ≤ (made.length : Int))

/-- One more connection is ready. -/
def countIn (p : Purpose) (s : Store) (made : List Nat) (c : Nat) (notes : List Log.Note) :
    Step p.Answer :=
  let made := made ++ [c]
  let notes := notes ++ [note .debug ("Opened connection " ++ toString made.length ++ "/" ++
    toString s.pool.size)]
  if isComplete s made then finishOpening p s made notes else goOn s (.connecting made) notes

/-- The note about a failed opening. -/
def failureNote (s : Store) (f : Fault) : Log.Note :=
  note .error ("Failed to initialize database " ++ s.pool.location.toText ++ ": " ++ f.message)

/-- The way to the directory that the file of a pool is in, going by the text that names the file.
-/
def directory? : Location → Option Route
  | .memory => none
  | .file path => some (Route.ofText path).parent

/-- Makes the directory of the file. -/
def makeDirectory (s : Store) : Store × Except Fault Unit :=
  match directory? s.pool.location with
  | none => (s, .ok ())
  | some route =>
    if Location.hasZero route.toText then (s, .error .zeroCharacter)
    else
      let (disk, result) := s.disk.makeDirectories route
      ({ s with disk := disk }, result)

/-- Starts to open the pool; the visit is at the head of the line. -/
def beginOpening (p : Purpose) (s : Store) : Step p.Answer :=
  match makeDirectory s with
  | (s, .error f) => endWith (s.withPool s.pool.leave) f []
  | (s, .ok ()) => if isComplete s [] then finishOpening p s [] [] else goOn s (.connecting []) []

/-- Makes the next connection. -/
def connectNext (p : Purpose) (s : Store) (made : List Nat) : Step p.Answer :=
  match s.connect with
  | .error f => goOn s (.abandoning f) [failureNote s f]
  | .ok (s, c) =>
    let s := s.withPool { s.pool with tracked := s.pool.tracked ++ [c] }
    match made with
    | [] => goOn s (.preparing c) []
    | _ => countIn p s made c []

/-- The notes before and after a database is set up. -/
def setUpNotes (s : Store) (version : Int) : List Log.Note × List Log.Note :=
  match Database.setUpFor version with
  | .created =>
    ([note .info ("Applying initial schema to " ++ s.pool.location.toText)],
      [note .info ("Initial schema applied, version set to " ++
        toString Database.currentVersion)])
  | .migrated =>
    ([note .info ("Running migrations from version " ++ toString version ++ " to " ++
      toString Database.currentVersion)], [])
  | .upToDate =>
    ([note .info ("Database schema is up-to-date (version " ++ toString version ++ ")")], [])

/-- Whether setting up a database of the version writes to it. -/
def setUpWrites (version : Int) : Bool := decide (version < Database.currentVersion)

/-- Sets up the database on the first connection. Where that writes, it waits for transactions of
other connections. -/
def prepare (p : Purpose) (s : Store) (c : Nat) : Option (Step p.Answer) :=
  match s.ask c .version (.ok ()) fun d => .ok d.version with
  | (s, .error f) => some (goOn s (.abandoning f) [failureNote s f])
  | (s, .ok version) =>
    let (before, after) := setUpNotes s version
    if !setUpWrites version then some (countIn p s [] c (before ++ after))
    else if s.isBusy c then none
    else
      match s.alter c .setUp (.ok ()) fun d => .ok d.setUp with
      | (s, .error f) => some (goOn s (.abandoning f) (before ++ [failureNote s f]))
      | (s, .ok d) => some (countIn p (s.write c d) [] c (before ++ after))

end Visit

end CharacterLedger.Storage
