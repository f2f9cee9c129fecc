import CharacterLedger.Storage.Connection
import CharacterLedger.Storage.Pool

/-!
# The store

The store is the disk, the connections to its files, and a pool that hands connections out. A
connection sees what is on the disk, and what its own unfinished transaction has written; only one
connection to a file can have such a transaction. Connections are known by their places in the list
of all that were ever made.

A statement is judged first, then its parameters are looked at, and then it needs the file: all of
it to change it, and to read it at least that nobody is kept out. Only now it is carried out on the
database as it is.
-/

namespace CharacterLedger.Storage

open CharacterLedger.Table

/-- The store. -/
structure Store where
  disk : Disk
  connections : List Connection
  pool : Pool
deriving DecidableEq

namespace Store

/-- The connection with the number `c`. -/
def connection? (s : Store) (c : Nat) : Option Connection := s.connections[c]?

/-- Whether the connection is open. -/
def isOpen (s : Store) (c : Nat) : Bool := (s.connection? c).any Connection.isOpen

/-- The store with one more connection. -/
def addConnection (s : Store) (k : Connection) : Store × Nat :=
  ({ s with connections := s.connections ++ [k] }, s.connections.length)

/-- Makes a connection to the location of the pool. -/
def connect (s : Store) : Except Fault (Store × Nat) :=
  match s.pool.location.address with
  | .error f => .error f
  | .ok a =>
    if a.isPrivate then
      let (disk, file) := s.disk.addFile .empty
      .ok ({ s with disk := disk }.addConnection (.new file none a.mayWrite))
    else
      match s.disk.openFile a with
      | .error f => .error f
      | .ok (disk, path, file) =>
        .ok ({ s with disk := disk }.addConnection (.new file (some path) a.mayWrite))

/-- The store with a connection changed. -/
def modify (s : Store) (c : Nat) (f : Connection → Connection) : Store :=
  { s with connections := s.connections.modify c f }

/-- Closes a connection. -/
def close (s : Store) (c : Nat) : Store := s.modify c Connection.close

/-- The store with another draft of a connection. -/
def setDraft (s : Store) (c : Nat) (draft : Option Database) : Store :=
  s.modify c fun k => { k with draft := draft }

/-- What the connection sees of its file. -/
def content (s : Store) (k : Connection) : Database := k.draft.getD (s.disk.content k.file)

/-- The store with a transaction on a connection that has changed nothing so far. -/
def beginTransaction (s : Store) (c : Nat) : Store :=
  match s.connection? c with
  | none => s
  | some k => if k.isOpen then s.setDraft c (some (s.content k)) else s

/-! ### Statements -/

/-- What a connection reads from its file. -/
def readable (s : Store) (k : Connection) : Except Fault Database :=
  if s.disk.isForeign k.file then .error .notDatabase
  else if s.disk.hold? k.file = some .everyone then .error .locked
  else .ok (s.content k)

/-- What a connection that may write to its file finds there. -/
def writable (s : Store) (k : Connection) : Except Fault Database :=
  if s.disk.isForeign k.file then .error .notDatabase
  else if !k.mayWrite then .error .readOnly
  else if (s.disk.hold? k.file).isSome then .error .locked
  else .ok (s.content k)

/-- The store once a statement has been judged and its parameters looked at, and the connection,
which has to be open. -/
def ready (s : Store) (c : Nat) (st : Statement) (bound : Except Fault Unit) :
    Store × Except Fault Connection :=
  match s.connection? c with
  | none => (s, .error .inactive)
  | some k =>
    if !k.isOpen then (s, .error .inactive)
    else
      match k.prepare st ((s.readable k).map Database.shape) with
      | (k, .error f) => (s.modify c fun _ => k, .error f)
      | (k, .ok ()) =>
        (s.modify c fun _ => k, match bound with
          | .error f => .error f
          | .ok () => .ok k)

/-- The store once a connection has carried out a statement on a database. -/
def learn (s : Store) (c : Nat) (st : Statement) (d : Database) : Store :=
  s.modify c fun k => k.learn st d.shape

/-- What a question to the database comes to. -/
def ask {α : Type} (s : Store) (c : Nat) (st : Statement) (bound : Except Fault Unit)
    (question : Database → Except Fault α) : Store × Except Fault α :=
  match s.ready c st bound with
  | (s, .error f) => (s, .error f)
  | (s, .ok k) =>
    match s.readable k with
    | .error f => (s, .error f)
    | .ok d => (s.learn c st d, question d)

/-- Whether the path of the connection leads elsewhere by now. -/
def isMoved (s : Store) (k : Connection) : Bool :=
  match k.path with
  | none => false
  | some path => s.disk.node? path != some (.file k.file)

/-- Whether another connection has a transaction on the file of this one. -/
def isBusy (s : Store) (c : Nat) : Bool :=
  match s.connection? c with
  | none => false
  | some k =>
    s.connections.zipIdx.any fun (other, i) =>
      i != c && other.file == k.file && other.draft.isSome

/-- Why the file of a connection cannot be changed even though nobody keeps it out. -/
def obstacle? (s : Store) (k : Connection) : Option Fault :=
  if s.isMoved k then some .readOnly
  else if k.path.any Disk.isUnchangeable then some .cannotOpen
  else none

/-- What a statement makes of the database as the connection would write it. Broken rules of the
table show before a file that cannot be changed. -/
def alter (s : Store) (c : Nat) (st : Statement) (bound : Except Fault Unit)
    (statement : Database → Except Fault Database) : Store × Except Fault Database :=
  match s.ready c st bound with
  | (s, .error f) => (s, .error f)
  | (s, .ok k) =>
    match s.writable k with
    | .error f => (s, .error f)
    | .ok d =>
      let s := s.learn c st d
      match statement d with
      | .error f => (s, .error f)
      | .ok d =>
        match s.obstacle? k with
        | some f => (s, .error f)
        | none => (s, .ok d)

/-- Whether another program keeps a statement out, which changes the database or only reads it. -/
def isKeptOut (s : Store) (c : Nat) (st : Statement) (bound : Except Fault Unit) (writes : Bool) :
    Bool :=
  match s.ready c st bound with
  | (_, .error f) => f == .locked
  | (s, .ok k) =>
    match if writes then s.writable k else s.readable k with
    | .error f => f == .locked
    | .ok _ => false

/-- The store with a database written to the file of a connection, which knows its shape. -/
def write (s : Store) (c : Nat) (d : Database) : Store :=
  match s.connection? c with
  | none => s
  | some k =>
    { s.modify c fun k => { k with shape := some d.shape } with
      disk := s.disk.setContent k.file d }

/-- The store with the draft of a connection written to its file. -/
def commit (s : Store) (c : Nat) : Store :=
  match s.connection? c with
  | none => s
  | some k =>
    match k.draft with
    | none => s
    | some d => { s.setDraft c none with disk := s.disk.setContent k.file d }

/-- The store with another pool. -/
def withPool (s : Store) (pool : Pool) : Store := { s with pool := pool }

/-- Closes the last tracked connection, of which there is one. -/
def closeLast (s : Store) (c : Nat) : Store :=
  (s.close c).withPool s.pool.untrackLast

@[simp] theorem close_disk (s : Store) (c : Nat) : (s.close c).disk = s.disk := rfl

@[simp] theorem close_pool (s : Store) (c : Nat) : (s.close c).pool = s.pool := rfl

@[simp] theorem isOpen_close_self (s : Store) (c : Nat) : (s.close c).isOpen c = false := by
  unfold isOpen connection? close modify
  cases h : s.connections[c]? <;> simp [h, Connection.close]

@[simp] theorem isOpen_close_of_ne (s : Store) {c k : Nat} (h : k ≠ c) :
    (s.close c).isOpen k = s.isOpen k := by
  simp [isOpen, connection?, close, modify, h.symm]

end Store

end CharacterLedger.Storage
