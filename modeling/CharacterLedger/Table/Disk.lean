import CharacterLedger.Table.Database
import CharacterLedger.Table.Path

/-!
# The disk

A tree of directories and files below the working directory. A file is known by its place in the
list of all files, so that it stays the same file when a directory above it is renamed. Files that
no path leads to are private to one connection. Another program may hold a file, which keeps writers
out or everyone. A file need not be a database.
-/

namespace CharacterLedger.Table

/-- What a path leads to. -/
inductive Node where
  | directory
  | file (id : Nat)
deriving DecidableEq, Repr

/-- Whom another program keeps out of a file. -/
inductive Hold where
  | writers
  | everyone
deriving DecidableEq, Repr

/-- A file on the disk. -/
structure Stored where
  content : Database
  hold : Option Hold
  /-- Whether the file holds something else than a database. -/
  isForeign : Bool
deriving DecidableEq

/-- The disk. -/
structure Disk where
  nodes : List (Path × Node)
  files : List Stored
deriving DecidableEq

namespace Disk

/-- A disk without files. -/
def empty : Disk := ⟨[], []⟩

/-- What the path leads to. -/
def node? (d : Disk) (p : Path) : Option Node :=
  if p.isTop then some .directory else d.nodes.lookup p

/-- Whether the path leads to a directory. -/
def isDirectory (d : Disk) (p : Path) : Bool := d.node? p == some .directory

/-- Whether the path leads to a file. -/
def isFile (d : Disk) (p : Path) : Bool :=
  match d.node? p with
  | some (.file _) => true
  | _ => false

/-- The disk with one more database. -/
def addFile (d : Disk) (content : Database) : Disk × Nat :=
  ({ d with files := d.files ++ [⟨content, none, false⟩] }, d.files.length)

/-- The disk with one more file that is no database. -/
def addForeign (d : Disk) : Disk × Nat :=
  ({ d with files := d.files ++ [⟨.empty, none, true⟩] }, d.files.length)

/-- The disk with something at a path that led nowhere. -/
def addNode (d : Disk) (p : Path) (n : Node) : Disk := { d with nodes := d.nodes ++ [(p, n)] }

/-- The database with the number `id`. -/
def content (d : Disk) (id : Nat) : Database := (d.files[id]?.map Stored.content).getD .empty

/-- Whom another program keeps out of the file. -/
def hold? (d : Disk) (id : Nat) : Option Hold := (d.files[id]?.map Stored.hold).getD none

/-- Whether the file is no database. -/
def isForeign (d : Disk) (id : Nat) : Bool := d.files[id]?.any Stored.isForeign

/-- The disk with another content of a file. -/
def setContent (d : Disk) (id : Nat) (content : Database) : Disk :=
  { d with files := d.files.modify id fun f => { f with content := content } }

/-- The disk with another hold on a file. -/
def setHold (d : Disk) (id : Nat) (hold : Option Hold) : Disk :=
  { d with files := d.files.modify id fun f => { f with hold := hold } }

/-- The disk with no hold on any file. -/
def releaseAll (d : Disk) : Disk :=
  { d with files := d.files.map fun f => { f with hold := none } }

/-! ### Opening files -/

/-- The most bytes of the path of a database, from the root on. -/
def longestFile : Nat := 504

/-- A number of bytes that the path of the working directory usually has. -/
def workingSize : Nat := 17

/-- The number of bytes of a path from the root on. -/
def fullSize (p : Path) : Nat :=
  if p.head? = some Path.rootName then p.size else workingSize + p.size

/-- One step towards a file. A directory that is left again need not exist, but a file is no way to
anything. -/
def approach (d : Disk) (p : Path) (name : String) : Option Path :=
  if name = Path.backName then some p.back
  else if d.isFile p then none
  else if d.isDirectory p && Path.longestName < name.utf8ByteSize then none
  else if longestFile < fullSize (p ++ [name]) then none
  else some (p ++ [name])

/-- The path of the file that a text leads to. -/
def reach (d : Disk) (text : String) : Option Path :=
  (Path.steps text).foldlM d.approach (Path.start text)

/-- The file at an address, which is made if there is nothing and it may be made. -/
def openFile (d : Disk) (a : Address) : Except Fault (Disk × Path × Nat) :=
  match d.reach a.path with
  | none => .error .cannotOpen
  | some p =>
    match d.node? p with
    | some .directory => .error .cannotOpen
    | some (.file id) => .ok (d, p, id)
    | none =>
      if a.mayCreate && d.isDirectory p.dropLast then
        let (d, id) := d.addFile .empty
        .ok (d.addNode p (.file id), p, id)
      else .error .cannotOpen

/-- How many bytes longer the name of the file is that a change of a database is prepared in. -/
def journalSuffix : Nat := 8

/-- Whether the file at the path has a name too long for any change. -/
def isUnchangeable (p : Path) : Bool :=
  p.getLast?.any fun name => Path.longestName < name.utf8ByteSize + journalSuffix

/-- The names in the working directory, in order. -/
def names (d : Disk) : List String :=
  let tops := d.nodes.filterMap fun n =>
    match n.1 with
    | [name] => some name
    | _ => none
  tops.mergeSort fun a b => decide (a ≤ b)

@[simp] theorem content_setContent_self (d : Disk) (id : Nat) (db : Database)
    (h : id < d.files.length) : (d.setContent id db).content id = db := by
  simp [setContent, content, h]

@[simp] theorem content_setContent_of_ne (d : Disk) {id other : Nat} (db : Database) (h : other ≠ id) :
    (d.setContent id db).content other = d.content other := by
  simp [setContent, content, h.symm]

end Disk

end CharacterLedger.Table
