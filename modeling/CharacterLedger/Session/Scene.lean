import CharacterLedger.Ledger.World
import CharacterLedger.Table.Insertion

/-!
# What a session finds

A session works on one store. Its file may exist before it begins, with rows of any kind in its
table, and something else may stand where the file or its directory should be.
-/

namespace CharacterLedger

open CharacterLedger.Ledger CharacterLedger.Storage CharacterLedger.Table

namespace Session

/-- The name of the directory of the file of a session. -/
def directoryName : String := "data"

/-- The directory of the file of a session. -/
def directory : Path := [directoryName]

/-- Where the directory is while it is moved away. -/
def hiddenDirectory : Path := ["data.hidden"]

/-- The file of a session. -/
def file : String := "data/characters.db"

/-- A database as it is found when a session begins. -/
structure Found where
  hasTable : Bool
  rows : List Insertion
  version : Option Int

/-- Whether a database can have the number as its version. -/
def fitsVersion (n : Int) : Bool := -0x80000000 ≤ n && n < 0x80000000

/-- The database with a row inserted, if the row can be. -/
def withRow (d : Database) (i : Insertion) : Database :=
  match d.insert i with
  | .ok d => d
  | .error _ => d

/-- The database that is found. -/
def Found.database (f : Found) : Database :=
  let version := match f.version with
    | some n => if fitsVersion n then n else 0
    | none => 0
  if f.hasTable then f.rows.foldl withRow ⟨version, some .empty⟩ else ⟨version, none⟩

/-- The disk with a file at the path that a text writes, in a directory that is made for it. -/
def place (d : Disk) (text : String) (add : Disk → Disk × Nat) : Disk :=
  match d.makeDirectories (Route.ofText text).parent with
  | (d, .error _) => d
  | (d, .ok ()) =>
    let (d, id) := add d
    d.addNode (Path.ofText text) (.file id)

/-- The disk with a database at the path that a text writes. -/
def placeFile (d : Disk) (text : String) (content : Database) : Disk :=
  place d text fun d => d.addFile content

/-- The disk with the text of a file at a path; a file without text passes for a database. -/
def placeText (d : Disk) (path text : String) : Disk :=
  place d path fun d => if text = "" then d.addFile .empty else d.addForeign

/-- What stands where the file or its directory should be. -/
inductive Obstacle where
  | directory
  | file
deriving DecidableEq, Repr

/-- The disk with an obstacle. -/
def placeObstacle (d : Disk) : Obstacle → Disk
  | .directory => (d.makeDirectories (Route.ofText file)).1
  | .file => placeText d directoryName "data"

/-- A world at its beginning. -/
def world (disk : Disk) (location : Location) (size : Int) (entropy : Dice.Entropy) : World :=
  ⟨⟨disk, [], .make location size⟩, .empty, entropy, [], 0⟩

end Session

end CharacterLedger
