import CharacterLedger.Table.Disk

/-!
# Directories

Making directories and renaming things. A directory is reached by a walk along existing directories
only; two points lead back from where the walk has got to.
-/

namespace CharacterLedger.Table

/-- The way to a place: where a walk starts, and its steps. -/
structure Route where
  start : Path
  steps : List String
deriving DecidableEq, Repr

namespace Route

/-- The way that a text writes. -/
def ofText (s : String) : Route := ⟨Path.start s, Path.steps s⟩

/-- The way without its last step. -/
def parent (r : Route) : Route := ⟨r.start, r.steps.dropLast⟩

/-- The text that writes the way. -/
def toText (r : Route) : String := Path.toText (r.start ++ r.steps)

end Route

namespace Disk

/-- One step of a walk. -/
def walkOn (d : Disk) (p : Path) (name : String) : Except Fault Path :=
  match d.node? p with
  | none => .error (.fileMissing p.toText)
  | some (.file _) => .error (.notDirectory p.toText)
  | some .directory =>
    if Path.longestName < name.utf8ByteSize then .error (.nameTooLong p.toText)
    else .ok (p.enter name)

/-- Where a walk ends; there need be nothing. -/
def walk (d : Disk) (r : Route) : Except Fault Path := r.steps.foldlM d.walkOn r.start

/-- Where a walk ends that has got to `p` and has only the last step left. -/
def walkLast (d : Disk) (p : Path) (r : Route) : Except Fault Path :=
  match r.steps.getLast? with
  | none => .ok p
  | some name => d.walkOn p name

/-- Makes sure that there is a directory where a walk ends, and says where that is. -/
def makeDirectory (d : Disk) (r : Route) (target : Except Fault Path) : Disk × Except Fault Path :=
  if Path.longestPath < r.toText.utf8ByteSize then (d, .error (.nameTooLong r.toText))
  else
    match target with
    | .error f => (d, .error f)
    | .ok p =>
      match d.node? p with
      | none => (d.addNode p .directory, .ok p)
      | some .directory => (d, .ok p)
      | some (.file _) => (d, .error (.fileExists r.toText))

/-- Makes sure that there is a directory, and on the way to it for `n` steps back. What has been
made before a failure stays. -/
def ensureDirectory : Nat → Disk → Route → Disk × Except Fault Path
  | 0, d, r => d.makeDirectory r (d.walk r)
  | n + 1, d, r =>
    match d.makeDirectory r (d.walk r) with
    | (_, .error (.fileMissing _)) =>
      match ensureDirectory n d r.parent with
      | (d, .ok p) => d.makeDirectory r (d.walkLast p r)
      | (d, .error f) => (d, .error f)
    | result => result

/-- Makes a directory and those on the way to it that are missing. -/
def makeDirectories (d : Disk) (r : Route) : Disk × Except Fault Unit :=
  let (d, place) := d.ensureDirectory r.steps.length r
  (d, place.map fun _ => ())

/-- Whether the directory has nothing in it. -/
def isBare (d : Disk) (p : Path) : Bool := !d.nodes.any fun n => n.1 != p && p.isPrefixOf n.1

/-- The disk with everything at and below a path moved to another one, of which the node is gone. -/
def moveNodes (d : Disk) (source target : Path) : Disk :=
  let move (p : Path) : Path :=
    if source.isPrefixOf p then target ++ p.drop source.length else p
  { d with nodes := (d.nodes.filter fun n => n.1 != target).map fun n => (move n.1, n.2) }

/-- Renames a directory or a file. A file gives way to a file, and an empty directory to a
directory. -/
def rename (d : Disk) (source target : Path) : Except Fault Disk :=
  match d.node? source, d.node? target with
  | none, _ => .error (.fileMissing source.toText)
  | some _, none => .ok (d.moveNodes source target)
  | some .directory, some .directory =>
    if d.isBare target then .ok (d.moveNodes source target)
    else .error (.directoryNotEmpty source.toText)
  | some .directory, some (.file _) => .error (.notDirectory source.toText)
  | some (.file _), some .directory => .error (.isDirectory source.toText)
  | some (.file _), some (.file _) => .ok (d.moveNodes source target)

theorem makeDirectories_of_exists {d : Disk} {r : Route} {p : Path} (hw : d.walk r = .ok p)
    (hp : d.node? p = some .directory) (hs : r.toText.utf8ByteSize ≤ Path.longestPath) :
    d.makeDirectories r = (d, .ok ()) := by
  have hm : d.makeDirectory r (.ok p) = (d, .ok p) := by
    have : ¬ Path.longestPath < r.toText.utf8ByteSize := by omega
    simp [makeDirectory, this, hp]
  unfold makeDirectories
  cases r.steps.length <;> simp [ensureDirectory, hw, hm, Except.map]

end Disk

end CharacterLedger.Table
