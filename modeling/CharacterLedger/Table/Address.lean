/-!
# Addresses of databases

Where a database is, what may be done with it, and how its file is reached. An address need not lead
to a file: a database may be in memory, or in a file without a name.
-/

namespace CharacterLedger.Table

/-- What is wrong with an address. -/
inductive AddressDefect where
  | authority (name : String)
  | mode (option value : String)
  /-- More is asked for than an earlier option has left. -/
  | notAllowed (value : String)
  | system (name : String)
deriving DecidableEq, Repr

/-- The report of a defect. -/
def AddressDefect.message : AddressDefect → String
  | authority name => "invalid uri authority: " ++ name
  | mode option value => "no such " ++ option ++ " mode: " ++ value
  | notAllowed value => "access mode not allowed: " ++ value
  | system name => "no such vfs: " ++ name

/-- What may be done with a file. -/
inductive Access where
  | read
  | write
  /-- To write to the file, which is made if it is missing. -/
  | create
  /-- There is no file. -/
  | memory
deriving DecidableEq, Repr

/-- How much an access asks for. -/
def Access.need : Access → Nat
  | memory => 0
  | read => 1
  | write => 2
  | create => 3

/-- How much may be asked for once this access has been. There is no limit where there is no file.
-/
def Access.limit : Access → Nat
  | memory => 3
  | a => a.need

/-- Where a database is, and how it is reached. -/
structure Address where
  path : String
  access : Access
  /-- The way to reach the file. -/
  system : String
  /-- Whether the file is known never to change, if an option says so. -/
  isFixed? : Option Bool
deriving DecidableEq, Repr

namespace Address

/-- The usual way to reach a file. -/
def plainSystem : String := "unix"

/-- The way to keep files in memory. -/
def memorySystem : String := "memdb"

/-- The ways to reach a file. -/
def systems : List String :=
  [plainSystem, "unix-none", "unix-dotfile", "unix-excl", memorySystem]

/-- The path that stands for memory. -/
def memoryPath : String := ":memory:"

/-- The address of a path. -/
def ofPath (path : String) : Address := ⟨path, .create, plainSystem, none⟩

/-- Whether there is no file with a name. -/
def isNameless (a : Address) : Bool := a.path == "" || a.path == memoryPath || a.access == .memory

/-- Whether nobody else can have the database: it is in memory, or in a file without a name. -/
def isPrivate (a : Address) : Bool := a.isNameless || a.system == memorySystem

/-- Whether the file is made if it is missing. -/
def mayCreate (a : Address) : Bool := a.access == .create

/-- Whether the database may be written to. -/
def mayWrite (a : Address) : Bool := a.access != .read && (a.isNameless || a.isFixed? != some true)

@[simp] theorem isPrivate_ofPath_memory : (ofPath memoryPath).isPrivate = true := rfl

end Address

end CharacterLedger.Table
