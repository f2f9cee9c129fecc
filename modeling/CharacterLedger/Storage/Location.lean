import CharacterLedger.Table.Address.Reader
import CharacterLedger.Table.Fault

/-!
# Locations

A pool keeps its tables in memory or in a file. In memory, and in some of the files that a text can
name, every connection has a database of its own.
-/

namespace CharacterLedger.Storage

open CharacterLedger.Table

/-- Where the tables of a pool are. -/
inductive Location where
  | memory
  | file (path : String)
deriving DecidableEq, Repr

namespace Location

/-- The location that a text names. -/
def ofText (s : String) : Location := if s = Address.memoryPath then memory else file s

/-- The text that names a location. -/
def toText : Location → String
  | memory => Address.memoryPath
  | file path => path

/-- Whether a text has a character with the code zero, which no path may have. -/
def hasZero (s : String) : Bool := s.toList.any fun c => c.toNat == 0

/-- The address that connections to a location are made to. -/
def address : Location → Except Fault Address
  | memory => .ok (.ofPath Address.memoryPath)
  | file path =>
    if hasZero path then .error .zeroCharacter
    else
      match Address.ofText path with
      | .ok a => .ok a
      | .error d => .error (.badAddress d)

@[simp] theorem address_memory : memory.address = .ok (.ofPath Address.memoryPath) := rfl

end Location

end CharacterLedger.Storage
