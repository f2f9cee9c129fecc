import CharacterLedger.Text.Pieces

/-!
# Paths

A path is the list of the names on the way to a file or directory. A text writes a path with slashes
between the names. There are two ways to read it: `Path.ofText` leads back at two points at once,
while `Path.steps` keeps the two points, for a walk that looks at every directory on its way.
-/

namespace CharacterLedger.Table

/-- The names on the way to a file or directory. The working directory has none; a path from the
root of the file system starts with a slash, and one that leads out of the working directory with
two points. -/
abbrev Path := List String

namespace Path

/-- The name of the root. -/
def rootName : String := "/"

/-- The name that leads back. -/
def backName : String := ".."

/-- The names that a text writes, and two points for every step back. -/
def steps (s : String) : List String :=
  ((Text.pieces '/' s.toList).map String.ofList).filter fun name => name != "" && name != "."

/-- Where a walk starts by a text. -/
def start (s : String) : Path := if s.toList.head? = some '/' then [rootName] else []

/-- The path that leads one step back. -/
def back (p : Path) : Path :=
  match p.getLast? with
  | none => [backName]
  | some name =>
    if name = backName then p ++ [backName] else if name = rootName then p else p.dropLast

/-- The path followed by one more step. -/
def enter (p : Path) (name : String) : Path := if name = backName then p.back else p ++ [name]

/-- The path that a text writes. -/
def ofText (s : String) : Path := (steps s).foldl enter (start s)

/-- The text that writes a path. -/
def toText (p : Path) : String :=
  match p with
  | [] => "."
  | "/" :: names => "/" ++ String.intercalate "/" names
  | names => String.intercalate "/" names

/-- Whether the path is that of the working directory, of one around it, or of the root. -/
def isTop (p : Path) : Bool := p == [rootName] || p.all fun name => name == backName

/-- The number of bytes of a path in a text. -/
def size (p : Path) : Nat := p.toText.utf8ByteSize

/-- The most bytes of a name. -/
def longestName : Nat := 255

/-- The most bytes of a path that a directory is made at. -/
def longestPath : Nat := 4095

end Path

end CharacterLedger.Table
