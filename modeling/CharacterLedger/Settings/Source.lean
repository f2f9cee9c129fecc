import CharacterLedger.Settings.EnvironmentFile
import CharacterLedger.Text.LetterCase
import CharacterLedger.Value

/-!
# Sources of settings

The variables that settings come from, in the environment and in a file, and how they are looked
for. Names are compared without regard to case, and of variables with one name the last counts. What
is given directly of a form may ask for another way: it may leave the file out, have case count,
have empty variables ignored, name a text that stands for null, or change what names begin with.
-/

namespace CharacterLedger.Settings

open CharacterLedger.Text

/-- A name with regard to case left out. -/
def variableName (name : String) : String := String.ofList (lower name.toList)

/-- How the variables of a form are looked for. -/
structure Search where
  /-- What the names of the variables begin with. -/
  start : String
  /-- Whether case counts. -/
  isExact : Bool
  /-- Whether a variable with an empty value counts as missing. -/
  skipsEmpty : Bool
  /-- The text that stands for null. -/
  nullText : Option String
  /-- Whether the file is read. -/
  readsFile : Bool

namespace Search

/-- The name of the file of variables. -/
def fileName : String := ".env"

/-- The usual way to look for variables that begin with `start`. -/
def plain (start : String) : Search := ⟨start, false, false, none, true⟩

/-- Whether a value names the file of variables, alone or among others. -/
def namesFile : Value → Bool
  | .text s => s == fileName || s == "./" ++ fileName
  | .list items => items.any fun
    | .text s => s == fileName || s == "./" ++ fileName
    | _ => false
  | _ => false

/-- The way to look for variables that the fields ask for. -/
def ofFields (start : String) (given : Fields) : Search where
  start := ((given.get? "_env_prefix").bind Value.toText?).getD start
  isExact := (given.get? "_case_sensitive").any Value.isTrue
  skipsEmpty := (given.get? "_env_ignore_empty").any Value.isTrue
  nullText := (given.get? "_env_parse_none_str").bind Value.toText?
  readsFile := ((given.get? "_env_file").map namesFile).getD true

/-- The name as it is compared. -/
def compared (o : Search) (name : String) : String := if o.isExact then name else variableName name

/-- Whether a variable with this name and value is the one for a field. -/
def isFor (o : Search) (field name : String) (value : Option String) : Bool :=
  o.compared name == o.compared (o.start ++ field) && !(o.skipsEmpty && value == some "")

/-- What the text of a variable stands for. -/
def valueOf (o : Search) (text : String) : Value :=
  if o.nullText = some text then .null else .text text

end Search

/-- The variables of the environment and of the file. -/
structure Sources where
  environment : List (String × String)
  file : List (String × Option String)

/-- No variables at all. -/
def Sources.empty : Sources := ⟨[], []⟩

/-- The sources that an environment and the text of a file give. -/
def Sources.of (environment : List (String × String)) (file : Option String) : Sources where
  environment := environment
  file := (file.map (EnvironmentFile.read environment)).getD []

namespace Sources

/-- The value of the variable for a field in the environment. -/
def inEnvironment? (s : Sources) (o : Search) (field : String) : Option Value :=
  (s.environment.reverse.find? fun p => o.isFor field p.1 (some p.2)).map fun p => o.valueOf p.2

/-- The value of the variable for a field in the file. -/
def inFile? (s : Sources) (o : Search) (field : String) : Option Value :=
  if o.readsFile then
    (s.file.reverse.find? fun p => o.isFor field p.1 p.2).bind fun p => p.2.map o.valueOf
  else none

/-- The value of the variable for a field, from the environment if it is there. -/
def find? (s : Sources) (o : Search) (field : String) : Option Value :=
  (s.inEnvironment? o field).or (s.inFile? o field)

end Sources

end CharacterLedger.Settings
