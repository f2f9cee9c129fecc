import CharacterLedger.Bootstrap

/-!
# The command

Reads the settings from the environment and from the file `.env` in the working directory, and goes
through the start of the program with them on a disk that is empty at first. The log goes to
standard output, the error that ends a start to standard error.
-/

namespace CharacterLedger

/-- The variables that the settings come from. -/
def variableNames : List String := [
  Settings.testModeName, "DATABASE_PATH", "DATABASE_POOL_SIZE", "DATABASE_POOL_TIMEOUT",
  "DICE_SEED", "DEBUG", "LOG_LEVEL", "DB", "DICE"]

/-- The name of the file of variables. -/
def variableFile : String := ".env"

/-- The variables of these names that the environment has. -/
def readVariables : List String → IO (List (String × String))
  | [] => return []
  | name :: names => do
    let others ← readVariables names
    match ← IO.getEnv name with
    | some value => return (name, value) :: others
    | none => return others

/-- The text of the file of variables, if it can be read. -/
def readVariableFile : IO (Option String) := do
  try
    return some (← IO.FS.readFile variableFile)
  catch _ =>
    return none

end CharacterLedger

open CharacterLedger in
/-- Starts the program once. -/
def main : IO UInt32 := do
  let environment ← readVariables variableNames
  let file ← readVariableFile
  let outcome := Bootstrap.start true environment file .empty
  outcome.log.forM fun text => IO.println text
  match outcome.result with
  | .ok () => return 0
  | .error e => do
    IO.eprintln e.summary
    return 1
