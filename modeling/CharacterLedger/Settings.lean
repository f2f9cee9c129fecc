import CharacterLedger.Settings.Group

/-!
# Settings

The settings come from four sources: what is given directly, the environment, a file of environment
variables, and defaults. For every setting the first source that has it decides, and only the value
that decides is checked.

The settings of the database and of the dice are groups. A group that nothing is given of is made
before everything else, so that its issues are reported under its own title and hide all others.
-/

namespace CharacterLedger

open CharacterLedger.Number CharacterLedger.Text

/-- The settings of the database. -/
structure DatabaseSettings where
  path : String
  poolSize : Int
  poolTimeout : Binary64
deriving DecidableEq

/-- The settings. -/
structure Settings where
  debug : Bool
  logLevel : String
  database : DatabaseSettings
  seed : Option Int
deriving DecidableEq

namespace Settings

/-- Where the database is unless a path is given. -/
def defaultPath : String := "scum-bot.db"

/-- The settings of the database, with these fields given. -/
def readDatabase (s : Sources) (given : Fields) : Except (List Issue) DatabaseSettings :=
  let find? := databaseGroup.find? s given
  match readOr defaultPath Field.text (find? "path"),
    readOr 5 (Field.integerAtLeast 1) (find? "pool_size"),
    readOr (.ofInt 30) Field.positiveReal (find? "pool_timeout") with
  | .ok path, .ok size, .ok timeout => .ok ⟨path, size, timeout⟩
  | path, size, timeout =>
    .error (issueOf "path" path ++ issueOf "pool_size" size ++ issueOf "pool_timeout" timeout)

/-- The seed of the dice, with these fields given. -/
def readSeed (s : Sources) (given : Fields) : Except (List Issue) (Option Int) :=
  match readOr none Field.optionalInteger (diceGroup.find? s given "seed") with
  | .ok seed => .ok seed
  | .error d => .error (issueOf (α := Unit) "seed" (.error d))

/-- A group that is made before everything else, or while the settings are checked. -/
inductive Part (α : Type) where
  | ahead (r : Except (List Issue) α)
  | within (r : Except (List Issue) α)

/-- Reads a group of which this is given. -/
def readGroup {α : Type} (g : Group) (read : Fields → Except (List Issue) α) :
    Option Value → Part α
  | none => .ahead (read [])
  | some (.object fields) => .within (read fields)
  | some _ => .within (.error [⟨[], .notGroup g.form⟩])

/-- The issues of a group as the settings report them. -/
def Part.issues {α : Type} (g : Group) : Part α → List Issue
  | within (.error issues) => issues.map (Issue.inside g.name)
  | _ => []

/-- Puts the settings together from their parts. -/
def assemble (debug : Except Defect Bool) (logLevel : Except Defect String)
    (database : Part DatabaseSettings) (seed : Part (Option Int)) : Except Error Settings :=
  match database, seed with
  | .ahead (.error issues), _ => .error (.invalid .database issues)
  | _, .ahead (.error issues) => .error (.invalid .dice issues)
  | .ahead (.ok d), .ahead (.ok n) | .ahead (.ok d), .within (.ok n)
  | .within (.ok d), .ahead (.ok n) | .within (.ok d), .within (.ok n) =>
    match debug, logLevel with
    | .ok debug, .ok logLevel => .ok ⟨debug, logLevel, d, n⟩
    | debug, logLevel =>
      .error (.invalid .application (issueOf "debug" debug ++ issueOf "log_level" logLevel))
  | database, seed =>
    .error (.invalid .application
      (issueOf "debug" debug ++ issueOf "log_level" logLevel ++
        database.issues databaseGroup ++ seed.issues diceGroup))

/-- The groups as the variables of one kind give them. -/
def readGroups (o : Search) (source : String) (find? : String → Option Value) :
    Except Error (Option Value × Option Value) := do
  let database ← databaseGroup.ofVariable o source (find? databaseGroup.name)
  let dice ← diceGroup.ofVariable o source (find? diceGroup.name)
  return (database, dice)

/-- Reads the settings, with these given directly. -/
def read (s : Sources) (given : Fields) : Except Error Settings :=
  let o := Search.ofFields "" given
  let find? (name : String) : Option Value := (given.get? name).or (s.find? o name)
  match readGroups o "EnvSettingsSource" (s.inEnvironment? o),
    readGroups o "DotEnvSettingsSource" (s.inFile? o) with
  | .error e, _ => .error e
  | .ok _, .error e => .error e
  | .ok (database, dice), .ok (databaseInFile, diceInFile) =>
    let database := layers [given.get? databaseGroup.name, database, databaseInFile]
    let dice := layers [given.get? diceGroup.name, dice, diceInFile]
    assemble (readOr false Field.flag (find? "debug"))
      (readOr "INFO" Field.text (find? "log_level"))
      (readGroup databaseGroup (readDatabase s) database)
      (readGroup diceGroup (readSeed s) dice)

/-- The settings of a program that is given its database and its seed. -/
def ofParts (path size seed : Value) : Except Error Settings :=
  match readDatabase .empty [("path", path), ("pool_size", size)],
    readSeed .empty [("seed", seed)] with
  | .error issues, _ => .error (.invalid .database issues)
  | .ok _, .error issues => .error (.invalid .dice issues)
  | .ok d, .ok seed => .ok ⟨false, "INFO", d, seed⟩

/-! ### Test mode -/

/-- The variable that turns test mode on, unless it is empty. Its name is compared exactly. -/
def testModeName : String := "TEST_MODE"

/-- Whether an environment turns test mode on. -/
def isTestMode (environment : List (String × String)) : Bool :=
  (environment.lookup testModeName).any fun v => v != ""

/-- What is given of the database in test mode. -/
def testDatabase : Fields := [("path", .text ":memory:"), ("pool_size", .int 1)]

/-- Reads the settings for tests: a database in memory, no seed, everything logged. Only the timeout
comes from outside. -/
def readForTests (s : Sources) : Except Error Settings :=
  match readDatabase s testDatabase with
  | .error issues => .error (.invalid .database issues)
  | .ok d =>
    let o := Search.plain ""
    match readGroups o "EnvSettingsSource" (s.inEnvironment? o),
      readGroups o "DotEnvSettingsSource" (s.inFile? o) with
    | .error e, _ => .error e
    | .ok _, .error e => .error e
    | .ok _, .ok _ => .ok ⟨true, "DEBUG", d, none⟩

/-- Reads the settings of a process. -/
def ofProcess (environment : List (String × String)) (file : Option String) :
    Except Error Settings :=
  if isTestMode environment then readForTests (.of environment file)
  else read (.of environment file) []

/-! ### Log levels -/

/-- The numbers of the named log levels. -/
def levelNumbers : List (String × Nat) := [
  ("CRITICAL", 50), ("FATAL", 50), ("ERROR", 40), ("WARN", 30), ("WARNING", 30), ("INFO", 20),
  ("DEBUG", 10), ("NOTSET", 0)]

/-- The number of the log level; an unknown name gives a text instead. -/
def levelValue (s : Settings) : Nat ⊕ String :=
  if s.debug then .inl 10
  else
    let name := String.ofList (upper s.logLevel.toList)
    match levelNumbers.lookup name with
    | some n => .inl n
    | none => .inr ("Level " ++ name)

theorem levelValue_of_debug (s : Settings) (h : s.debug = true) : s.levelValue = .inl 10 := by
  simp [levelValue, h]

end Settings

end CharacterLedger
