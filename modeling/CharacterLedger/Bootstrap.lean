import CharacterLedger.Session.Report
import CharacterLedger.Settings

/-!
# The start of the program

The start reads the settings, opens the database at the path they name, which sets it up, counts the
characters and closes the database again. Nothing is touched unless the settings can be read and
name a known log level. What is reported are the entries of the log at that level or above.
-/

namespace CharacterLedger.Bootstrap

open CharacterLedger.Ledger CharacterLedger.Storage CharacterLedger.Table

/-- A log entry as a line, without the time. A message ends with its first line. -/
def line (e : Log.Entry) : String :=
  Text.firstLine <| e.note.origin.name ++ " - " ++ e.note.level.name ++ " - [" ++
    (e.trace.map toString).getD "" ++ "] " ++ e.note.message

/-- The lines of the entries at a level or above. -/
def lines (level : Nat) (log : List Log.Entry) : List String :=
  (log.filter fun e => decide (level ≤ e.note.level.rank)).map line

/-- The note that ends a start. -/
def readyNote (asScript : Bool) (path : String) (count : Nat) : Log.Note :=
  ⟨.info, .bootstrap asScript,
    "Database " ++ path ++ " ready with " ++ toString count ++ " characters"⟩

/-- Counts the characters. -/
def countOn (asScript : Bool) (path : String) (w : World) : Except Error Unit × World :=
  match Session.callOn w (.borrow (.ask .count)) with
  | (.error e, w) => (.error e, w)
  | (.ok (.count n), w) => (.ok (), w.record none [readyNote asScript path n])
  | (.ok _, w) => (.ok (), w)

/-- Opens the database, counts the characters and closes it. -/
def runOn (asScript : Bool) (path : String) (w : World) : Except Error Unit × World :=
  match Session.callOn w .openPool with
  | (.error e, w) => (.error e, w)
  | (.ok _, w) =>
    let (result, w) := countOn asScript path w
    (result, (Session.callOn w .closePool).2)

/-- What a start comes to. -/
structure Outcome where
  result : Except Error Unit
  log : List String
  disk : Disk

/-- One start with these settings. -/
def startWith (asScript : Bool) (s : Settings) (disk : Disk) : Outcome :=
  match s.levelValue with
  | .inr name => ⟨.error (.unknownLevel name), [], disk⟩
  | .inl level =>
    let location := Location.ofText s.database.path
    let w := Session.world disk location s.database.poolSize (.ofSeed s.seed)
    let (result, w) := runOn asScript s.database.path w
    ⟨result, lines level w.log, w.store.disk⟩

/-- One start in an environment, with the text of the file beside it. -/
def start (asScript : Bool) (environment : List (String × String)) (file : Option String)
    (disk : Disk) : Outcome :=
  match Settings.ofProcess environment file with
  | .error e => ⟨.error e, [], disk⟩
  | .ok s => startWith asScript s disk

/-- The disk with the file of variables, if there is one. -/
def placeVariables (disk : Disk) : Option String → Disk
  | none => disk
  | some text => Session.placeText disk Settings.Search.fileName text

/-- Several starts one after the other. -/
def startTimes (asScript : Bool) (environment : List (String × String)) (file : Option String) :
    Nat → Disk → List Outcome × Disk
  | 0, disk => ([], disk)
  | times + 1, disk =>
    let outcome := start asScript environment file disk
    let (outcomes, disk) := startTimes asScript environment file times outcome.disk
    (outcome :: outcomes, disk)

/-- Several starts in a directory where the file of variables, if there is one, lies. -/
def startTimesBeside (asScript : Bool) (environment : List (String × String)) (file : Option String)
    (times : Nat) (disk : Disk) : List Outcome × Disk :=
  startTimes asScript environment file times (placeVariables disk file)

end CharacterLedger.Bootstrap
