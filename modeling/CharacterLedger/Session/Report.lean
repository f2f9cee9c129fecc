import CharacterLedger.Session.Perform
import CharacterLedger.Settings

/-!
# What is reported of a session

A session reports how the opening of its pool went, the answer to every step with what was drawn and
logged, and the rows at the end. An engine run opens a pool of its own on a shared disk and closes
it.
-/

namespace CharacterLedger

open CharacterLedger.Ledger CharacterLedger.Storage CharacterLedger.Table

namespace Session

/-- What is reported of a step: its answer, how many faces of a script have been drawn so far, and
what was noted meanwhile. -/
structure StepReport where
  answer : Except Error Answer
  drawn : Option Nat
  log : List Log.Entry

/-- Carries out a step and reports on it. -/
def reportStep (patience : Nat) (step : Step) (w : World) : StepReport × World :=
  let (answer, w) := perform patience step { w with log := [] }
  (⟨answer, w.entropy.drawn?, w.log⟩, w)

/-- Carries out steps and reports on each. -/
def reportSteps (patience : Nat) : List Step → World → List StepReport × World
  | [], w => ([], w)
  | step :: steps, w =>
    let (report, w) := reportStep patience step w
    let (reports, w) := reportSteps patience steps w
    (report :: reports, w)

/-- What is reported of a session: how the opening went unless it was left to the first step, the
steps, and the rows at the end. -/
structure Report where
  opening : Option (Except Error Unit)
  steps : List StepReport
  rows : Except Error (List Row)

/-- Opens the pool. -/
def openFirst (patience : Nat) (w : World) : Except Error Unit × World :=
  let (answer, w) := perform patience (.request (.ok .openPool)) w
  (answer.map fun _ => (), w)

/-- The rows at the end. -/
def lastRows (patience : Nat) (w : World) : Except Error (List Row) :=
  (perform patience (.request (.ok (.borrow (.ask .rows)))) w).1.map fun
    | .reply (.rows rows) => rows
    | _ => []

/-- Carries out a session. -/
def run (patience : Nat) (w : World) (lazy : Bool) (steps : List Step) : Report :=
  let (opening, w) :=
    if lazy then (none, w)
    else
      let (result, w) := openFirst patience w
      (some result, w)
  let (reports, w) := reportSteps patience steps w
  ⟨opening, reports, lastRows patience w⟩

/-- One run of the whole program on a shared file: its settings and what is done. -/
structure EngineRun where
  settings : Except Error Settings
  steps : List Step

/-- Carries out a run with these settings. -/
def runEngine (settings : Settings) (steps : List Step) (disk : Disk) :
    List (Except Error Answer) × Disk :=
  let location := Location.ofText settings.database.path
  let w := world disk location settings.database.poolSize (.ofSeed settings.seed)
  let (_, w) := openFirst usualPatience w
  let (reports, w) := reportSteps usualPatience steps w
  let (_, w) := perform usualPatience (.request (.ok .closePool)) w
  (reports.map StepReport.answer, w.store.disk)

/-- Carries out runs one after the other on one disk. Settings that cannot be read end it all. -/
def runEngines : List EngineRun → Disk → Except Error (List (List (Except Error Answer)))
  | [], _ => .ok []
  | r :: runs, disk =>
    match r.settings with
    | .error e => .error e
    | .ok settings =>
      let (answers, disk) := runEngine settings r.steps disk
      (runEngines runs disk).map (answers :: ·)

end Session

end CharacterLedger
