import CharacterLedger.Ledger.Call
import CharacterLedger.Ledger.World
import CharacterLedger.Storage.Phase

/-!
# Tasks

A task carries out one call. A command runs under a trace number: it is logged as received first and
as processed last, and if it fails, as failed in between. One that cannot be written leaves no line
in the log, and its trace number stays.
-/

namespace CharacterLedger.Ledger

open CharacterLedger.Storage

/-- The adjustment of a rating: by how much, and what the rating was before and is after. -/
structure Adjustment where
  action : Action
  delta : Value
  before : Rating
  after : Value

/-- How far a task has got. A number stands for the lock that it waits for or holds. -/
inductive Stage where
  | ready
  | visiting (p : Purpose) (phase : Phase p.Answer)
  /-- The connection that is being closed. -/
  | closing (c : Nat)
  | queued (lock : Nat) (channel user : Value) (use : Use)
  | loading (lock : Nat) (channel user : Value) (use : Use)
      (phase : Phase (Purpose.borrow (.ask (.character channel user))).Answer)
  | saving (lock : Nat) (channel user : Value) (a : Adjustment) (changed : Character)
      (phase : Phase (Purpose.borrow (.save changed)).Answer)
  | queuedToHold (lock : Nat)
  | holding (lock : Nat)
  | done (result : Except Error Reply)

/-- A task: its call, the trace numbers that it runs under, the last one first, and its stage. -/
structure Task where
  call : Call
  traces : List Nat
  stage : Stage

namespace Task

/-- A task that has not begun. -/
def new (call : Call) : Task := ⟨call, [], .ready⟩

/-- The trace number that the task runs under. -/
def trace (t : Task) : Option Nat := t.traces.head?

/-- The result, if the task is done. -/
def result? (t : Task) : Option (Except Error Reply) :=
  match t.stage with
  | .done r => some r
  | _ => none

/-- The task at another stage. -/
def moveTo (t : Task) (stage : Stage) : Task := { t with stage := stage }

/-! ### The log of a command -/

/-- A note about the command with a context. -/
def commandNote (level : Log.Level) (what context rest : String) : Log.Note :=
  ⟨level, .commands, what ++ " " ++ context ++ rest⟩

/-- The note that a command has come. -/
def receivedNote (context : String) : Log.Note := commandNote .info "Intent received" context ""

/-- The note that a command has been dealt with. -/
def processedNote (context : String) : Log.Note :=
  commandNote .info "Intent processed" context " execution_time_ms=#"

/-- The note that a command has failed. -/
def failedNote (context : String) (e : Error) : Log.Note :=
  match e.key? with
  | some key => commandNote .warning "Intent failed" context (" error=" ++ key)
  | none => commandNote .error "Exception caught in intent" context (" error=" ++ e.summary)

/-- The notes that end a command. -/
def closingNotes (context : String) : Except Error Reply → List Log.Note
  | .ok _ => [processedNote context]
  | .error e => [failedNote context e, processedNote context]

/-- Begins the trace of a command. -/
def beginTrace (w : World) (t : Task) : World × Task :=
  match t.call with
  | .execute (.command i) =>
    (({ w with traced := w.traced + 1 }).record (some (w.traced + 1))
        ((Log.context? i.fields).toList.map receivedNote),
      { t with traces := (w.traced + 1) :: t.traces })
  | _ => (w, t)

/-- Ends the task with a result, and with it the trace of a command that could be written. -/
def finish (w : World) (t : Task) (r : Except Error Reply) : World × Task :=
  match t.call.context? with
  | some context =>
    (w.record t.trace (closingNotes context r), { t with traces := t.traces.tail, stage := .done r })
  | none => (w, t.moveTo (.done r))

end Task

end CharacterLedger.Ledger
