import CharacterLedger.Ledger.Records
import CharacterLedger.Ledger.Task.Basic

/-!
# Tasks about a character

What a task goes on with once it has the lock of its character and has read the record, or has
written it again after an adjustment. The lock is given back at the very end. Dice are rolled in the
step that ends the task, after the lock is given back.
-/

namespace CharacterLedger.Ledger

open CharacterLedger.Dice CharacterLedger.Number CharacterLedger.Storage

namespace Task

/-- Rolls a pool and ends the task with the outcome. -/
def finishRolling (w : World) (t : Task) (pool : Value) : World × Task :=
  let (result, entropy) := roll pool w.entropy
  let w := { w with entropy := entropy }
  match result with
  | .ok o => finish w t (.ok (.outcome o))
  | .error e => finish w t (.error (.ofRoll e))

/-- Gives the lock back. -/
def release (w : World) (lock : Nat) : World := w.withLocks (w.locks.release lock)

/-- The report that a rating was adjusted, if it can be written. -/
def adjustedReport? (channel user : Value) (a : Adjustment) : Option String :=
  match channel.display?, user.display?, decimal? a.delta.truncated with
  | some channel, some user, some delta =>
    some ("Adjusted rating channel=" ++ channel ++ " user=" ++ user ++ " action=" ++
      a.action.name ++ " delta=" ++ delta ++ " " ++ toString a.before.toInt ++ "->" ++
      toString a.after.truncated)
  | _, _, _ => none

/-- The note that a rating was adjusted. There is none if it cannot be written. -/
def adjustedNotes (channel user : Value) (a : Adjustment) : List Log.Note :=
  (adjustedReport? channel user a).toList.map fun report => ⟨.info, .ledger, report⟩

/-- The adjustment of a rating of a record, within the range of ratings, and the record after it. -/
def adjust (c : Character) (a : Action) (delta : Value) : Except Error (Adjustment × Character) :=
  match changedRating (c.rating a) delta with
  | .error m => .error (.mismatch m)
  | .ok after =>
    match c.withField a.name after with
    | .ok changed => .ok (⟨a, delta, c.rating a, after⟩, changed)
    | .error issues => .error (.invalid .character issues)

/-- Rolls as many dice as a rating and a bonus come to, and ends the task with the outcome. -/
def rollWithBonus (w : World) (t : Task) (rating : Rating) (bonus : Value) : World × Task :=
  match Value.plus rating.toInt bonus with
  | .error m => finish w t (.error (.mismatch m))
  | .ok pool => finishRolling w t pool

/-- Goes on with a record that has been read. -/
def useRecord (w : World) (t : Task) (lock : Nat) (channel user : Value) (c : Character) :
    Use → World × Task
  | .rating a => finish (release w lock) t (.ok (.rating (c.rating a)))
  | .roll a bonus => rollWithBonus (release w lock) t (c.rating a) bonus
  | .resist which => finishRolling (release w lock) t (.int (c.attributeRating which))
  | .view => finish (release w lock) t (.ok (.character c))
  | .adjust a delta =>
    match adjust c a delta with
    | .error e => finish (release w lock) t (.error e)
    | .ok (adjustment, changed) =>
      (w, t.moveTo (.saving lock channel user adjustment changed .entering))

/-- Goes on once the record has been read, or could not be. -/
def afterLoading (w : World) (t : Task) (lock : Nat) (channel user : Value) (use : Use)
    (r : Errand.Result (.ask (.character channel user))) : World × Task :=
  let (notes, result) := loaded channel user r
  let w := w.record t.trace notes
  match result with
  | .error e => finish (release w lock) t (.error e)
  | .ok c => useRecord w t lock channel user c use

/-- Goes on once the record has been written, or could not be. -/
def afterSaving (w : World) (t : Task) (lock : Nat) (channel user : Value) (a : Adjustment)
    (changed : Character) (r : Errand.Result (.save changed)) : World × Task :=
  let (notes, result) := saved changed r
  let w := release (w.record t.trace notes) lock
  match result with
  | .error e => finish w t (.error e)
  | .ok () =>
    finish (w.record t.trace (adjustedNotes channel user a)) t (.ok (.adjusted a.after))

end Task

end CharacterLedger.Ledger
