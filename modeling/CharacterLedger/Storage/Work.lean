import CharacterLedger.Storage.Phase

/-!
# Working with a connection

The statement of the errand that a connection was borrowed for is run in one step. If it is a
transaction, as saving a record is, it still has to be ended, or taken back if that fails. Keeping a
connection lasts until it is told to end. Whatever becomes of an errand, its last step gives the
connection back.
-/

namespace CharacterLedger.Storage

open CharacterLedger.Table

namespace Visit

/-- Runs the statement of a save. -/
def workOnSave (character : Character) (s : Store) (q c : Nat) : Option (Step Unit) :=
  if s.isBusy c then none
  else
    match s.alter c .save (.ok ()) fun d => d.upsert character with
    | (s, .error f) =>
      if f.isOfDatabase then some (goOn (s.beginTransaction c) (.undoing q c f) [])
      else some (giveBack s q c (.error (.fault f)))
    | (s, .ok d) => some (goOn (s.setDraft c (some d)) (.committing q c) [])

/-- Runs the statement of a change. -/
def workOnChange (x : Change) (s : Store) (q c : Nat) : Option (Step Unit) :=
  if s.isBusy c then none
  else
    match s.alter c x.statement x.bound x.apply with
    | (s, .error f) => some (giveBack s q c (.error (.fault f)))
    | (s, .ok d) =>
      if x.isTransaction then some (goOn (s.setDraft c (some d)) (.committing q c) [])
      else some (goOn (s.write c d) (.returning q c ()) [])

/-- Runs the errand on a connection. -/
def work : (e : Errand) → Store → Nat → Nat → Option (Step e.Answer)
  | .ask question, s, q, c =>
    match s.ask c question.statement question.bound question.ask with
    | (s, .error f) => some (giveBack s q c (.error (.fault f)))
    | (s, .ok answer) => some (goOn s (.returning q c answer) [])
  | .save character, s, q, c => workOnSave character s q c
  | .change x, s, q, c => workOnChange x s q c
  | .breakConnection, s, q, c => some (giveBack (s.close c) q c (.ok ()))
  | .keep, _, _, _ => none

/-- A failure of the database while the errand runs. -/
def workFailing : (e : Errand) → Store → Nat → Nat → Fault → Option (Step e.Answer)
  | .ask _, s, q, c, f => some (giveBack s q c (.error (.fault f)))
  | .save _, s, q, c, f => some (goOn (s.beginTransaction c) (.undoing q c f) [])
  | .change _, s, q, c, f => some (giveBack s q c (.error (.fault f)))
  | .breakConnection, _, _, _, _ => none
  | .keep, _, _, _, _ => none

/-- A wait for the transaction of another connection ends. -/
def workExpired : (e : Errand) → Store → Nat → Nat → Option (Step e.Answer)
  | .save _, s, q, c => if s.isBusy c then some (goOn s (.undoing q c .locked) []) else none
  | .change _, s, q, c =>
    if s.isBusy c then some (giveBack s q c (.error (.fault .locked))) else none
  | _, _, _, _ => none

/-- The errand of keeping a connection ends. -/
def workFinished : (e : Errand) → Store → Nat → Nat → Option (Step e.Answer)
  | .keep, s, q, c => some (giveBack s q c (.ok ()))
  | _, _, _, _ => none

/-- Ends the transaction of an errand. -/
def endTransaction : (e : Errand) → Store → Nat → Nat → Option (Step e.Answer)
  | .save _, s, q, c | .change _, s, q, c =>
    if s.isOpen c then some (giveBack (s.commit c) q c (.ok ()))
    else some (giveBack s q c (.error (.fault .inactive)))
  | _, _, _, _ => none

/-- Takes back the transaction of an errand that failed. -/
def undo : (e : Errand) → Store → Nat → Nat → Fault → Option (Step e.Answer)
  | .save _, s, q, c, f | .change _, s, q, c, f =>
    if s.isOpen c then some (giveBack (s.setDraft c none) q c (.error (.fault f)))
    else some (giveBack s q c (.error (.fault .inactive)))
  | _, _, _, _, _ => none

/-- Runs a step of an errand, if the visit is for one. -/
def onErrand (p : Purpose) (f : (e : Errand) → Option (Step e.Answer)) : Option (Step p.Answer) :=
  match p with
  | .borrow e => f e
  | .openPool => none

end Visit

end CharacterLedger.Storage
