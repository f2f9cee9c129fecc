import CharacterLedger.Error
import CharacterLedger.Storage.Errand

/-!
# Records in the store

What the visit for a record comes back with, in terms of the ledger. A missing row is a blank
character and a row that is no record is corrupt; one that cannot even be fetched is a failure of the
store. Failures of the store are reported and become errors of the ledger with their cause; a wait
that expired needs no further report. A report that would show an id that cannot be written is lost.
-/

namespace CharacterLedger.Ledger

open CharacterLedger.Storage CharacterLedger.Table

/-- A report about the store. -/
def storeNote (message : String) : Log.Note := ⟨.error, .repository, message⟩

/-- A report that begins with what happened to which character, if the ids can be written. -/
def aboutCharacter? (what : String) (channel user : Value) : Option String :=
  match channel.display?, user.display? with
  | some channel, some user => some (what ++ " channel=" ++ channel ++ " user=" ++ user ++ ": ")
  | _, _ => none

/-- The note of a report that begins as given, if it could be written. -/
def storeNotes (report? : Option String) (rest : String) : List Log.Note :=
  report?.toList.map fun report => storeNote (report ++ rest)

/-- The error that a failed visit ends in, and its report, which begins as given. -/
def storeError (report? : Option String) : Failure → List Log.Note × Error
  | .timeout => ([], .storage .timeout)
  | .fault f =>
    if f.isOfStore then (storeNotes report? f.message, .storage (.failed f))
    else ([], .fault f)

/-- What loading ends in if the record cannot be had. -/
def notLoaded (channel user : Value) (failure : Failure) :
    List Log.Note × Except Error Character :=
  let (notes, e) := storeError (aboutCharacter? "Failed to load character" channel user) failure
  (notes, .error e)

/-- The record in a row. -/
def Row.toCharacter (channel user : Value) (r : Row) : List Log.Note × Except Error Character :=
  match r.fetch with
  | .error f => notLoaded channel user (.fault f)
  | .ok fields =>
    match Character.ofFields fields with
    | .ok c => ([], .ok c)
    | .error issues =>
      (storeNotes (aboutCharacter? "Corrupt character row" channel user) Error.issuesText,
        .error (.storage (.corrupt issues)))

/-- The record of a character that has no row. -/
def absentCharacter (channel user : Value) : Except Error Character :=
  match Character.ofFields [(Character.channelName, channel), (Character.userName, user)] with
  | .ok c => .ok c
  | .error issues => .error (.invalid .character issues)

/-- The record that loading gives. -/
def loaded (channel user : Value) :
    Errand.Result (.ask (.character channel user)) → List Log.Note × Except Error Character
  | .error failure => notLoaded channel user failure
  | .ok none => ([], absentCharacter channel user)
  | .ok (some row) => Row.toCharacter channel user row

/-- Whether saving worked. -/
def saved (c : Character) : Errand.Result (.save c) → List Log.Note × Except Error Unit
  | .error failure =>
    let (notes, e) :=
      storeError (aboutCharacter? "Failed to save character" (.text c.channel) (.text c.user))
        failure
    (notes, .error e)
  | .ok () => ([], .ok ())

/-- The number of characters. -/
def counted : Errand.Result (.ask .count) → List Log.Note × Except Error Nat
  | .error failure =>
    let (notes, e) := storeError (some "Failed to count characters: ") failure
    (notes, .error e)
  | .ok n => ([], .ok n)

/-- The rows, or the fault of fetching the first that cannot be decoded. -/
def fetched (rows : List Row) : Except Error (List Row) :=
  match rows.findSome? Row.fault? with
  | some f => .error (.fault f)
  | none => .ok rows

/-- The error of a visit that goes past the ledger. -/
def plainError : Failure → Error
  | .timeout => .storage .timeout
  | .fault f => .fault f

end CharacterLedger.Ledger
