import CharacterLedger.Table.Insertion

/-!
# The database

A database is a version number and, once it has been set up, a table of characters. Every statement
is a function on databases; one that fails leaves no trace.
-/

namespace CharacterLedger.Table

/-- A database. -/
structure Database where
  version : Int
  table : Option CharacterTable
deriving DecidableEq

namespace Database

/-- The version that the table of characters has. -/
def currentVersion : Int := 1

/-- A database that nothing has been done to. -/
def empty : Database := ⟨0, none⟩

/-- The database with the table of characters, a new one if it has none. -/
def withTable (d : Database) : Database := { d with table := some (d.table.getD .empty) }

/-- What setting up a database comes to. -/
inductive SetUp where
  | created
  | migrated
  | upToDate
deriving DecidableEq, Repr

/-- What there is to do to set up a database of a version. -/
def setUpFor (version : Int) : SetUp :=
  if version = 0 then .created
  else if version < currentVersion then .migrated
  else .upToDate

/-- The database set up: below the current version the table is made if it is not there, and the
version raised. Nothing is done at or above the current version. -/
def setUp (d : Database) : Database :=
  match setUpFor d.version with
  | .created | .migrated => { d.withTable with version := currentVersion }
  | .upToDate => d

/-- The texts of a key, or what is wrong with the first half that is wrong. A half that is null has
no text. -/
def keyTexts (channel user : Value) : Except Fault (Option String × Option String) :=
  match keyText? 1 channel, keyText? 2 user with
  | .error f, _ => .error f
  | .ok _, .error f => .error f
  | .ok channel, .ok user => .ok (channel, user)

/-- The row of a key. -/
def select (d : Database) (channel user : Value) : Except Fault (Option Row) :=
  match d.table with
  | none => .error .noTable
  | some t =>
    match keyTexts channel user with
    | .error f => .error f
    | .ok (some channel, some user) => .ok (t.find? channel user)
    | .ok _ => .ok none

/-- Carries out an insertion. -/
def insertOr (d : Database) (conflict : Insertion.OnConflict) (i : Insertion) :
    Except Fault Database :=
  match d.table with
  | none => .error .noTable
  | some t =>
    match i.parameters with
    | .error f => .error f
    | .ok p =>
      match Insertion.into t conflict p with
      | .error f => .error f
      | .ok t => .ok { d with table := some t }

/-- Inserts a row for a key that has none. -/
def insert (d : Database) (i : Insertion) : Except Fault Database := d.insertOr .fail i

/-- Stores a record. -/
def upsert (d : Database) (c : Character) : Except Fault Database :=
  d.insertOr (.update Insertion.storedUpdates) (.ofCharacter c)

/-- The number of rows. -/
def count (d : Database) : Except Fault Nat :=
  match d.table with
  | none => .error .noTable
  | some t => .ok t.rows.length

/-- The rows in the order of their keys. -/
def sortedRows (d : Database) : Except Fault (List Row) :=
  match d.table with
  | none => .error .noTable
  | some t => .ok (t.rows.mergeSort fun r s =>
      decide (r.channel < s.channel) || r.channel == s.channel && decide (r.user ≤ s.user))

/-- The names of the columns. -/
def columns (d : Database) : List String :=
  match d.table with
  | none => []
  | some _ => Character.fieldNames

/-- Drops the table, and with it its triggers. -/
def dropTable (d : Database) : Except Fault Database :=
  match d.table with
  | none => .error .noTable
  | some _ => .ok { d with table := none }

/-- Makes a trigger that refuses an event. -/
def addTrigger (d : Database) (e : Event) : Except Fault Database :=
  match d.table with
  | none => .error .noTableForTrigger
  | some t =>
    if t.triggers.contains e then .error (.triggerExists e)
    else .ok { d with table := some { t with triggers := e :: t.triggers } }

/-- Drops the trigger for an event. -/
def dropTrigger (d : Database) (e : Event) : Except Fault Database :=
  match d.table with
  | none => .error (.noTrigger e)
  | some t =>
    if t.triggers.contains e then
      .ok { d with table := some { t with triggers := t.triggers.erase e } }
    else .error (.noTrigger e)

/-- **Storing a record puts its row in its place**, unless a trigger refuses. -/
theorem upsert_eq (d : Database) (c : Character) :
    d.upsert c =
      match d.table with
      | none => .error .noTable
      | some t =>
        match t.upsert (Row.ofCharacter c) with
        | .error f => .error f
        | .ok t => .ok { d with table := some t } := by
  unfold upsert insertOr
  cases d.table with
  | none => rfl
  | some t => simp only [Insertion.parameters_ofCharacter, Insertion.into_ofCharacter]

theorem setUp_upToDate (d : Database) (h : currentVersion ≤ d.version) : d.setUp = d := by
  simp only [currentVersion] at h
  have h0 : d.version ≠ 0 := by omega
  have h1 : ¬ d.version < 1 := by omega
  simp [setUp, setUpFor, currentVersion, h0, h1]

theorem version_setUp (d : Database) : d.setUp.version = max d.version currentVersion := by
  by_cases h : currentVersion ≤ d.version
  · rw [setUp_upToDate d h]
    omega
  · have hv : d.version < 1 := by simpa [currentVersion] using h
    have hm : max d.version currentVersion = currentVersion := by
      simp only [currentVersion] at h ⊢
      omega
    rw [hm]
    by_cases h0 : d.version = 0 <;> simp [setUp, setUpFor, h0, hv, currentVersion]

end Database

end CharacterLedger.Table
