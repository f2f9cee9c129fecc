import CharacterLedger.Character.Record
import CharacterLedger.Table.Cell

/-!
# Rows

A row of the table of characters: the channel and the user, and a cell for each action. A row may
hold more than a record does; the record in a row is read from its fields, which a statement lists by
the names of their columns.
-/

namespace CharacterLedger.Table

/-- A row of the table. -/
structure Row where
  channel : String
  user : String
  cells : Sheet Cell
deriving DecidableEq

namespace Row

/-- Whether the row has this key. -/
def hasKey (r : Row) (channel user : String) : Bool := r.channel == channel && r.user == user

/-- What the row holds in a column. -/
def column? (r : Row) (name : String) : Option Value :=
  if name = Character.channelName then some (.text r.channel)
  else if name = Character.userName then some (.text r.user)
  else (Action.ofName? name).map fun a => (r.cells.get a).toValue

/-- The columns that a record is selected from. -/
def selectedColumns : List String :=
  Character.channelName :: Character.userName :: Action.all.map Action.name

/-- The row as the fields of a record. -/
def toFields (r : Row) : Fields :=
  selectedColumns.filterMap fun name => (r.column? name).map fun v => (name, v)

/-- The fault of fetching the row: that of the first column that cannot be decoded. -/
def fault? (r : Row) : Option Fault :=
  selectedColumns.findSome? fun name =>
    (Action.ofName? name).bind fun a => (r.cells.get a).fault? name

/-- The fields of the row as they are fetched. -/
def fetch (r : Row) : Except Fault Fields :=
  match r.fault? with
  | some f => .error f
  | none => .ok r.toFields

/-- The row that stores a record. -/
def ofCharacter (c : Character) : Row :=
  ⟨c.channel, c.user, .ofFn fun a => .integer (c.ratings.get a).toInt⟩

theorem hasKey_iff (r : Row) (channel user : String) :
    r.hasKey channel user = true ↔ r.channel = channel ∧ r.user = user := by
  simp [hasKey]

@[simp] theorem column?_name (r : Row) (a : Action) :
    r.column? a.name = some (r.cells.get a).toValue := by
  cases a <;> rfl

/-- The columns are selected in the order of the fields of records. -/
theorem toFields_eq (r : Row) :
    r.toFields = (Character.channelName, .text r.channel) :: (Character.userName, .text r.user) ::
      Action.all.map fun a => (a.name, (r.cells.get a).toValue) := by
  have hactions : ∀ as : List Action,
      ((as.map Action.name).filterMap fun name => (r.column? name).map fun v => (name, v)) =
        as.map fun a => (a.name, (r.cells.get a).toValue) := by
    intro as
    induction as with
    | nil => rfl
    | cons a as ih =>
      simp only [List.map_cons, List.filterMap_cons, column?_name, Option.map_some, ih]
  rw [← hactions]
  rfl

/-- A row that cannot be fetched has an undecodable text in one of its cells. -/
theorem fault?_eq_some {r : Row} {f : Fault} (h : r.fault? = some f) :
    ∃ (a : Action) (bytes : List UInt8), f = .undecodable a.name bytes ∧
      (r.cells.get a).toValue = .text "\uFFFD" := by
  obtain ⟨name, -, hname⟩ := List.exists_of_findSome?_eq_some h
  obtain ⟨a, ha, hfault⟩ := Option.bind_eq_some_iff.1 hname
  obtain ⟨bytes, rfl, hvalue⟩ := Cell.fault?_eq_some hfault
  exact ⟨a, bytes, by rw [Action.name_of_ofName? ha], hvalue⟩

end Row

end CharacterLedger.Table
