import CharacterLedger.Table.CharacterTable

/-!
# Insertions

A statement that inserts a row names columns and gives a value of any type for each.  The parameters
are looked at before the table; the trigger fires before the columns are checked, and the key is
compared last.  If the key has a row already, a plain insertion fails, and one that says which columns
to update changes the row.
-/

namespace CharacterLedger.Table

/-- An insertion: a key, and values for some of the rating columns. -/
structure Insertion where
  channel : Value
  user : Value
  cells : Fields

namespace Insertion

/-- The insertion that gives these values for these columns, in their order. -/
def ofColumns (columns : List String) (values : List Value) : Insertion :=
  let given := columns.zip values
  ⟨(Fields.get? given Character.channelName).getD .null,
    (Fields.get? given Character.userName).getD .null, given⟩

/-- The values for columns, in the order of columns. Names that are no columns do not count. -/
def given (i : Insertion) : List (Action × Value) :=
  Action.all.filterMap fun a => (i.cells.get? a.name).map fun v => (a, v)

/-- The columns that values are given for. -/
def columns (i : Insertion) : List Action := i.given.map Prod.fst

/-- The cells for values, starting at parameter number `index`. -/
def bind (index : Nat) : List (Action × Value) → Except Fault (List (Action × Option Cell))
  | [] => .ok []
  | (a, v) :: rest =>
    match Cell.ofValue? index v, bind (index + 1) rest with
    | .error f, _ => .error f
    | .ok _, .error f => .error f
    | .ok cell, .ok cells => .ok ((a, cell) :: cells)

/-- The parameters of an insertion: the key and the cells. -/
structure Parameters where
  channel : Option String
  user : Option String
  cells : List (Action × Option Cell)

/-- The parameters, or what is wrong with the first that is wrong. -/
def parameters (i : Insertion) : Except Fault Parameters :=
  match keyText? 1 i.channel, keyText? 2 i.user, bind 3 i.given with
  | .error f, _, _ => .error f
  | .ok _, .error f, _ => .error f
  | .ok _, .ok _, .error f => .error f
  | .ok channel, .ok user, .ok cells => .ok ⟨channel, user, cells⟩

/-- The column of the first cell that is given as null. -/
def nullColumn? (cells : List (Action × Option Cell)) : Option Action :=
  Action.all.find? fun a => cells.lookup a == some none

/-- The row with the cells that are given, and zero in the other columns. -/
def row (channel user : String) (cells : List (Action × Option Cell)) : Row :=
  ⟨channel, user, .ofFn fun a => ((cells.lookup a).getD none).getD (.integer 0)⟩

/-- A column that is set to what another column of the row that was to be inserted holds. -/
structure Assignment where
  column : String
  source : String

/-- The row with one column set from the row that was to be inserted. Only rating columns are set. -/
def Assignment.apply (inserted : Row) (r : Row) (x : Assignment) : Row :=
  match Action.ofName? x.column, Action.ofName? x.source with
  | some a, some b => { r with cells := r.cells.set a (inserted.cells.get b) }
  | _, _ => r

/-- What is done where a key has a row already: nothing can be, or columns are set. -/
inductive OnConflict where
  | fail
  | update (assignments : List Assignment)

/-- The rows with the one of a key changed. -/
def changeRow (channel user : String) (change : Row → Row) : List Row → List Row
  | [] => []
  | r :: rows =>
    if r.hasKey channel user then change r :: rows else r :: changeRow channel user change rows

/-- The table, which has a row for the key of the one that was to be inserted. -/
def resolve (t : CharacterTable) (inserted : Row) : OnConflict → Except Fault CharacterTable
  | .fail => .error .duplicateKey
  | .update assignments =>
    if t.triggers.contains .update then .error .refused
    else .ok { t with
      rows := changeRow inserted.channel inserted.user
        (fun r => assignments.foldl (Assignment.apply inserted) r) t.rows }

/-- The row inserted into the table. -/
def into (t : CharacterTable) (conflict : OnConflict) (p : Parameters) :
    Except Fault CharacterTable :=
  if t.triggers.contains .insert then .error .refused
  else
    match p.channel, p.user with
    | none, _ => .error (.nullColumn Character.channelName)
    | some _, none => .error (.nullColumn Character.userName)
    | some channel, some user =>
      match nullColumn? p.cells with
      | some a => .error (.nullColumn a.name)
      | none =>
        if (t.find? channel user).isSome then resolve t (row channel user p.cells) conflict
        else .ok { t with rows := t.rows ++ [row channel user p.cells] }

/-! ### The statement that stores a record -/

/-- The columns that a record is stored in. -/
def storedColumns : List String :=
  Character.channelName :: Character.userName :: Action.all.map Action.name

/-- What is stored of a record, in the order of the columns. -/
def storedValues (c : Character) : List Value :=
  .text c.channel :: .text c.user :: Action.all.map fun a => .int (c.rating a).toInt

/-- The columns of a row that is there already are set to those of the record. -/
def storedUpdates : List Assignment := Action.all.map fun a => ⟨a.name, a.name⟩

/-- The insertion that stores a record. -/
def ofCharacter (c : Character) : Insertion := ofColumns storedColumns (storedValues c)

theorem parameters_ofCharacter (c : Character) :
    (ofCharacter c).parameters = .ok ⟨some c.channel, some c.user,
      Action.all.map fun a => (a, some (.integer (c.rating a).toInt))⟩ := by
  have hbind : ∀ (as : List Action) (index : Nat),
      bind index (as.map fun a => (a, .int (c.rating a).toInt)) =
        .ok (as.map fun a => (a, some (.integer (c.rating a).toInt))) := by
    intro as
    induction as with
    | nil => exact fun _ => rfl
    | cons a as ih =>
      intro index
      have hfits : Cell.fits (c.rating a).toInt = true := by
        have hrange := Rating.toInt_range (c.rating a)
        unfold Cell.fits Cell.leastInteger Cell.greatestInteger
        rw [Bool.and_eq_true]
        exact ⟨decide_eq_true (by omega), decide_eq_true (by omega)⟩
      simp only [List.map_cons, bind, Cell.ofValue?, hfits, if_true, ih]
  have hgiven : (ofCharacter c).given = Action.all.map fun a => (a, .int (c.rating a).toInt) := rfl
  unfold parameters
  rw [hgiven, hbind]
  rfl

/-- What is inserted is the row of the record. -/
theorem row_ofCharacter (c : Character) :
    row c.channel c.user (Action.all.map fun a => (a, some (.integer (c.rating a).toInt))) =
      Row.ofCharacter c := by
  unfold row Row.ofCharacter
  congr 2
  funext a
  cases a <;> rfl

/-- Setting columns to those of the same name takes the cells over. -/
theorem get_foldl_apply (inserted r : Row) (as : List Action) (a : Action) :
    ((as.map fun a => (⟨a.name, a.name⟩ : Assignment)).foldl (Assignment.apply inserted)
        r).cells.get a =
      if a ∈ as then inserted.cells.get a else r.cells.get a := by
  induction as generalizing r with
  | nil => rfl
  | cons b as ih =>
    rw [List.map_cons, List.foldl_cons, ih]
    simp only [Assignment.apply, Action.ofName?_name]
    by_cases hlater : a ∈ as
    · rw [if_pos hlater, if_pos (List.mem_cons_of_mem b hlater)]
    · rw [if_neg hlater]
      by_cases hab : a = b
      · simp [hab]
      · simp [hab, hlater]

/-- Setting a column leaves the key alone. -/
theorem key_foldl_apply (inserted : Row) (xs : List Assignment) (r : Row) :
    (xs.foldl (Assignment.apply inserted) r).channel = r.channel ∧
      (xs.foldl (Assignment.apply inserted) r).user = r.user := by
  induction xs generalizing r with
  | nil => exact ⟨rfl, rfl⟩
  | cons x xs ih =>
    rw [List.foldl_cons, (ih _).1, (ih _).2]
    unfold Assignment.apply
    split <;> exact ⟨rfl, rfl⟩

/-- **The updates of the statement make the row of a key the one that was to be inserted.** -/
theorem foldl_storedUpdates {inserted r : Row}
    (h : r.hasKey inserted.channel inserted.user = true) :
    storedUpdates.foldl (Assignment.apply inserted) r = inserted := by
  obtain ⟨hchannel, huser⟩ := key_foldl_apply inserted storedUpdates r
  obtain ⟨hc, hu⟩ := (Row.hasKey_iff ..).1 h
  have hcells : (storedUpdates.foldl (Assignment.apply inserted) r).cells = inserted.cells :=
    Sheet.ext_get fun a => by
      rw [storedUpdates, get_foldl_apply, if_pos (Action.mem_all a)]
  generalize storedUpdates.foldl (Assignment.apply inserted) r = s at hchannel huser hcells
  obtain ⟨channel, user, cells⟩ := s
  obtain ⟨channel', user', cells'⟩ := inserted
  simp_all

/-- Changing the row of a key into another is putting that one in its place. -/
theorem changeRow_eq_replaceRow {inserted : Row} {change : Row → Row} {rows : List Row}
    (hchange : ∀ r, r.hasKey inserted.channel inserted.user = true → change r = inserted)
    (h : (rows.find? fun r => r.hasKey inserted.channel inserted.user).isSome = true) :
    changeRow inserted.channel inserted.user change rows =
      CharacterTable.replaceRow inserted rows := by
  induction rows with
  | nil => cases h
  | cons r rows ih =>
    unfold changeRow CharacterTable.replaceRow
    by_cases hr : r.hasKey inserted.channel inserted.user = true
    · rw [if_pos hr, if_pos hr, hchange r hr]
    · rw [if_neg hr, if_neg hr, ih (by simpa [List.find?_cons, hr] using h)]

/-- **The statement that stores a record puts its row in its place.** -/
theorem into_ofCharacter (t : CharacterTable) (c : Character) :
    into t (.update storedUpdates) ⟨some c.channel, some c.user,
        Action.all.map fun a => (a, some (.integer (c.rating a).toInt))⟩ =
      t.upsert (Row.ofCharacter c) := by
  have hnull : nullColumn? (Action.all.map fun a => (a, some (Cell.integer (c.rating a).toInt))) =
      none := by
    rw [nullColumn?, List.find?_eq_none]
    intro a _
    cases a <;> exact Bool.false_ne_true
  unfold into CharacterTable.upsert
  split
  · rfl
  · simp only [hnull, row_ofCharacter, resolve]
    change (if (t.find? (Row.ofCharacter c).channel (Row.ofCharacter c).user).isSome then _
      else _) = _
    cases hfound : (t.find? (Row.ofCharacter c).channel (Row.ofCharacter c).user).isSome with
    | true =>
      rw [changeRow_eq_replaceRow (fun r hr => foldl_storedUpdates hr) hfound]
      simp
    | false => simp [CharacterTable.replaceRow_of_absent hfound]

end Insertion

end CharacterLedger.Table
