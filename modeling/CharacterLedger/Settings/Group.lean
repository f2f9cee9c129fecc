import CharacterLedger.Error
import CharacterLedger.Field
import CharacterLedger.Settings.Source
import CharacterLedger.Value.Json.Reader

/-!
# Groups of settings

A group may be given as a whole, as an object, directly or as JSON in a variable; objects are merged
field by field. A field that no object has is looked up under its own name.
-/

namespace CharacterLedger.Settings

/-- A group of settings: its name, its form, what the names of its variables begin with, and the
names of its fields. -/
structure Group where
  name : String
  form : Form
  start : String
  fields : List String

/-- The settings of the database. -/
def databaseGroup : Group := ⟨"db", .database, "database_", ["path", "pool_size", "pool_timeout"]⟩

/-- The settings of the dice. -/
def diceGroup : Group := ⟨"dice", .dice, "dice_", ["seed"]⟩

namespace Group

/-- The field that a name stands for in a variable, where case does not count. -/
def fieldName (g : Group) (name : String) : String :=
  if g.fields.contains (variableName name) then variableName name else name

/-- The fields of an object in a variable. -/
def namedFields (g : Group) (o : Search) (fields : Fields) : Fields :=
  if o.isExact then fields else Fields.ofList (fields.map fun p => (g.fieldName p.1, p.2))

/-- What a variable gives of the group. Its text is JSON; null in it is nothing. -/
def ofVariable (g : Group) (o : Search) (source : String) :
    Option Value → Except Error (Option Value)
  | none => .ok none
  | some (.text json) =>
    match Value.ofJson? json with
    | none => .error (.unreadableGroup g.name source)
    | some .null => .ok none
    | some (.object fields) => .ok (some (.object (g.namedFields o fields)))
    | some v => .ok (some v)
  | some v => .ok (some v)

/-- The value of a field of the group: from the object, or from its own variable. -/
def find? (g : Group) (s : Sources) (given : Fields) (field : String) : Option Value :=
  (given.get? field).or (s.find? (.ofFields g.start given) field)

end Group

/-- One value laid over another: objects are merged, anything else hides what is below. -/
def layer : Option Value → Option Value → Option Value
  | none, lower => lower
  | some (.object upper), some (.object lower) => some (.object (Fields.onTopOf upper lower))
  | some upper, _ => some upper

/-- What is left of several values that are laid over one another, the uppermost first: each is laid
over the next together with all above it. -/
def layers (values : List (Option Value)) : Option Value := values.foldl layer none

/-- A field that is read if a source has it, and has a default. -/
def readOr {α : Type} (default : α) (read : Value → Except Defect α) :
    Option Value → Except Defect α
  | none => .ok default
  | some v => read v

end CharacterLedger.Settings
