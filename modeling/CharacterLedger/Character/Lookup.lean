import CharacterLedger.Character.Record
import CharacterLedger.Error

/-!
# Looking things up in a record

The parts of a record by their names, which are compared exactly here: its fields, the key and the
ratings as a whole, and the ratings of its attributes.
-/

namespace CharacterLedger

/-- Why nothing is found. -/
inductive LookupError where
  | noField (name : String)
  | noAttribute (given : Value)
  | mismatch (m : Mismatch)

/-- The report of a lookup that found nothing, unless it shows a value that cannot be written. -/
def LookupError.message? : LookupError → Option String
  | noField name => some ("'CharacterRecord' object has no attribute " ++ Text.quoted name)
  | noAttribute given => given.inspect?
  | mismatch m => some m.message

namespace Character

/-- The channel and the user of a record. -/
def key (c : Character) : String × String := (c.channel, c.user)

/-- The ratings by the names of their actions, in order. -/
def ratingsByName (c : Character) : List (String × Rating) :=
  Action.all.map fun a => (a.name, c.rating a)

/-- The ratings of the attributes by their names, in order. -/
def attributesByName (c : Character) : List (String × Nat) :=
  Attribute.all.map fun t => (t.name, c.attributeRating t)

/-- The part of a record that has the name. -/
def part? (c : Character) (name : String) : Option Value :=
  if name = "key" then some (.list [.text c.channel, .text c.user])
  else if name = "ratings" then
    some (.object (c.ratingsByName.map fun p => (p.1, .int p.2.toInt)))
  else c.field? name

/-- The part of a record that a value names. -/
def lookup (c : Character) : Value → Except LookupError Value
  | .text name =>
    match c.part? name with
    | some v => .ok v
    | none => .error (.noField name)
  | v => .error (.mismatch (.notName v.kind))

/-- The rating of the attribute that a value names. -/
def lookupAttribute (c : Character) (v : Value) : Except LookupError Nat :=
  match v with
  | .text name =>
    match Attribute.ofName? name with
    | some t => .ok (c.attributeRating t)
    | none => .error (.noAttribute v)
  | v =>
    match v.keyMismatch? with
    | some m => .error (.mismatch m)
    | none => .error (.noAttribute v)

/-- The record with another value in the field that a value names. -/
def change (c : Character) (name v : Value) : Except Error Character :=
  match name with
  | .text name => (c.withField name v).mapError (.invalid .character)
  | name => .error (.mismatch (name.keyMismatch?.getD .noKeyword))

end Character

end CharacterLedger
