import CharacterLedger.Character.Rating
import CharacterLedger.Field

/-!
# Character records

A record holds the ratings of one character: the channel and the user that it belongs to, and a
sheet of twelve ratings. Records come out of `Character.ofFields` only, which reads the fourteen
fields of a form, takes a missing rating for zero, and reports all issues in the order of the
fields. Changing a field writes all fields down, replaces one and reads them again.
-/

namespace CharacterLedger

/-- The record of one character. -/
structure Character where
  channel : String
  user : String
  ratings : Sheet Rating
deriving DecidableEq

namespace Character

/-- The name of the field that holds the channel. -/
def channelName : String := "channel_id"

/-- The name of the field that holds the user. -/
def userName : String := "user_id"

/-- The names of all fields, in the order of records and tables. -/
def fieldNames : List String := channelName :: userName :: Action.all.map Action.name

/-- The character that nothing is known of: every rating is zero. -/
def blank (channel user : String) : Character := ⟨channel, user, .ofFn fun _ => 0⟩

/-- Reads a rating. -/
def readRating (v : Value) : Except Defect Rating :=
  match Field.integer v with
  | .error d => .error d
  | .ok n =>
    match Rating.ofInt? n with
    | some r => .ok r
    | none => .error .ratingOutOfRange

/-- Reads a field that has to be there and has to be a text. -/
def textField (fields : Fields) (name : String) : Except Defect String :=
  match fields.get? name with
  | none => .error .missing
  | some v => Field.text v

/-- Reads the rating of an action; a missing one is zero. -/
def ratingField (fields : Fields) (a : Action) : Except Defect Rating :=
  match fields.get? a.name with
  | none => .ok 0
  | some v => readRating v

/-- All issues of a form for a record, in the order of its fields. -/
def issues (fields : Fields) : List Issue :=
  issueOf channelName (textField fields channelName) ++
    issueOf userName (textField fields userName) ++
    Action.all.flatMap fun a => issueOf a.name (ratingField fields a)

/-- What was read, or a stand-in where nothing could be. -/
def resultOr {α : Type} (d : α) : Except Defect α → α
  | .ok x => x
  | .error _ => d

/-- The record that the fields describe. Fields with other names are ignored. -/
def ofFields (fields : Fields) : Except (List Issue) Character :=
  match issues fields with
  | [] => .ok ⟨resultOr "" (textField fields channelName), resultOr "" (textField fields userName),
      .ofFn fun a => resultOr 0 (ratingField fields a)⟩
  | found => .error found

/-- The fields of a record. -/
def toFields (c : Character) : Fields :=
  (channelName, .text c.channel) :: (userName, .text c.user) ::
    Action.all.map fun a => (a.name, .int (c.ratings.get a).toInt)

/-- The rating of an action. -/
def rating (c : Character) (a : Action) : Rating := c.ratings.get a

/-- The rating of an attribute: how many of its actions are rated above zero. -/
def attributeRating (c : Character) (t : Attribute) : Nat :=
  t.actions.countP fun a => decide (c.rating a ≠ 0)

/-- The record with another value in the field `name`. A name that is no field changes nothing. -/
def withField (c : Character) (name : String) (v : Value) : Except (List Issue) Character :=
  ofFields (c.toFields.put name v)

/-- The value of the field `name`. -/
def field? (c : Character) (name : String) : Option Value := c.toFields.get? name

theorem attributeRating_le (c : Character) (t : Attribute) : c.attributeRating t ≤ 4 := by
  have h : t.actions.countP (fun a => decide (c.rating a ≠ 0)) ≤ t.actions.length :=
    List.countP_le_length
  have hl : t.actions.length = 4 := by cases t <;> rfl
  unfold attributeRating
  omega

end Character

end CharacterLedger
