import CharacterLedger.Value

/-!
# What is wrong with a form

A record and the settings are filled in from loosely typed values, like forms. An `Issue` says which
field of a form is wrong, and its `Defect` in what way. A form is checked to the end: all its
issues are reported, in the order of its fields.
-/

namespace CharacterLedger

/-- What is filled in. -/
inductive Form where
  | character
  | database
  | dice
  | application
deriving DecidableEq, Repr

/-- The title of a form in reports. -/
def Form.title : Form → String
  | .character => "CharacterRecord"
  | .database => "DatabaseSettings"
  | .dice => "DiceSettings"
  | .application => "AppSettings"

/-- What is wrong with the value of a field. -/
inductive Defect where
  | missing
  | notText
  | notInteger
  | fractional
  | unreadableInteger
  | oversizedInteger
  | infiniteInteger
  | ratingOutOfRange
  | notReal
  | unreadableReal
  | notFlag
  | unreadableFlag
  | below (bound : Int)
  | notAbove (bound : Int)
  | notGroup (form : Form)
deriving DecidableEq, Repr

namespace Defect

/-- The short name of a defect. -/
def code : Defect → String
  | missing => "missing"
  | notText => "string_type"
  | notInteger => "int_type"
  | fractional => "int_from_float"
  | unreadableInteger => "int_parsing"
  | oversizedInteger => "int_parsing_size"
  | infiniteInteger => "finite_number"
  | ratingOutOfRange => "value_error"
  | notReal => "float_type"
  | unreadableReal => "float_parsing"
  | notFlag => "bool_type"
  | unreadableFlag => "bool_parsing"
  | below _ => "greater_than_equal"
  | notAbove _ => "greater_than"
  | notGroup _ => "model_type"

/-- The sentence that reports a defect. -/
def message : Defect → String
  | missing => "Field required"
  | notText => "Input should be a valid string"
  | notInteger => "Input should be a valid integer"
  | fractional => "Input should be a valid integer, got a number with a fractional part"
  | unreadableInteger => "Input should be a valid integer, unable to parse string as an integer"
  | oversizedInteger => "Unable to parse input string as an integer, exceeded maximum size"
  | infiniteInteger => "Input should be a finite number"
  | ratingOutOfRange => "Value error, Action rating must be between 0 and 4"
  | notReal => "Input should be a valid number"
  | unreadableReal => "Input should be a valid number, unable to parse string as a number"
  | notFlag => "Input should be a valid boolean"
  | unreadableFlag => "Input should be a valid boolean, unable to interpret input"
  | below bound => "Input should be greater than or equal to " ++ toString bound
  | notAbove bound => "Input should be greater than " ++ toString bound
  | notGroup form => "Input should be a valid dictionary or instance of " ++ form.title

end Defect

/-- A wrong field: the names that lead to it from the outermost form, and its defect. -/
structure Issue where
  path : List String
  defect : Defect
deriving DecidableEq, Repr

/-- The issue as the form reports it that has this one as its field `name`. -/
def Issue.inside (name : String) (i : Issue) : Issue := ⟨name :: i.path, i.defect⟩

@[simp] theorem Issue.inside_path (name : String) (i : Issue) :
    (i.inside name).path = name :: i.path := rfl

/-- The issue, if any, of the field `name` that was read with this result. -/
def issueOf {α : Type} (name : String) : Except Defect α → List Issue
  | .ok _ => []
  | .error d => [⟨[name], d⟩]

@[simp] theorem issueOf_eq_nil_iff {α : Type} (name : String) (r : Except Defect α) :
    issueOf name r = [] ↔ ∃ x, r = .ok x := by
  cases r <;> simp [issueOf]

end CharacterLedger
