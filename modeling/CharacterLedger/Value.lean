import CharacterLedger.Number.Binary64

/-!
# Loosely typed values

Commands, records and settings arrive as values whose type is not known beforehand: names may be
numbers, ratings may be texts. A `Value` is such a value, and `Kind` names its type in messages.
-/

namespace CharacterLedger

open CharacterLedger.Number

/-- A value as it arrives from outside. The fields of an object are in the order of their first
mention, each name once. -/
inductive Value where
  | null
  | flag (b : Bool)
  | int (n : Int)
  | real (x : Binary64)
  | text (s : String)
  | list (items : List Value)
  | object (fields : List (String × Value))

instance : Inhabited Value := ⟨.null⟩

/-- Named values in order. -/
abbrev Fields := List (String × Value)

namespace Fields

/-- The fields with `name` set to `v`: in its place if there is such a field, else at the end. -/
def put (fields : Fields) (name : String) (v : Value) : Fields :=
  match fields with
  | [] => [(name, v)]
  | (key, w) :: rest => if key = name then (key, v) :: rest else (key, w) :: put rest name v

/-- The value of the field `name`. -/
def get? (fields : Fields) (name : String) : Option Value := fields.lookup name

/-- The fields of a list of pairs: a repeated name keeps its first place and its last value. -/
def ofList (pairs : List (String × Value)) : Fields :=
  pairs.foldl (fun fields p => put fields p.1 p.2) []

/-- The fields of `upper`, and behind them those of `lower` with other names. -/
def onTopOf (upper lower : Fields) : Fields :=
  upper ++ lower.filter fun p => (upper.get? p.1).isNone

theorem get?_put_self (fields : Fields) (name : String) (v : Value) :
    (fields.put name v).get? name = some v := by
  induction fields with
  | nil => simp [put, get?]
  | cons p rest ih =>
    obtain ⟨key, w⟩ := p
    by_cases h : key = name
    · simp [put, get?, h]
    · have hn : (name == key) = false := by simpa using Ne.symm h
      simpa [put, get?, h, List.lookup_cons, hn] using ih

theorem get?_put_of_ne (fields : Fields) (name other : String) (v : Value) (h : other ≠ name) :
    (fields.put name v).get? other = fields.get? other := by
  induction fields with
  | nil =>
    have hn : (other == name) = false := by simpa using h
    simp [put, get?, List.lookup_cons, hn]
  | cons p rest ih =>
    obtain ⟨key, w⟩ := p
    by_cases hk : key = name
    · subst hk
      have hn : (other == key) = false := by simpa using h
      simp [put, get?, List.lookup_cons, hn]
    · cases ho : other == key <;> simp_all [put, get?, List.lookup_cons]

end Fields

/-- The types of values. -/
inductive Kind where
  | null
  | flag
  | int
  | real
  | text
  | list
  | object
deriving DecidableEq, Repr

/-- The name of a type in messages. -/
def Kind.name : Kind → String
  | .null => "NoneType"
  | .flag => "bool"
  | .int => "int"
  | .real => "float"
  | .text => "str"
  | .list => "list"
  | .object => "dict"

namespace Value

/-- The type of a value. -/
def kind : Value → Kind
  | .null => .null
  | .flag _ => .flag
  | .int _ => .int
  | .real _ => .real
  | .text _ => .text
  | .list _ => .list
  | .object _ => .object

/-- The integer that a value counts as in arithmetic: a flag counts as one or zero. -/
def toInteger? : Value → Option Int
  | .int n => some n
  | .flag b => some (if b then 1 else 0)
  | _ => none

/-- Whether a value counts as true: it is neither null, false, zero nor empty. -/
def isTrue : Value → Bool
  | .null => false
  | .flag b => b
  | .int n => n != 0
  | .real x => !x.isZero
  | .text s => s != ""
  | .list items => !items.isEmpty
  | .object fields => !fields.isEmpty

/-- The text that a value is, if it is one. -/
def toText? : Value → Option String
  | .text s => some s
  | _ => none

end Value

end CharacterLedger
