import CharacterLedger.Number.Numeral
import CharacterLedger.Number.Shortest
import CharacterLedger.Text.Quoted
import CharacterLedger.Value

/-!
# Values in messages

Two renderings of a value. `inspect?` shows a text in quotes, and nested values in brackets;
`display?` shows a text as itself and everything else as `inspect?` does. There is no rendering of a
value if one of its integers, however deep, has too many digits.
-/

namespace CharacterLedger.Value

open CharacterLedger.Number CharacterLedger.Text

/-- The parts with a comma and a space between them. -/
def commaSeparated : List (List Char) → List Char
  | [] => []
  | [part] => part
  | part :: parts => part ++ [',', ' '] ++ commaSeparated parts

mutual

/-- The value with every text in quotes. -/
def inspectChars? : Value → Option (List Char)
  | .null => some "None".toList
  | .flag b => some (if b then "True" else "False").toList
  | .int n => (decimal? n).map String.toList
  | .real x => some x.text
  | .text s => some (quote s.toList)
  | .list items => (inspectItems? items).map fun parts => '[' :: commaSeparated parts ++ [']']
  | .object fields =>
    (inspectFields? fields).map fun parts => '\x7b' :: commaSeparated parts ++ ['\x7d']

def inspectItems? : List Value → Option (List (List Char))
  | [] => some []
  | v :: items =>
    match inspectChars? v, inspectItems? items with
    | some part, some parts => some (part :: parts)
    | _, _ => none

def inspectFields? : List (String × Value) → Option (List (List Char))
  | [] => some []
  | (name, v) :: fields =>
    match inspectChars? v, inspectFields? fields with
    | some part, some parts => some ((quote name.toList ++ [':', ' '] ++ part) :: parts)
    | _, _ => none

end

/-- The value with every text in quotes. -/
def inspect? (v : Value) : Option String := v.inspectChars?.map String.ofList

/-- The value, a text as itself. -/
def display? : Value → Option String
  | .text s => some s
  | v => v.inspect?

/-! ### What can be rendered -/

mutual

/-- The integers of a value, however deep. -/
def integers : Value → List Int
  | .null | .flag _ | .real _ | .text _ => []
  | .int n => [n]
  | .list items => integersOfItems items
  | .object fields => integersOfFields fields

def integersOfItems : List Value → List Int
  | [] => []
  | v :: items => integers v ++ integersOfItems items

def integersOfFields : List (String × Value) → List Int
  | [] => []
  | (_, v) :: fields => integers v ++ integersOfFields fields

end

mutual

@[simp] theorem inspectChars?_isSome_iff (v : Value) :
    v.inspectChars?.isSome = true ↔ ∀ n ∈ v.integers, isWritable n = true := by
  cases v with
  | null | flag | real | text => simp [inspectChars?, integers]
  | int n => simp [inspectChars?, integers, decimal?]
  | list items => simpa [inspectChars?, integers] using inspectItems?_isSome_iff items
  | object fields => simpa [inspectChars?, integers] using inspectFields?_isSome_iff fields

@[simp] theorem inspectItems?_isSome_iff (items : List Value) :
    (inspectItems? items).isSome = true ↔ ∀ n ∈ integersOfItems items, isWritable n = true := by
  cases items with
  | nil => simp [inspectItems?, integersOfItems]
  | cons v items =>
    rw [integersOfItems, List.forall_mem_append, ← inspectChars?_isSome_iff v,
      ← inspectItems?_isSome_iff items, inspectItems?]
    cases v.inspectChars? <;> cases inspectItems? items <;> simp

@[simp] theorem inspectFields?_isSome_iff (fields : List (String × Value)) :
    (inspectFields? fields).isSome = true ↔
      ∀ n ∈ integersOfFields fields, isWritable n = true := by
  match fields with
  | [] => simp [inspectFields?, integersOfFields]
  | (name, v) :: fields =>
    rw [integersOfFields, List.forall_mem_append, ← inspectChars?_isSome_iff v,
      ← inspectFields?_isSome_iff fields, inspectFields?]
    cases v.inspectChars? <;> cases inspectFields? fields <;> simp

end

/-- A value is rendered unless one of its integers has too many digits. -/
@[simp] theorem display?_isSome_iff (v : Value) :
    v.display?.isSome = true ↔ ∀ n ∈ v.integers, isWritable n = true := by
  rw [← inspectChars?_isSome_iff v]
  cases v <;> simp [display?, inspect?, inspectChars?]

end CharacterLedger.Value
