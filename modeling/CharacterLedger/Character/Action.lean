import CharacterLedger.Text.Blank
import CharacterLedger.Text.LetterCase
import CharacterLedger.Value

/-!
# Actions and attributes

A character is rated in twelve actions. Three attributes have four actions each, and no action has
two. Both are written by their names, which are recognised in any case and with blanks around them.
-/

namespace CharacterLedger

/-- The twelve actions, in the order in which records and tables list them. -/
inductive Action where
  | attune
  | command
  | consort
  | doctor
  | hack
  | helm
  | rig
  | scramble
  | scrap
  | skulk
  | study
  | sway
deriving DecidableEq, Repr

/-- The three attributes. -/
inductive Attribute where
  | insight
  | prowess
  | resolve
deriving DecidableEq, Repr

namespace Action

/-- Every action in order. -/
def all : List Action :=
  [attune, command, consort, doctor, hack, helm, rig, scramble, scrap, skulk, study, sway]

theorem mem_all (a : Action) : a ∈ all := by cases a <;> decide

/-- The name of an action. -/
def name : Action → String
  | attune => "attune"
  | command => "command"
  | consort => "consort"
  | doctor => "doctor"
  | hack => "hack"
  | helm => "helm"
  | rig => "rig"
  | scramble => "scramble"
  | scrap => "scrap"
  | skulk => "skulk"
  | study => "study"
  | sway => "sway"

/-- The action of a name written exactly. -/
def ofName? (s : String) : Option Action := all.find? fun a => a.name == s

@[simp] theorem ofName?_name (a : Action) : ofName? a.name = some a := by cases a <;> decide

theorem name_of_ofName? {s : String} {a : Action} (h : ofName? s = some a) : a.name = s := by
  simpa using List.find?_some h

theorem name_injective {a b : Action} (h : a.name = b.name) : a = b := by
  have := ofName?_name b
  rw [← h, ofName?_name] at this
  exact Option.some.inj this

end Action

namespace Attribute

/-- Every attribute in order. -/
def all : List Attribute := [insight, prowess, resolve]

/-- The name of an attribute. -/
def name : Attribute → String
  | insight => "insight"
  | prowess => "prowess"
  | resolve => "resolve"

/-- The attribute of a name written exactly. -/
def ofName? (s : String) : Option Attribute := all.find? fun t => t.name == s

@[simp] theorem ofName?_name (t : Attribute) : ofName? t.name = some t := by cases t <;> decide

/-- The four actions of an attribute. -/
def actions : Attribute → List Action
  | insight => [.doctor, .hack, .rig, .study]
  | prowess => [.helm, .scramble, .scrap, .skulk]
  | resolve => [.attune, .command, .consort, .sway]

end Attribute

/-- The attribute that has the action. -/
def Action.attribute : Action → Attribute
  | doctor | hack | rig | study => .insight
  | helm | scramble | scrap | skulk => .prowess
  | attune | command | consort | sway => .resolve

@[simp] theorem Attribute.mem_actions_iff (t : Attribute) (a : Action) :
    a ∈ t.actions ↔ a.attribute = t := by
  cases t <;> cases a <;> decide

/-- A name as it is compared: without blanks around it, in lower case. What is no text has no name,
and is compared as the empty one. -/
def normalName : Value → String
  | .text s => String.ofList (Text.lower (Text.trim Text.isBlank s.toList))
  | _ => ""

/-- The action that a value names. -/
def Action.named? (v : Value) : Option Action := Action.ofName? (normalName v)

/-- The attribute that a value names. -/
def Attribute.named? (v : Value) : Option Attribute := Attribute.ofName? (normalName v)

end CharacterLedger
