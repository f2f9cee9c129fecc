import CharacterLedger.Character.Action

/-!
# Ratings

A rating is a whole number from 0 to 4. Adjusting a rating never leaves that range: `Rating.clamp`
takes any integer to the nearest rating. A `Sheet` has one entry for each of the twelve actions.
-/

namespace CharacterLedger

/-- A rating: 0, 1, 2, 3 or 4. -/
abbrev Rating := Fin 5

namespace Rating

/-- The lowest rating. -/
def least : Int := 0

/-- The highest rating. -/
def greatest : Int := 4

/-- The rating as an integer. -/
def toInt (r : Rating) : Int := (r.val : Int)

/-- The rating nearest to an integer. -/
def clamp (n : Int) : Rating := ⟨min n.toNat 4, by omega⟩

/-- The integer as a rating, if it is one. -/
def ofInt? (n : Int) : Option Rating :=
  if h : least ≤ n ∧ n ≤ greatest then
    some ⟨n.toNat, by simp only [least, greatest] at h; omega⟩
  else none

theorem toInt_clamp (n : Int) : (clamp n).toInt = max least (min greatest n) := by
  simp only [clamp, toInt, least, greatest]
  omega

theorem clamp_toInt (r : Rating) : clamp r.toInt = r := by
  apply Fin.ext
  simp only [clamp, toInt]
  omega

theorem toInt_range (r : Rating) : 0 ≤ r.toInt ∧ r.toInt ≤ 4 := by
  simp only [toInt]
  omega

@[simp] theorem ofInt?_toInt (r : Rating) : ofInt? r.toInt = some r := by
  have h : least ≤ r.toInt ∧ r.toInt ≤ greatest := r.toInt_range
  rw [ofInt?, dif_pos h]
  congr

theorem toInt_of_ofInt? {n : Int} {r : Rating} (h : ofInt? n = some r) : r.toInt = n := by
  unfold ofInt? at h
  split at h
  · next hn =>
    cases h
    simp only [toInt, least] at hn ⊢
    omega
  · cases h

end Rating

/-- The place of an action in the order of actions. -/
def Action.index : Action → Fin 12
  | attune => 0
  | command => 1
  | consort => 2
  | doctor => 3
  | hack => 4
  | helm => 5
  | rig => 6
  | scramble => 7
  | scrap => 8
  | skulk => 9
  | study => 10
  | sway => 11

theorem Action.index_injective {a b : Action} (h : a.index = b.index) : a = b := by
  revert h
  cases a <;> cases b <;> decide

/-- One entry for each action. -/
structure Sheet (α : Type) where
  entries : Vector α 12
deriving DecidableEq

namespace Sheet

variable {α : Type}

/-- The entry of an action. -/
def get (s : Sheet α) (a : Action) : α := s.entries[a.index]

/-- The sheet with another entry for one action. -/
def set (s : Sheet α) (a : Action) (x : α) : Sheet α := ⟨s.entries.set a.index x⟩

/-- The sheet with the entries `f` gives. -/
def ofFn (f : Action → α) : Sheet α :=
  ⟨#v[f .attune, f .command, f .consort, f .doctor, f .hack, f .helm, f .rig, f .scramble,
    f .scrap, f .skulk, f .study, f .sway]⟩

/-- The entries in the order of actions. -/
def toList (s : Sheet α) : List α := Action.all.map s.get

@[simp] theorem get_ofFn (f : Action → α) (a : Action) : (ofFn f).get a = f a := by
  cases a <;> rfl

@[simp] theorem get_set_self (s : Sheet α) (a : Action) (x : α) : (s.set a x).get a = x := by
  simp [get, set]

@[simp] theorem get_set_of_ne (s : Sheet α) {a b : Action} (x : α) (h : b ≠ a) :
    (s.set a x).get b = s.get b := by
  have hne : a.index.val ≠ b.index.val := fun he => h (Action.index_injective (Fin.ext he)).symm
  simp [get, set, hne]

theorem ext_get {s t : Sheet α} (h : ∀ a, s.get a = t.get a) : s = t := by
  obtain ⟨u⟩ := s
  obtain ⟨v⟩ := t
  congr
  apply Vector.ext
  intro i hi
  have key : ∀ j : Fin 12, u[j] = v[j] := by
    intro j
    obtain ⟨a, ha⟩ : ∃ a : Action, a.index = j := by
      have : ∀ j : Fin 12, ∃ a ∈ Action.all, a.index = j := by decide
      obtain ⟨a, -, ha⟩ := this j
      exact ⟨a, ha⟩
    simpa [get, ha] using h a
  exact key ⟨i, hi⟩

end Sheet

end CharacterLedger
