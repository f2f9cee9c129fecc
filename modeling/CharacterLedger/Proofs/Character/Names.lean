import CharacterLedger.Ledger.Argument
import CharacterLedger.Proofs.Text.LetterCase

/-!
# Which texts are names

A text names an action or an attribute when it is the name itself but for the case of its letters,
with blanks around it.  Nothing else is a name, and no text is a name of two.

* `Writes` — the texts that write a name;
* `normalName_eq_iff` — they are the ones that are compared as the name;
* `Action.named?_text_iff`, `Attribute.named?_text_iff` — what a text names;
* `named?_of_lowersTo` — the form of a small sigma makes no difference to it;
* `readAction_text_iff`, `readAction_eq_error_iff` and the same of attributes — what is read.
-/

namespace CharacterLedger

open CharacterLedger.Text

/-! ### Texts that write a name -/

/-- A text writes a name when between two runs of blanks it has one character for each letter of the
name: the letter, its capital or, for a `k`, the Kelvin sign. -/
def Writes (name s : String) : Prop :=
  ∃ before core after, s.toList = before ++ core ++ after ∧ (∀ c ∈ before, isBlank c = true) ∧
    (∀ c ∈ after, isBlank c = true) ∧ List.Forall₂ IsFormOf name.toList core

/-- No form of a plain letter is blank. -/
theorem not_isBlank_of_isFormOf {l c : Char} (hl : IsPlainLetter l) (h : IsFormOf l c) :
    isBlank c = false := by
  obtain ⟨hleast, hgreatest⟩ := hl
  have hpoint : 0x41 ≤ c.toNat ∧ c.toNat ≤ 0x7a ∨ c.toNat = kelvinSign := by
    obtain rfl | hcapital | ⟨-, hkelvin⟩ := h
    · exact .inl ⟨by omega, hgreatest⟩
    · unfold capitalOffset at hcapital
      exact .inl ⟨by omega, by omega⟩
    · exact .inr hkelvin
  rw [Bool.eq_false_iff]
  intro hblank
  rw [isBlank, Bool.or_eq_true, inTable_iff, inTable_iff] at hblank
  simp only [whiteSpace, separators, List.mem_cons, List.not_mem_nil, or_false, exists_eq_or_imp,
    exists_eq_left] at hblank
  unfold kelvinSign at hpoint
  omega

theorem not_isBlank_of_forms {letters core : List Char} (h : List.Forall₂ IsFormOf letters core)
    (hletters : ∀ l ∈ letters, IsPlainLetter l) : ∀ c ∈ core, isBlank c = false := by
  induction h with
  | nil => simp
  | cons hform _ ih =>
    obtain ⟨hl, hrest⟩ := List.forall_mem_cons.1 hletters
    exact List.forall_mem_cons.2 ⟨not_isBlank_of_isFormOf hl hform, ih hrest⟩

/-- **The texts that write a name** of plain letters are those whose trimmed text has the name for a
lower case, whichever form its small sigmas take. -/
theorem writes_iff_lowersTo {name s : String} (hname : ∀ l ∈ name.toList, IsPlainLetter l)
    {low : List Char} (h : LowersTo (trim isBlank s.toList) low) :
    low = name.toList ↔ Writes name s := by
  rw [h.eq_iff hname]
  constructor
  · intro hcore
    obtain ⟨before, after, htext, hbefore, hafter⟩ := exists_append_trim isBlank s.toList
    exact ⟨before, _, after, htext, hbefore, hafter, hcore⟩
  · rintro ⟨before, core, after, htext, hbefore, hafter, hcore⟩
    rwa [htext, trim_append_eq hbefore hafter (not_isBlank_of_forms hcore hname)]

/-- A text that writes a name of plain letters is compared as that name. -/
theorem normalName_eq_iff {name : String} (hname : ∀ l ∈ name.toList, IsPlainLetter l)
    (s : String) : normalName (.text s) = name ↔ Writes name s := by
  rw [← writes_iff_lowersTo hname (lowersTo_lower _), normalName, ← String.toList_inj,
    String.toList_ofList]

/-! ### Names of actions and attributes -/

theorem isPlainLetter_of_all {name : String}
    (h : (name.toList.all fun l => decide (IsPlainLetter l)) = true) :
    ∀ l ∈ name.toList, IsPlainLetter l :=
  fun l hl => of_decide_eq_true (List.all_eq_true.1 h l hl)

theorem Action.isPlainLetter_of_mem_name (a : Action) : ∀ l ∈ a.name.toList, IsPlainLetter l := by
  apply isPlainLetter_of_all
  cases a <;> decide

theorem Attribute.isPlainLetter_of_mem_name (t : Attribute) :
    ∀ l ∈ t.name.toList, IsPlainLetter l := by
  apply isPlainLetter_of_all
  cases t <;> decide

theorem Action.name_ne_empty (a : Action) : a.name ≠ "" := by cases a <;> decide

theorem Attribute.name_ne_empty (t : Attribute) : t.name ≠ "" := by cases t <;> decide

/-- No action has the name of an attribute. -/
theorem Action.name_ne_attribute (a : Action) (t : Attribute) : a.name ≠ t.name := by
  cases a <;> cases t <;> decide

theorem Action.ofName?_eq_some_iff {s : String} {a : Action} :
    Action.ofName? s = some a ↔ s = a.name := by
  constructor
  · exact fun h => (Action.name_of_ofName? h).symm
  · rintro rfl
    exact Action.ofName?_name a

theorem Attribute.ofName?_eq_some_iff {s : String} {t : Attribute} :
    Attribute.ofName? s = some t ↔ s = t.name := by
  constructor
  · intro h
    have hname := List.find?_some (p := fun t : Attribute => t.name == s) h
    exact (beq_iff_eq.1 hname).symm
  · rintro rfl
    exact Attribute.ofName?_name t

theorem Attribute.name_injective {t u : Attribute} (h : t.name = u.name) : t = u := by
  have hnamed := Attribute.ofName?_name u
  rw [← h, Attribute.ofName?_name] at hnamed
  exact Option.some.inj hnamed

/-- **The texts that name an action.** -/
theorem Action.named?_text_iff {s : String} {a : Action} :
    Action.named? (.text s) = some a ↔ Writes a.name s := by
  rw [Action.named?, Action.ofName?_eq_some_iff, normalName_eq_iff a.isPlainLetter_of_mem_name]

/-- A name with a capital, a Kelvin sign and blanks of two kinds around it. -/
example : Action.named? (.text "\u3000Hac\u212a\x1f") = some .hack := by decide +kernel

/-- **The texts that name an attribute.** -/
theorem Attribute.named?_text_iff {s : String} {t : Attribute} :
    Attribute.named? (.text s) = some t ↔ Writes t.name s := by
  rw [Attribute.named?, Attribute.ofName?_eq_some_iff,
    normalName_eq_iff t.isPlainLetter_of_mem_name]

/-- The name of a text is found in its lower case, whichever form the small sigmas take there. -/
theorem named?_of_lowersTo {s : String} {low : List Char}
    (h : LowersTo (trim isBlank s.toList) low) :
    Action.ofName? (String.ofList low) = Action.named? (.text s) ∧
      Attribute.ofName? (String.ofList low) = Attribute.named? (.text s) := by
  have hlow : ∀ name : String, (∀ l ∈ name.toList, IsPlainLetter l) →
      (String.ofList low = name ↔ Writes name s) := by
    intro name hname
    rw [← writes_iff_lowersTo hname h, ← String.toList_inj, String.toList_ofList]
  constructor
  · apply Option.ext
    intro a
    rw [Action.ofName?_eq_some_iff, hlow _ a.isPlainLetter_of_mem_name, Action.named?_text_iff]
  · apply Option.ext
    intro t
    rw [Attribute.ofName?_eq_some_iff, hlow _ t.isPlainLetter_of_mem_name,
      Attribute.named?_text_iff]

/-- A value that names an action is a text. -/
theorem Action.text_of_named? {v : Value} {a : Action} (h : Action.named? v = some a) :
    ∃ s, v = .text s := by
  cases v with
  | text s => exact ⟨s, rfl⟩
  | _ => exact absurd (Action.ofName?_eq_some_iff.1 h).symm a.name_ne_empty

/-- A value that names an attribute is a text. -/
theorem Attribute.text_of_named? {v : Value} {t : Attribute} (h : Attribute.named? v = some t) :
    ∃ s, v = .text s := by
  cases v with
  | text s => exact ⟨s, rfl⟩
  | _ => exact absurd (Attribute.ofName?_eq_some_iff.1 h).symm t.name_ne_empty

/-- A name writes itself. -/
theorem writes_self (name : String) : Writes name name := by
  refine ⟨[], name.toList, [], by simp, by simp, by simp, ?_⟩
  rw [List.forall₂_same]
  exact fun l _ => .inl rfl

/-- A text writes one name of plain letters at most. -/
theorem Writes.unique {name other s : String} (hname : ∀ l ∈ name.toList, IsPlainLetter l)
    (hother : ∀ l ∈ other.toList, IsPlainLetter l) (h : Writes name s) (h' : Writes other s) :
    name = other := by
  rw [← normalName_eq_iff hname] at h
  rw [← normalName_eq_iff hother] at h'
  exact h.symm.trans h'

namespace Ledger

/-! ### What is read -/

/-- **The values that are read as an action** are the texts that write its name. -/
theorem readAction_eq_ok_iff {v : Value} {a : Action} :
    readAction v = .ok a ↔ ∃ s, v = .text s ∧ Writes a.name s := by
  have hread : readAction v = .ok a ↔ Action.named? v = some a := by
    unfold readAction
    cases Action.named? v <;> simp
  rw [hread]
  constructor
  · intro h
    obtain ⟨s, rfl⟩ := Action.text_of_named? h
    exact ⟨s, rfl, Action.named?_text_iff.1 h⟩
  · rintro ⟨s, rfl, hs⟩
    exact Action.named?_text_iff.2 hs

/-- **The values that are read as an attribute** are the texts that write its name. -/
theorem readAttribute_eq_ok_iff {v : Value} {t : Attribute} :
    readAttribute v = .ok t ↔ ∃ s, v = .text s ∧ Writes t.name s := by
  have hread : readAttribute v = .ok t ↔ Attribute.named? v = some t := by
    unfold readAttribute
    cases Attribute.named? v <;> simp
  rw [hread]
  constructor
  · intro h
    obtain ⟨s, rfl⟩ := Attribute.text_of_named? h
    exact ⟨s, rfl, Attribute.named?_text_iff.1 h⟩
  · rintro ⟨s, rfl, hs⟩
    exact Attribute.named?_text_iff.2 hs

/-- What is not read as an action is refused as it came. -/
theorem readAction_eq_error {v : Value} (h : ∀ a, readAction v ≠ .ok a) :
    readAction v = .error (.unknownName v) := by
  unfold readAction at h ⊢
  cases hnamed : Action.named? v with
  | none => rfl
  | some a =>
    rw [hnamed] at h
    exact absurd rfl (h a)

/-- What is not read as an attribute is refused as it came. -/
theorem readAttribute_eq_error {v : Value} (h : ∀ t, readAttribute v ≠ .ok t) :
    readAttribute v = .error (.unknownName v) := by
  unfold readAttribute at h ⊢
  cases hnamed : Attribute.named? v with
  | none => rfl
  | some t =>
    rw [hnamed] at h
    exact absurd rfl (h t)

end Ledger

end CharacterLedger
