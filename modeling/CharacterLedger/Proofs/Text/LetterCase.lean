import Mathlib.Data.List.Forall2
import Mathlib.Data.List.TakeWhile
import CharacterLedger.Text.Blank
import CharacterLedger.Text.LetterCase

/-!
# What is written in lower case as plain letters

A plain letter is one of `a` to `z`.  Of all characters only the letter itself, its capital and, for
`k`, the Kelvin sign are written as that letter in lower case; the one character whose lower case is
two characters brings a dot above with it, which is no letter.  So a text of plain letters is the lower
case of texts of the same length only, and the forms of the small sigma make no difference.

* `movePoint_eq_iff`, `lowerChar_eq_iff` — the characters whose lower case is a plain letter;
* `LowersTo` — the lower cases of a text, with either form of the small sigma;
* `LowersTo.eq_iff` — the texts whose lower case are plain letters;
* `exists_append_trim`, `trim_append_eq` — trimming takes blanks away, and all of them.
-/

namespace CharacterLedger.Text

/-! ### Single characters -/

/-- A letter from `a` to `z`. -/
def IsPlainLetter (l : Char) : Prop := 0x61 ≤ l.toNat ∧ l.toNat ≤ 0x7a

instance (l : Char) : Decidable (IsPlainLetter l) := inferInstanceAs (Decidable (_ ∧ _))

/-- The Kelvin sign. -/
def kelvinSign : Nat := 0x212a

/-- The letter `k`. -/
def letterK : Nat := 0x6b

/-- Capital letters are 32 code points below the small ones. -/
def capitalOffset : Nat := 0x20

/-- The character is a plain letter, its capital, or the Kelvin sign for a `k`. -/
def IsFormOf (l c : Char) : Prop :=
  c = l ∨ c.toNat + capitalOffset = l.toNat ∨ l.toNat = letterK ∧ c.toNat = kelvinSign

/-- A range of the map that moves a code point to a plain letter is that of the capitals or that of
the Kelvin sign. -/
theorem lowerTable_onto_letters : ∀ r ∈ lowerTable,
    r.last + r.shift < 0x61 ∨ 0x7a < r.first + r.shift ∨ r = ⟨0x41, 0x5a, 1, 32⟩ ∨
      r = ⟨0x212a, 0x212a, 1, -8383⟩ := by
  decide +kernel

/-- No range of the map moves a plain letter. -/
theorem lowerTable_off_letters : ∀ r ∈ lowerTable, r.last < 0x61 ∨ 0x7a < r.first := by
  decide +kernel

theorem CaseRange.covers_iff (r : CaseRange) (n : Nat) :
    r.covers n = true ↔ r.first ≤ n ∧ n ≤ r.last ∧ (n - r.first) % r.stride = 0 := by
  simp [covers, and_assoc]

/-- **The code points that the map takes to a plain letter.** -/
theorem movePoint_eq_iff {m : Nat} (hleast : 0x61 ≤ m) (hgreatest : m ≤ 0x7a) (n : Nat) :
    movePoint lowerTable n = m ↔
      n = m ∨ n + capitalOffset = m ∨ m = letterK ∧ n = kelvinSign := by
  unfold capitalOffset letterK kelvinSign
  constructor
  · intro h
    unfold movePoint at h
    cases hfound : lowerTable.find? fun r => r.covers n with
    | none =>
      rw [hfound] at h
      exact .inl h
    | some r =>
      rw [hfound] at h
      have hcovers := List.find?_some (p := fun r : CaseRange => r.covers n) hfound
      obtain ⟨hfirst, hlast, -⟩ := (r.covers_iff n).1 hcovers
      have hshift : ((n : Int) + r.shift).toNat = m := h
      obtain hbelow | habove | rfl | rfl :=
        lowerTable_onto_letters r (List.mem_of_find?_eq_some hfound)
      · omega
      · omega
      · refine .inr (.inl ?_)
        simp only at hshift
        omega
      · refine .inr (.inr ?_)
        simp only at hfirst hlast hshift
        omega
  · rintro (rfl | hcapital | ⟨rfl, rfl⟩)
    · have hnone : (lowerTable.find? fun r => r.covers n) = none := by
        rw [List.find?_eq_none]
        intro r hr hcovers
        obtain ⟨hfirst, hlast, -⟩ := (r.covers_iff n).1 hcovers
        have := lowerTable_off_letters r hr
        omega
      rw [movePoint, hnone]
    · have hcovers : (⟨0x41, 0x5a, 1, 32⟩ : CaseRange).covers n = true := by
        rw [CaseRange.covers_iff]
        refine ⟨?_, ?_, Nat.mod_one _⟩ <;> simp only <;> omega
      have hfirst : (lowerTable.find? fun r => r.covers n) = some ⟨0x41, 0x5a, 1, 32⟩ := by
        unfold lowerTable
        rw [List.find?_cons, hcovers]
      rw [movePoint, hfirst]
      simp only
      omega
    · decide +kernel

/-- A code point other than zero is that of the character that it stands for. -/
theorem ofNat_eq_iff {l : Char} (h : IsPlainLetter l) (n : Nat) :
    Char.ofNat n = l ↔ n = l.toNat := by
  constructor
  · rintro rfl
    by_cases hn : n.isValidChar
    · rw [Char.ofNat, dif_pos hn]
      rfl
    · have hzero : (Char.ofNat n).toNat = 0 := by
        rw [Char.ofNat, dif_neg hn]
        rfl
      have := h.1
      omega
  · rintro rfl
    exact Char.ofNat_toNat l

/-- **The characters whose lower case is a plain letter.** -/
theorem lowerChar_eq_iff {l : Char} (h : IsPlainLetter l) (c : Char) :
    lowerChar c = [l] ↔ IsFormOf l c := by
  have hpoint : movePoint lowerTable c.toNat = l.toNat ↔ IsFormOf l c := by
    rw [movePoint_eq_iff h.1 h.2, IsFormOf, Char.toNat_inj]
  rw [← hpoint, lowerChar]
  split
  · next hdotted =>
    have hmoved : movePoint lowerTable c.toNat = dottedCapitalI := by
      rw [hdotted]
      decide +kernel
    have hne : dottedCapitalI ≠ l.toNat := by
      have := h.2
      simp only [dottedCapitalI]
      omega
    simp [hmoved, hne]
  · rw [List.cons.injEq, ofNat_eq_iff h]
    simp

/-! ### Texts -/

/-- Capital sigma, which has two small forms. -/
def capitalSigma : Nat := 0x3a3

/-- The small sigma at the end of a word. -/
def finalSigma : Char := Char.ofNat 0x3c2

/-- The second text is the first one in lower case, with either form of the small sigma for each
capital one. -/
inductive LowersTo : List Char → List Char → Prop
  | nil : LowersTo [] []
  | cons (c : Char) {cs ds : List Char} (rest : LowersTo cs ds) :
      LowersTo (c :: cs) (lowerChar c ++ ds)
  | final {c : Char} {cs ds : List Char} (sigma : c.toNat = capitalSigma) (rest : LowersTo cs ds) :
      LowersTo (c :: cs) (finalSigma :: ds)

/-- The text in lower case has the medial form of every small sigma. -/
theorem lowersTo_lower (cs : List Char) : LowersTo cs (lower cs) := by
  induction cs with
  | nil => exact .nil
  | cons c cs ih =>
    rw [lower, List.flatMap_cons]
    exact .cons c ih

theorem not_isPlainLetter_finalSigma : ¬ IsPlainLetter finalSigma := by decide

theorem not_isPlainLetter_dot : ¬ IsPlainLetter (Char.ofNat 0x307) := by decide

/-- A capital sigma is no form of a plain letter. -/
theorem not_isFormOf_sigma {l c : Char} (h : IsPlainLetter l) (hc : c.toNat = capitalSigma) :
    ¬ IsFormOf l c := by
  have hleast := h.1
  have hgreatest := h.2
  rintro (rfl | hcapital | ⟨hk, hkelvin⟩)
  · simp only [capitalSigma] at hc
    omega
  · simp only [capitalSigma, capitalOffset] at hc hcapital
    omega
  · simp only [capitalSigma, kelvinSign] at hc hkelvin
    omega

/-- **The texts whose lower case are plain letters** have a form of each letter in its place. -/
theorem LowersTo.eq_iff {cs ds : List Char} (h : LowersTo cs ds) {letters : List Char}
    (hletters : ∀ l ∈ letters, IsPlainLetter l) :
    ds = letters ↔ List.Forall₂ IsFormOf letters cs := by
  induction h generalizing letters with
  | nil =>
    rw [List.forall₂_nil_right_iff]
    exact eq_comm
  | @cons c cs ds _ ih =>
    cases letters with
    | nil =>
      have hne : lowerChar c ≠ [] := by
        unfold lowerChar
        split <;> simp
      simp [hne]
    | cons l letters =>
      obtain ⟨hl, hrest⟩ := List.forall_mem_cons.1 hletters
      rw [List.forall₂_cons, ← lowerChar_eq_iff hl, ← ih hrest]
      by_cases hdotted : c.toNat = dottedCapitalI
      · -- The dot above is not among the letters.
        have hlower : lowerChar c = [Char.ofNat 0x69, Char.ofNat 0x307] := if_pos hdotted
        rw [hlower]
        simp only [List.cons_append, List.nil_append, List.cons.injEq, List.cons_ne_self, and_false,
          false_and, iff_false, not_and]
        rintro - rfl
        exact not_isPlainLetter_dot (hrest _ List.mem_cons_self)
      · have hlower : lowerChar c = [Char.ofNat (movePoint lowerTable c.toNat)] := if_neg hdotted
        rw [hlower]
        simp
  | @final c cs ds sigma _ _ =>
    cases letters with
    | nil => simp
    | cons l letters =>
      have hl := hletters l List.mem_cons_self
      rw [List.forall₂_cons, List.cons.injEq]
      refine iff_of_false ?_ fun hform => not_isFormOf_sigma hl sigma hform.1
      rintro ⟨rfl, -⟩
      exact not_isPlainLetter_finalSigma hl

/-! ### Trimming -/

section Trim

variable {p : Char → Bool}

/-- What trimming takes away stands around what it leaves, and is of the class. -/
theorem exists_append_trim (p : Char → Bool) (cs : List Char) :
    ∃ before after, cs = before ++ trim p cs ++ after ∧ (∀ c ∈ before, p c = true) ∧
      ∀ c ∈ after, p c = true := by
  have htaken : ∀ ds : List Char, ∀ c ∈ ds.takeWhile p, p c = true := by
    intro ds c hc
    simpa using List.mem_takeWhile_imp hc
  refine ⟨cs.takeWhile p, ((cs.dropWhile p).reverse.takeWhile p).reverse, ?_, htaken cs, ?_⟩
  · have hright : trimRight p (cs.dropWhile p) ++
        ((cs.dropWhile p).reverse.takeWhile p).reverse = cs.dropWhile p := by
      rw [trimRight, ← List.reverse_append, List.takeWhile_append_dropWhile, List.reverse_reverse]
    rw [List.append_assoc, trim, hright, List.takeWhile_append_dropWhile]
  · intro c hc
    exact htaken _ c (List.mem_reverse.1 hc)

/-- Trimming leaves what stands between characters of the class, if it has none itself. -/
theorem trim_append_eq {before core after : List Char} (hbefore : ∀ c ∈ before, p c = true)
    (hafter : ∀ c ∈ after, p c = true) (hcore : ∀ c ∈ core, p c = false) :
    trim p (before ++ core ++ after) = core := by
  have hself : trim p core = core :=
    trim_eq_self p core (fun c hc => hcore c (List.mem_of_mem_head? hc))
      fun c hc => hcore c (List.mem_of_mem_getLast? hc)
  rw [List.append_assoc, trim_append_left p before _ hbefore, trim]
  cases core with
  | nil =>
    rw [List.nil_append, List.dropWhile_eq_nil_iff.2 hafter]
    rfl
  | cons c core =>
    have hc : p c = false := hcore c List.mem_cons_self
    have hdrop : ∀ rest : List Char, (c :: rest).dropWhile p = c :: rest := by
      intro rest
      simp [hc]
    rw [List.cons_append, hdrop, ← List.cons_append, trimRight_append_of_all p _ after hafter]
    rw [trim, hdrop] at hself
    exact hself

end Trim

end CharacterLedger.Text
