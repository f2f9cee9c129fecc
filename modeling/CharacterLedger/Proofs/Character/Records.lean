import CharacterLedger.Ledger.Task.Character
import CharacterLedger.Table.CharacterTable

/-!
# Records and their rows

What is read from the fields of a record is the record, and changing one rating changes nothing
else.

* `Character.ofFields_eq_ok_iff` — a form describes a record when each of its fields does;
* `Character.withField_eq_ok_iff` — a changed record has its key and all other ratings;
* `Row.toCharacter_ofCharacter` — the record in the row that stores it;
* `Task.adjust_int`, `Task.exists_adjust` — every number can be added to a rating;
* `Row.IsValid` — the cells of a row are ratings;
* `CharacterTable.keys_replaceRow`, `CharacterTable.nodup_keys_replaceRow` — the keys of a table
  after a row has been put in its place.
-/

namespace CharacterLedger

open CharacterLedger.Table CharacterLedger.Ledger

/-! ### Forms with all fields -/

/-- The fields of a record or a row. -/
def recordForm (channel user : Value) (f : Action → Value) : Fields :=
  (Character.channelName, channel) :: (Character.userName, user) ::
    Action.all.map fun a => (a.name, f a)

section Form

variable {channel user : Value} {f : Action → Value}

@[simp] theorem get?_channel :
    (recordForm channel user f).get? Character.channelName = some channel := by
  simp [recordForm, Fields.get?]

@[simp] theorem get?_user : (recordForm channel user f).get? Character.userName = some user := by
  have : (Character.userName == Character.channelName) = false := by decide
  simp [recordForm, Fields.get?, List.lookup_cons, this]

theorem Action.name_ne_channelName (a : Action) : a.name ≠ Character.channelName := by
  cases a <;> decide

theorem Action.name_ne_userName (a : Action) : a.name ≠ Character.userName := by
  cases a <;> decide

theorem lookup_map_name (actions : List Action) (a : Action) (h : a ∈ actions) :
    (actions.map fun b => (b.name, f b)).lookup a.name = some (f a) := by
  induction actions with
  | nil => cases h
  | cons b actions ih =>
    rw [List.map_cons, List.lookup_cons]
    by_cases hb : a = b
    · simp [hb]
    · have hne : (a.name == b.name) = false := by
        simpa using fun he => hb (Action.name_injective he)
      simp only [hne]
      exact ih ((List.mem_cons.1 h).resolve_left hb)

theorem get?_action (a : Action) : (recordForm channel user f).get? a.name = some (f a) := by
  have hc : (a.name == Character.channelName) = false := by simpa using a.name_ne_channelName
  have hu : (a.name == Character.userName) = false := by simpa using a.name_ne_userName
  simp only [recordForm, Fields.get?, List.lookup_cons, hc, hu]
  exact lookup_map_name Action.all a (Action.mem_all a)

end Form

namespace Table

theorem Row.toFields_eq_recordForm (r : Row) :
    r.toFields = recordForm (.text r.channel) (.text r.user) fun a => (r.cells.get a).toValue :=
  r.toFields_eq

end Table

namespace Character

variable {c changed : Character}

theorem toFields_eq (c : Character) :
    c.toFields = recordForm (.text c.channel) (.text c.user) fun a => .int (c.rating a).toInt :=
  rfl

/-- **A form describes a record when each of its fields does.** -/
theorem ofFields_eq_ok_iff (fields : Fields) (c : Character) :
    ofFields fields = .ok c ↔ textField fields channelName = .ok c.channel ∧
      textField fields userName = .ok c.user ∧ ∀ a, ratingField fields a = .ok (c.rating a) := by
  have hissues : issues fields = [] ↔ (∃ x, textField fields channelName = .ok x) ∧
      (∃ x, textField fields userName = .ok x) ∧ ∀ a, ∃ x, ratingField fields a = .ok x := by
    unfold issues
    rw [List.append_eq_nil_iff, List.append_eq_nil_iff, issueOf_eq_nil_iff, issueOf_eq_nil_iff,
      List.flatMap_eq_nil_iff, and_assoc]
    simp only [issueOf_eq_nil_iff]
    exact ⟨fun h => ⟨h.1, h.2.1, fun a => h.2.2 a (Action.mem_all a)⟩,
      fun h => ⟨h.1, h.2.1, fun a _ => h.2.2 a⟩⟩
  unfold ofFields
  cases hi : issues fields with
  | nil =>
    obtain ⟨⟨x, hx⟩, ⟨y, hy⟩, hr⟩ := hissues.1 hi
    simp only [Except.ok.injEq]
    constructor
    · rintro rfl
      refine ⟨?_, ?_, ?_⟩
      · simp [hx, resultOr]
      · simp [hy, resultOr]
      · intro a
        obtain ⟨r, hr⟩ := hr a
        simp [rating, hr, resultOr]
    · rintro ⟨hc, hu, ha⟩
      obtain ⟨channel, user, ratings⟩ := c
      simp only [hc, hu, resultOr, Character.mk.injEq, true_and]
      apply Sheet.ext_get
      intro a
      rw [Sheet.get_ofFn, ha a]
      rfl
  | cons issue rest =>
    constructor
    · intro h
      cases h
    · rintro ⟨hc, hu, ha⟩
      have := hissues.2 ⟨⟨_, hc⟩, ⟨_, hu⟩, fun a => ⟨_, ha a⟩⟩
      rw [hi] at this
      cases this

/-- A form with all fields describes a record when its key is two texts and its other values are
read as ratings. -/
theorem ofFields_recordForm_eq_ok_iff {channel user : Value} {f : Action → Value} (c : Character) :
    ofFields (recordForm channel user f) = .ok c ↔ channel = .text c.channel ∧
      user = .text c.user ∧ ∀ a, readRating (f a) = .ok (c.rating a) := by
  rw [ofFields_eq_ok_iff]
  simp only [textField, ratingField, get?_channel, get?_user, get?_action, Field.text_eq_ok_iff]

@[simp] theorem readRating_toInt (r : Rating) : readRating (.int r.toInt) = .ok r := by
  simp [readRating]

/-- **Changing the rating of an action** changes nothing else of a record. -/
theorem withField_eq_ok_iff (a : Action) (v : Value) :
    c.withField a.name v = .ok changed ↔ changed.channel = c.channel ∧ changed.user = c.user ∧
      readRating v = .ok (changed.rating a) ∧ ∀ b, b ≠ a → changed.rating b = c.rating b := by
  have hchannel : textField (c.toFields.put a.name v) channelName = .ok c.channel := by
    unfold textField
    rw [Fields.get?_put_of_ne _ _ _ _ a.name_ne_channelName.symm, toFields_eq, get?_channel]
    rfl
  have huser : textField (c.toFields.put a.name v) userName = .ok c.user := by
    unfold textField
    rw [Fields.get?_put_of_ne _ _ _ _ a.name_ne_userName.symm, toFields_eq, get?_user]
    rfl
  have hself : ratingField (c.toFields.put a.name v) a = readRating v := by
    unfold ratingField
    rw [Fields.get?_put_self]
  have hother : ∀ b, b ≠ a → ratingField (c.toFields.put a.name v) b = .ok (c.rating b) := by
    intro b hb
    unfold ratingField
    rw [Fields.get?_put_of_ne _ _ _ _ fun he => hb (Action.name_injective he), toFields_eq,
      get?_action]
    exact readRating_toInt _
  rw [withField, ofFields_eq_ok_iff, hchannel, huser, Except.ok.injEq, Except.ok.injEq]
  constructor
  · rintro ⟨hc, hu, ha⟩
    refine ⟨hc.symm, hu.symm, ?_, ?_⟩
    · rw [← hself]
      exact ha a
    · intro b hb
      have := ha b
      rw [hother b hb] at this
      exact (Except.ok.inj this).symm
  · rintro ⟨hc, hu, ha, hb⟩
    refine ⟨hc.symm, hu.symm, ?_⟩
    intro b
    by_cases hba : b = a
    · rw [hba, hself]
      exact ha
    · rw [hother b hba, hb b hba]

/-- The replacement character writes no rating. -/
theorem readRating_replacement : readRating (.text "\uFFFD") = .error .unreadableInteger := rfl

@[simp] theorem blank_rating (channel user : String) (a : Action) :
    (blank channel user).rating a = 0 :=
  Sheet.get_ofFn _ a

/-- The record with another rating of one action. -/
def rated (c : Character) (a : Action) (r : Rating) : Character :=
  { c with ratings := c.ratings.set a r }

@[simp] theorem rating_rated_self (c : Character) (a : Action) (r : Rating) :
    (c.rated a r).rating a = r :=
  Sheet.get_set_self _ _ _

@[simp] theorem rating_rated_of_ne (c : Character) {a b : Action} (r : Rating) (h : b ≠ a) :
    (c.rated a r).rating b = c.rating b :=
  Sheet.get_set_of_ne _ _ h

theorem rated_rated (c : Character) (a : Action) (r r' : Rating) :
    (c.rated a r).rated a r' = c.rated a r' := by
  have hratings : (c.ratings.set a r).set a r' = c.ratings.set a r' := by
    apply Sheet.ext_get
    intro b
    by_cases hb : b = a
    · simp [hb]
    · simp [hb]
  simp only [rated, hratings]

theorem rated_rating (c : Character) (a : Action) : c.rated a (c.rating a) = c := by
  have hratings : c.ratings.set a (c.ratings.get a) = c.ratings := by
    apply Sheet.ext_get
    intro b
    by_cases hb : b = a
    · simp [hb]
    · simp [hb]
  rw [rated, rating, hratings]

theorem withField_rating (c : Character) (a : Action) (r : Rating) :
    c.withField a.name (.int r.toInt) = .ok (c.rated a r) := by
  rw [withField_eq_ok_iff]
  refine ⟨rfl, rfl, ?_, fun b hb => c.rating_rated_of_ne r hb⟩
  rw [readRating_toInt, rating_rated_self]

end Character

namespace Ledger

/-- A row that cannot be fetched is not read as anything; the store fails. -/
theorem Row.toCharacter_of_fault {r : Row} {f : Fault} (h : r.fault? = some f)
    (channel user : Value) :
    (Row.toCharacter channel user r).2 = .error (.storage (.failed f)) := by
  obtain ⟨a, bytes, rfl, -⟩ := Table.Row.fault?_eq_some h
  rw [Row.toCharacter, Table.Row.fetch, h]
  rfl

/-- A row that can be fetched is read as its fields are. -/
theorem Row.toCharacter_of_no_fault {r : Row} (h : r.fault? = none) (channel user : Value) :
    (Row.toCharacter channel user r).2 =
      (Character.ofFields r.toFields).mapError fun issues => .storage (.corrupt issues) := by
  rw [Row.toCharacter, Table.Row.fetch, h]
  dsimp only
  cases Character.ofFields r.toFields <;> rfl

/-- A row is read as a record when its cells are ratings, and the record has the key of the row. -/
theorem Row.toCharacter_eq_ok_iff (channel user : Value) (r : Row) (c : Character) :
    (Row.toCharacter channel user r).2 = .ok c ↔ c.channel = r.channel ∧ c.user = r.user ∧
      ∀ a, Character.readRating (r.cells.get a).toValue = .ok (c.rating a) := by
  have hread : Character.ofFields r.toFields = .ok c ↔ c.channel = r.channel ∧ c.user = r.user ∧
      ∀ a, Character.readRating (r.cells.get a).toValue = .ok (c.rating a) := by
    rw [Table.Row.toFields_eq_recordForm, Character.ofFields_recordForm_eq_ok_iff,
      Value.text.injEq, Value.text.injEq, eq_comm, eq_comm (a := r.user)]
  cases hfault : r.fault? with
  | none =>
    rw [← hread, Row.toCharacter_of_no_fault hfault]
    cases Character.ofFields r.toFields <;> constructor <;> intro h <;> cases h <;> rfl
  | some f =>
    -- The replacement character that stands for the undecodable cell writes no rating.
    obtain ⟨a, bytes, rfl, hvalue⟩ := Table.Row.fault?_eq_some hfault
    rw [Row.toCharacter_of_fault hfault]
    constructor
    · intro h
      cases h
    · rintro ⟨-, -, hcells⟩
      have hunread := hcells a
      rw [hvalue, Character.readRating_replacement] at hunread
      cases hunread

/-- **What a row that is no record is read as**: it cannot be fetched, or its fields have issues. -/
theorem Row.toCharacter_eq_error {channel user : Value} {r : Row} {e : Error}
    (h : (Row.toCharacter channel user r).2 = .error e) :
    (∃ f, r.fault? = some f ∧ e = .storage (.failed f)) ∨
      ∃ issues, r.fault? = none ∧ Character.ofFields r.toFields = .error issues ∧
        e = .storage (.corrupt issues) := by
  cases hfault : r.fault? with
  | some f =>
    rw [Row.toCharacter_of_fault hfault] at h
    exact .inl ⟨f, rfl, (Except.error.inj h).symm⟩
  | none =>
    rw [Row.toCharacter_of_no_fault hfault] at h
    cases hread : Character.ofFields r.toFields with
    | error issues =>
      rw [hread] at h
      exact .inr ⟨issues, rfl, rfl, (Except.error.inj h).symm⟩
    | ok c =>
      rw [hread] at h
      cases h

/-- The record in the row that stores it. -/
theorem Row.toCharacter_ofCharacter (channel user : Value) (c : Character) :
    (Row.toCharacter channel user (Row.ofCharacter c)).2 = .ok c := by
  rw [Row.toCharacter_eq_ok_iff]
  refine ⟨rfl, rfl, ?_⟩
  intro a
  simp only [Row.ofCharacter, Sheet.get_ofFn]
  exact Character.readRating_toInt _

/-- Only a key of two texts can be that of a character without a row, of which nothing is known. -/
theorem absentCharacter_eq_ok {channel user : Value} {c : Character}
    (h : absentCharacter channel user = .ok c) :
    channel = .text c.channel ∧ user = .text c.user ∧ c = .blank c.channel c.user := by
  unfold absentCharacter at h
  cases hf : Character.ofFields [(Character.channelName, channel), (Character.userName, user)] with
  | error issues =>
    rw [hf] at h
    cases h
  | ok c' =>
    rw [hf] at h
    cases h
    obtain ⟨hc, hu, hr⟩ := (Character.ofFields_eq_ok_iff _ _).1 hf
    have hne : (Character.userName == Character.channelName) = false := by decide
    simp only [Character.textField, Fields.get?, List.lookup_cons, hne, beq_self_eq_true] at hc hu
    refine ⟨(Field.text_eq_ok_iff _ _).1 hc, (Field.text_eq_ok_iff _ _).1 hu, ?_⟩
    have hratings : ∀ a, c.rating a = 0 := by
      intro a
      have ha := hr a
      have hc : (a.name == Character.channelName) = false := by simpa using a.name_ne_channelName
      have hu : (a.name == Character.userName) = false := by simpa using a.name_ne_userName
      simp only [Character.ratingField, Fields.get?, List.lookup_cons, hc, hu,
        List.lookup_nil] at ha
      exact (Except.ok.inj ha).symm
    obtain ⟨x, y, ratings⟩ := c
    simp only [Character.blank, Character.mk.injEq, true_and]
    apply Sheet.ext_get
    intro a
    rw [Sheet.get_ofFn]
    exact hratings a

theorem absentCharacter_text (channel user : String) :
    absentCharacter (.text channel) (.text user) = .ok (.blank channel user) := by
  have : Character.ofFields
      [(Character.channelName, .text channel), (Character.userName, .text user)] =
        .ok (.blank channel user) := by
    rw [Character.ofFields_eq_ok_iff]
    have hne : (Character.userName == Character.channelName) = false := by decide
    refine ⟨?_, ?_, ?_⟩
    · simp [Character.textField, Fields.get?, Field.text, Character.blank]
    · simp [Character.textField, Fields.get?, List.lookup_cons, hne, Field.text, Character.blank]
    · intro a
      have hc : (a.name == Character.channelName) = false := by simpa using a.name_ne_channelName
      have hu : (a.name == Character.userName) = false := by simpa using a.name_ne_userName
      simp [Character.ratingField, Fields.get?, List.lookup_cons, hc, hu]
  simp [absentCharacter, this]

/-- **Every number can be added to a rating**, which comes to the rating nearest to the sum. -/
theorem Task.adjust_int (c : Character) (a : Action) (delta : Int) :
    Task.adjust c a (.int delta) =
      .ok (⟨a, .int delta, c.rating a, .int (Rating.clamp ((c.rating a).toInt + delta)).toInt⟩,
        c.rated a (Rating.clamp ((c.rating a).toInt + delta))) := by
  simp only [Task.adjust, changedRating_int, Character.withField_rating]

/-- Adding a number to a rating changes that rating only. -/
theorem Task.exists_adjust (c : Character) (a : Action) (delta : Int) :
    ∃ adjustment changed, Task.adjust c a (.int delta) = .ok (adjustment, changed) ∧
      adjustment.after = .int (max 0 (min 4 ((c.rating a).toInt + delta))) ∧
      changed.channel = c.channel ∧ changed.user = c.user ∧
      ∀ b, (changed.rating b).toInt =
        if b = a then max 0 (min 4 ((c.rating a).toInt + delta)) else (c.rating b).toInt := by
  have hsum := Rating.toInt_clamp ((c.rating a).toInt + delta)
  refine ⟨_, _, Task.adjust_int c a delta, congrArg Value.int hsum, rfl, rfl, ?_⟩
  intro b
  by_cases hb : b = a
  · rw [if_pos hb, hb, Character.rating_rated_self]
    exact hsum
  · rw [if_neg hb, Character.rating_rated_of_ne _ _ hb]

end Ledger

/-! ### The keys of a table -/

namespace Table

/-- Whether the cells of a row are ratings. -/
def Row.IsValid (r : Row) : Prop :=
  ∀ a, ∃ n, r.cells.get a = .integer n ∧ Rating.least ≤ n ∧ n ≤ Rating.greatest

/-- A row that stores a record is valid. -/
theorem Row.isValid_ofCharacter (c : Character) : (Row.ofCharacter c).IsValid := by
  intro a
  refine ⟨(c.ratings.get a).toInt, by rw [Row.ofCharacter, Sheet.get_ofFn], ?_⟩
  simp only [Rating.least, Rating.greatest, Rating.toInt]
  omega

/-- The key of a row. -/
def Row.key (r : Row) : String × String := (r.channel, r.user)

theorem Row.hasKey_iff_key (r : Row) (channel user : String) :
    r.hasKey channel user = true ↔ r.key = (channel, user) := by
  rw [Row.hasKey_iff, Row.key, Prod.mk.injEq]

namespace CharacterTable

/-- Putting a row in its place adds its key, unless it is there already. -/
theorem keys_replaceRow (r : Row) (rows : List Row) :
    (replaceRow r rows).map Row.key =
      if r.key ∈ rows.map Row.key then rows.map Row.key else rows.map Row.key ++ [r.key] := by
  induction rows with
  | nil => simp [replaceRow]
  | cons s rows ih =>
    unfold replaceRow
    by_cases hs : s.hasKey r.channel r.user = true
    · have hkey : s.key = r.key := (Row.hasKey_iff_key s r.channel r.user).1 hs
      simp [hs, hkey]
    · have hkey : r.key ≠ s.key := fun he =>
        hs ((Row.hasKey_iff_key s r.channel r.user).2 he.symm)
      rw [if_neg hs, List.map_cons, List.map_cons, ih]
      by_cases hm : r.key ∈ rows.map Row.key
      · rw [if_pos hm, if_pos (List.mem_cons_of_mem _ hm)]
      · rw [if_neg hm, if_neg fun h => hm ((List.mem_cons.1 h).resolve_left hkey)]
        rfl

theorem mem_keys_replaceRow (r : Row) (rows : List Row) (key : String × String) :
    key ∈ (replaceRow r rows).map Row.key ↔ key = r.key ∨ key ∈ rows.map Row.key := by
  rw [keys_replaceRow]
  split
  · next hm =>
    refine ⟨.inr, ?_⟩
    rintro (rfl | h)
    · exact hm
    · exact h
  · rw [List.mem_append, List.mem_singleton]
    exact Or.comm

/-- **Putting a row in its place** leaves at most one row for each key. -/
theorem nodup_keys_replaceRow (r : Row) {rows : List Row} (h : (rows.map Row.key).Nodup) :
    ((replaceRow r rows).map Row.key).Nodup := by
  rw [keys_replaceRow]
  split
  · exact h
  · next hm =>
    rw [List.nodup_append]
    refine ⟨h, by simp, ?_⟩
    intro a ha b hb hab
    rw [List.mem_singleton.1 hb] at hab
    exact hm (hab ▸ ha)

/-- Every row is the one that was put there or was there before. -/
theorem mem_replaceRow {r s : Row} {rows : List Row} (h : s ∈ replaceRow r rows) :
    s = r ∨ s ∈ rows := by
  induction rows with
  | nil => exact .inl (List.mem_singleton.1 h)
  | cons u rows ih =>
    unfold replaceRow at h
    split at h
    · exact (List.mem_cons.1 h).imp_right (List.mem_cons_of_mem u)
    · rcases List.mem_cons.1 h with rfl | h
      · exact .inr (List.mem_cons_self ..)
      · exact (ih h).imp_right (List.mem_cons_of_mem u)

end CharacterTable

end Table

end CharacterLedger
