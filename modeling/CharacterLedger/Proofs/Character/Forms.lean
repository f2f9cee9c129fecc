import CharacterLedger.Proofs.Character.Records
import Mathlib.Data.List.Perm.Basic

/-!
# Forms for records

A form for a record is checked to the end.  It describes a record when its key is two texts and every
rating that is given converts to an integer of the range; else each of its fields that is wrong is
reported once, in the order of the fields of a record.

* `Character.Fails` — what is wrong with a field of a form, said of the field alone;
* `Character.mem_issues_iff`, `Character.sublist_issues` — what is reported, and in what order;
* `Character.readRating_eq_ok_iff` — the values that are read as ratings;
* `Character.ofFields_congr` — what a form comes to depends on the fourteen fields only;
* `Fields.get?_of_perm` — the order in which fields are given does not matter;
* `Character.ofFields_validates` — all of this.
-/

namespace CharacterLedger

/-! ### Fields in any order -/

namespace Fields

variable {fields other : Fields}

/-- The value of a field is that of a pair, if no name is given twice. -/
theorem get?_eq_some_iff (h : (fields.map Prod.fst).Nodup) (name : String) (v : Value) :
    fields.get? name = some v ↔ (name, v) ∈ fields := by
  induction fields with
  | nil => simp [get?]
  | cons p fields ih =>
    obtain ⟨key, w⟩ := p
    rw [List.map_cons, List.nodup_cons] at h
    have hrest := ih h.2
    unfold get? at hrest ⊢
    rw [List.lookup_cons, List.mem_cons, Prod.mk.injEq]
    by_cases hname : name = key
    · subst hname
      have hno : (name, v) ∉ fields := fun hm => h.1 (List.mem_map.2 ⟨(name, v), hm, rfl⟩)
      simp [hno, eq_comm]
    · have hne : (name == key) = false := by simpa using hname
      simp [hne, hname, hrest]

/-- The order in which fields are given does not matter. -/
theorem get?_of_perm (hperm : other.Perm fields) (h : (fields.map Prod.fst).Nodup)
    (name : String) : other.get? name = fields.get? name := by
  have hother : (other.map Prod.fst).Nodup := (hperm.map Prod.fst).nodup_iff.2 h
  apply Option.ext
  intro v
  rw [get?_eq_some_iff hother, get?_eq_some_iff h]
  exact hperm.mem_iff

end Fields

namespace Character

variable {fields other : Fields} {name : String} {d : Defect} {c : Character}

/-! ### The fields of a record -/

theorem channelName_mem : channelName ∈ fieldNames := List.mem_cons_self

theorem userName_mem : userName ∈ fieldNames := List.mem_cons_of_mem _ List.mem_cons_self

theorem name_mem (a : Action) : a.name ∈ fieldNames :=
  List.mem_cons_of_mem _ (List.mem_cons_of_mem _ (List.mem_map_of_mem (Action.mem_all a)))

/-- No two fields are reported in the same way. -/
theorem nodup_paths : (fieldNames.map fun name => [name]).Nodup := by decide

/-! ### Single fields -/

/-- What is read as a rating: an integer of the range, or what converts to one. -/
theorem readRating_eq_ok_iff (v : Value) (r : Rating) :
    readRating v = .ok r ↔ Field.integer v = .ok r.toInt := by
  unfold readRating
  cases Field.integer v with
  | error d => simp
  | ok n =>
    simp only [Except.ok.injEq]
    constructor
    · intro h
      split at h
      · next hr =>
        cases h
        exact (Rating.toInt_of_ofInt? hr).symm
      · cases h
    · rintro rfl
      simp

/-- A value is read as a rating when it converts to an integer of the range. -/
theorem exists_readRating_iff (v : Value) :
    (∃ r, readRating v = .ok r) ↔
      ∃ n, Field.integer v = .ok n ∧ Rating.least ≤ n ∧ n ≤ Rating.greatest := by
  simp only [readRating_eq_ok_iff]
  constructor
  · rintro ⟨r, hr⟩
    refine ⟨r.toInt, hr, ?_⟩
    simp only [Rating.least, Rating.greatest, Rating.toInt]
    omega
  · rintro ⟨n, hn, hleast, hgreatest⟩
    have hclamp : (Rating.clamp n).toInt = n := by
      rw [Rating.toInt_clamp]
      omega
    exact ⟨.clamp n, by rw [hclamp, hn]⟩

/-- What is wrong with a value that is read as no rating. -/
theorem readRating_eq_error_iff (v : Value) (d : Defect) :
    readRating v = .error d ↔ Field.integer v = .error d ∨
      d = .ratingOutOfRange ∧
        ∃ n, Field.integer v = .ok n ∧ (n < Rating.least ∨ Rating.greatest < n) := by
  unfold readRating
  cases Field.integer v with
  | error e => simp
  | ok n =>
    by_cases hn : Rating.least ≤ n ∧ n ≤ Rating.greatest
    · have hin : ¬ (n < Rating.least ∨ Rating.greatest < n) := by omega
      simp [Rating.ofInt?, hn, hin]
    · have hout : n < Rating.least ∨ Rating.greatest < n := by omega
      simp [Rating.ofInt?, hn, hout, eq_comm]

theorem textField_eq_ok_iff (x : String) :
    textField fields name = .ok x ↔ fields.get? name = some (.text x) := by
  unfold textField
  cases fields.get? name with
  | none => simp
  | some v => simp

theorem textField_eq_error_iff :
    textField fields name = .error d ↔
      fields.get? name = none ∧ d = .missing ∨
        d = .notText ∧ ∃ v, fields.get? name = some v ∧ ∀ x, v ≠ .text x := by
  unfold textField
  cases fields.get? name with
  | none => simp [eq_comm]
  | some v => cases v <;> simp [Field.text, eq_comm]

theorem ratingField_eq_ok_iff (a : Action) (r : Rating) :
    ratingField fields a = .ok r ↔ fields.get? a.name = none ∧ r = 0 ∨
      ∃ v, fields.get? a.name = some v ∧ Field.integer v = .ok r.toInt := by
  unfold ratingField
  cases fields.get? a.name with
  | none => simp [eq_comm]
  | some v => simp [readRating_eq_ok_iff]

theorem ratingField_eq_error_iff (a : Action) :
    ratingField fields a = .error d ↔
      ∃ v, fields.get? a.name = some v ∧ readRating v = .error d := by
  unfold ratingField
  cases fields.get? a.name with
  | none => simp
  | some v => simp

/-! ### What is reported -/

/-- What is wrong with a field of a form: half of the key is missing or no text, or a rating that is
given does not convert to an integer, or to none of the range. -/
inductive Fails (fields : Fields) : String → Defect → Prop
  | missing {name : String} (isKey : name = channelName ∨ name = userName)
      (absent : fields.get? name = none) : Fails fields name .missing
  | notText {name : String} {v : Value} (isKey : name = channelName ∨ name = userName)
      (given : fields.get? name = some v) (noText : ∀ x, v ≠ .text x) : Fails fields name .notText
  | notInteger {a : Action} {v : Value} {d : Defect} (given : fields.get? a.name = some v)
      (unread : Field.integer v = .error d) : Fails fields a.name d
  | outOfRange {a : Action} {v : Value} {n : Int} (given : fields.get? a.name = some v)
      (read : Field.integer v = .ok n) (outside : n < Rating.least ∨ Rating.greatest < n) :
      Fails fields a.name .ratingOutOfRange

/-- A half of the key fails when it cannot be read. -/
theorem fails_of_textField (hkey : name = channelName ∨ name = userName)
    (h : textField fields name = .error d) : Fails fields name d := by
  obtain ⟨hnone, rfl⟩ | ⟨rfl, v, hv, hno⟩ := textField_eq_error_iff.1 h
  · exact .missing hkey hnone
  · exact .notText hkey hv hno

/-- A rating fails when it cannot be read. -/
theorem fails_of_ratingField {a : Action} (h : ratingField fields a = .error d) :
    Fails fields a.name d := by
  obtain ⟨v, hv, hread⟩ := (ratingField_eq_error_iff a).1 h
  obtain hunread | ⟨rfl, n, hn, hout⟩ := (readRating_eq_error_iff v d).1 hread
  · exact .notInteger hv hunread
  · exact .outOfRange hv hn hout

/-- **A field fails when it is read with a defect.** -/
theorem fails_iff : Fails fields name d ↔
    (name = channelName ∧ textField fields channelName = .error d) ∨
      (name = userName ∧ textField fields userName = .error d) ∨
      ∃ a : Action, name = a.name ∧ ratingField fields a = .error d := by
  constructor
  · intro h
    cases h with
    | missing isKey absent =>
      have hread := textField_eq_error_iff.2 (.inl ⟨absent, rfl⟩)
      obtain rfl | rfl := isKey
      · exact .inl ⟨rfl, hread⟩
      · exact .inr (.inl ⟨rfl, hread⟩)
    | notText isKey given noText =>
      have hread := textField_eq_error_iff.2 (.inr ⟨rfl, _, given, noText⟩)
      obtain rfl | rfl := isKey
      · exact .inl ⟨rfl, hread⟩
      · exact .inr (.inl ⟨rfl, hread⟩)
    | notInteger given unread =>
      refine .inr (.inr ⟨_, rfl, (ratingField_eq_error_iff _).2 ⟨_, given, ?_⟩⟩)
      exact (readRating_eq_error_iff _ _).2 (.inl unread)
    | outOfRange given read outside =>
      refine .inr (.inr ⟨_, rfl, (ratingField_eq_error_iff _).2 ⟨_, given, ?_⟩⟩)
      exact (readRating_eq_error_iff _ _).2 (.inr ⟨rfl, _, read, outside⟩)
  · rintro (⟨rfl, h⟩ | ⟨rfl, h⟩ | ⟨a, rfl, h⟩)
    · exact fails_of_textField (.inl rfl) h
    · exact fails_of_textField (.inr rfl) h
    · exact fails_of_ratingField h

theorem mem_issueOf_iff {α : Type} {r : Except Defect α} {i : Issue} :
    i ∈ issueOf name r ↔ i.path = [name] ∧ r = .error i.defect := by
  cases r with
  | ok x => simp [issueOf]
  | error d =>
    obtain ⟨path, defect⟩ := i
    simp [issueOf, eq_comm]

/-- **There is an issue for each field that fails**, and for no other. -/
theorem mem_issues_iff (fields : Fields) (i : Issue) :
    i ∈ issues fields ↔ ∃ name, i.path = [name] ∧ Fails fields name i.defect := by
  unfold issues
  rw [List.mem_append, List.mem_append, List.mem_flatMap]
  simp only [mem_issueOf_iff, fails_iff]
  constructor
  · rintro ((⟨hp, h⟩ | ⟨hp, h⟩) | ⟨a, -, hp, h⟩)
    · exact ⟨_, hp, .inl ⟨rfl, h⟩⟩
    · exact ⟨_, hp, .inr (.inl ⟨rfl, h⟩)⟩
    · exact ⟨_, hp, .inr (.inr ⟨a, rfl, h⟩)⟩
  · rintro ⟨_, hp, ⟨rfl, h⟩ | ⟨rfl, h⟩ | ⟨a, rfl, h⟩⟩
    · exact .inl (.inl ⟨hp, h⟩)
    · exact .inl (.inr ⟨hp, h⟩)
    · exact .inr ⟨a, Action.mem_all a, hp, h⟩

theorem sublist_issueOf {α : Type} (name : String) (r : Except Defect α) :
    ((issueOf name r).map Issue.path).Sublist [[name]] := by
  cases r with
  | ok x => exact List.nil_sublist _
  | error d => exact List.Sublist.refl _

/-- **The issues stand in the order of the fields of a record**, one for a field at most. -/
theorem sublist_issues (fields : Fields) :
    ((issues fields).map Issue.path).Sublist (fieldNames.map fun name => [name]) := by
  have hactions : ∀ actions : List Action,
      ((actions.flatMap fun a => issueOf a.name (ratingField fields a)).map Issue.path).Sublist
        (actions.map fun a => [a.name]) := by
    intro actions
    induction actions with
    | nil => exact List.Sublist.refl []
    | cons a actions ih =>
      rw [List.flatMap_cons, List.map_append, List.map_cons]
      exact (sublist_issueOf a.name _).append ih
  have hsplit : (fieldNames.map fun name => [name]) =
      [[channelName]] ++ [[userName]] ++ Action.all.map fun a => [a.name] := rfl
  rw [issues, List.map_append, List.map_append, hsplit]
  exact ((sublist_issueOf _ _).append (sublist_issueOf _ _)).append (hactions Action.all)

theorem ofFields_eq_error_iff (fields : Fields) (found : List Issue) :
    ofFields fields = .error found ↔ found = issues fields ∧ issues fields ≠ [] := by
  unfold ofFields
  cases issues fields with
  | nil => simp
  | cons i rest => simp [eq_comm]

example : issues [("sway", .text "many"), (userName, .int 5), ("luck", .int 9), ("attune", .int 7),
    ("hack", .text " 3 ")] = [⟨[channelName], .missing⟩, ⟨[userName], .notText⟩,
      ⟨["attune"], .ratingOutOfRange⟩, ⟨["sway"], .unreadableInteger⟩] := by
  decide +kernel

/-! ### What a form comes to -/

/-- **What a form comes to depends on the fields of a record only.** -/
theorem ofFields_congr (h : ∀ name ∈ fieldNames, other.get? name = fields.get? name) :
    ofFields other = ofFields fields := by
  have htext : ∀ name ∈ fieldNames, textField other name = textField fields name := by
    intro name hname
    rw [textField, textField, h name hname]
  have hrating : ∀ a, ratingField other a = ratingField fields a := by
    intro a
    rw [ratingField, ratingField, h a.name (name_mem a)]
  have hissues : issues other = issues fields := by
    simp only [issues, htext _ channelName_mem, htext _ userName_mem, hrating]
  simp only [ofFields, hissues, htext _ channelName_mem, htext _ userName_mem, hrating]

/-- What a record that is read has in its fields. -/
theorem fields_of_ofFields (h : ofFields fields = .ok c) :
    fields.get? channelName = some (.text c.channel) ∧
      fields.get? userName = some (.text c.user) ∧
      ∀ a, fields.get? a.name = none ∧ c.rating a = 0 ∨
        ∃ v, fields.get? a.name = some v ∧ Field.integer v = .ok (c.rating a).toInt := by
  obtain ⟨hchannel, huser, hratings⟩ := (ofFields_eq_ok_iff fields c).1 h
  refine ⟨(textField_eq_ok_iff _).1 hchannel, (textField_eq_ok_iff _).1 huser, ?_⟩
  intro a
  exact (ratingField_eq_ok_iff a _).1 (hratings a)

/-- A form describes a record when its key is two texts and its ratings convert. -/
theorem exists_ofFields_iff (fields : Fields) :
    (∃ c, ofFields fields = .ok c) ↔
      (∃ x, fields.get? channelName = some (.text x)) ∧
      (∃ y, fields.get? userName = some (.text y)) ∧
      ∀ (a : Action) (v : Value), fields.get? a.name = some v →
        ∃ n, Field.integer v = .ok n ∧ Rating.least ≤ n ∧ n ≤ Rating.greatest := by
  constructor
  · rintro ⟨c, h⟩
    obtain ⟨hchannel, huser, hratings⟩ := fields_of_ofFields h
    refine ⟨⟨_, hchannel⟩, ⟨_, huser⟩, ?_⟩
    intro a v hv
    obtain ⟨hnone, -⟩ | ⟨w, hw, hread⟩ := hratings a
    · rw [hv] at hnone
      cases hnone
    · rw [hv, Option.some.injEq] at hw
      subst hw
      exact (exists_readRating_iff v).1 ⟨_, (readRating_eq_ok_iff v _).2 hread⟩
  · rintro ⟨⟨x, hx⟩, ⟨y, hy⟩, hratings⟩
    have hread : ∀ a, ∃ r, ratingField fields a = .ok r := by
      intro a
      cases hv : fields.get? a.name with
      | none => exact ⟨0, (ratingField_eq_ok_iff a 0).2 (.inl ⟨hv, rfl⟩)⟩
      | some v =>
        obtain ⟨r, hr⟩ := (exists_readRating_iff v).2 (hratings a v hv)
        exact ⟨r, (ratingField_eq_ok_iff a r).2 (.inr ⟨v, hv, (readRating_eq_ok_iff v r).1 hr⟩)⟩
    choose ratings hratings using hread
    refine ⟨⟨x, y, .ofFn ratings⟩, (ofFields_eq_ok_iff _ _).2
      ⟨(textField_eq_ok_iff x).2 hx, (textField_eq_ok_iff y).2 hy, ?_⟩⟩
    intro a
    rw [hratings a, rating, Sheet.get_ofFn]

/-- A record is read from its own fields. -/
@[simp] theorem ofFields_toFields (c : Character) : ofFields c.toFields = .ok c := by
  rw [toFields_eq, ofFields_recordForm_eq_ok_iff]
  exact ⟨rfl, rfl, fun a => readRating_toInt _⟩

/-- **A form for a record is checked completely.**  It describes a record just when its key is two
texts and every rating that is given converts to an integer of the range.  The record has these
texts and ratings, zero where none is given, and is read from its own fields again.  Otherwise there
is an issue for each field that fails, in the order of the fields.  Fields with other names, and the
order in which fields are given, do not matter. -/
theorem ofFields_validates (fields : Fields) :
    ((∃ c, ofFields fields = .ok c) ↔
      (∃ x, fields.get? channelName = some (.text x)) ∧
      (∃ y, fields.get? userName = some (.text y)) ∧
      ∀ (a : Action) (v : Value), fields.get? a.name = some v →
        ∃ n, Field.integer v = .ok n ∧ Rating.least ≤ n ∧ n ≤ Rating.greatest) ∧
    (∀ c, ofFields fields = .ok c →
      fields.get? channelName = some (.text c.channel) ∧
      fields.get? userName = some (.text c.user) ∧
      (∀ a, fields.get? a.name = none ∧ c.rating a = 0 ∨
        ∃ v, fields.get? a.name = some v ∧ Field.integer v = .ok (c.rating a).toInt) ∧
      ofFields c.toFields = .ok c) ∧
    (∀ found, ofFields fields = .error found →
      (found.map Issue.path).Sublist (fieldNames.map fun name => [name]) ∧
      (found.map Issue.path).Nodup ∧
      ∀ i, i ∈ found ↔ ∃ name, i.path = [name] ∧ Fails fields name i.defect) ∧
    (∀ other : Fields, (∀ name ∈ fieldNames, other.get? name = fields.get? name) →
      ofFields other = ofFields fields) ∧
    ∀ other : Fields, other.Perm fields → (fields.map Prod.fst).Nodup →
      ofFields other = ofFields fields := by
  refine ⟨exists_ofFields_iff fields, ?_, ?_, fun other => ofFields_congr, ?_⟩
  · intro c h
    obtain ⟨hchannel, huser, hratings⟩ := fields_of_ofFields h
    exact ⟨hchannel, huser, hratings, ofFields_toFields c⟩
  · intro found h
    obtain ⟨rfl, -⟩ := (ofFields_eq_error_iff fields found).1 h
    exact ⟨sublist_issues fields, (sublist_issues fields).nodup nodup_paths, mem_issues_iff fields⟩
  · intro other hperm hnodup
    exact ofFields_congr fun name _ => Fields.get?_of_perm hperm hnodup name

end Character

end CharacterLedger
