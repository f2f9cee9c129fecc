import CharacterLedger.Character.Lookup
import CharacterLedger.Proofs.Character.Forms
import Mathlib.Data.List.Perm.Basic

/-!
# Changing one field of a record

A record is changed by writing all of its fields down, replacing one of them and reading the whole
form again.  That comes to reading the new value alone: no other field is ever found wrong, and no
other field is changed.

* `Character.withField_eq_error_iff` — a change that fails reports the field that was replaced,
  once;
* `Character.withField_action`, `withField_channel`, `withField_user`, `withField_of_notMem` — what
  a change comes to, by the name of the field;
* `Character.withField_of_field?` — setting what is there already;
* `Character.attributeRating_rated`, `Character.sum_attributeRating` — the ratings of the attributes
  behind a change, and their sum;
* `Character.withField_updates` — the laws of such changes.
-/

namespace CharacterLedger

/-! ### Forms with one field replaced -/

section Form

variable {channel user : Value} {f : Action → Value}

@[simp] theorem put_channel (v : Value) :
    (recordForm channel user f).put Character.channelName v = recordForm v user f := by
  simp [recordForm, Fields.put]

@[simp] theorem put_user (v : Value) :
    (recordForm channel user f).put Character.userName v = recordForm channel v f := by
  have hne : Character.channelName ≠ Character.userName := by decide
  simp [recordForm, Fields.put, hne]

end Form

namespace Rating

/-- What a rating adds to that of its attribute: one if it is positive. -/
def dot (r : Rating) : Int := if 0 < r.toInt then 1 else 0

theorem ne_zero_iff (r : Rating) : r ≠ 0 ↔ 0 < r.toInt := by
  rw [toInt, ne_eq, Fin.ext_iff, Fin.val_zero]
  omega

end Rating

namespace Character

variable {c : Character} {fields other : Fields} {name : String} {v : Value} {d : Defect}
  {found : List Issue}

/-- Whether a field fails depends on that field only. -/
theorem Fails.congr (h : Fails fields name d) (hsame : other.get? name = fields.get? name) :
    Fails other name d := by
  cases h with
  | missing isKey absent => exact .missing isKey (hsame.trans absent)
  | notText isKey given noText => exact .notText isKey (hsame.trans given) noText
  | notInteger given unread => exact .notInteger (hsame.trans given) unread
  | outOfRange given read outside => exact .outOfRange (hsame.trans given) read outside

/-- No field of a record fails. -/
theorem not_fails_toFields (c : Character) : ¬Fails c.toFields name d := by
  intro h
  have hmem : (⟨[name], d⟩ : Issue) ∈ issues c.toFields := (mem_issues_iff _ _).2 ⟨name, rfl, h⟩
  have herror := (ofFields_eq_error_iff c.toFields _).2 ⟨rfl, List.ne_nil_of_mem hmem⟩
  rw [ofFields_toFields] at herror
  cases herror

/-- Behind a change no field can fail but the one that was replaced. -/
theorem Fails.eq_of_put {changed : String} (h : Fails (c.toFields.put name v) changed d) :
    changed = name := by
  by_contra hne
  exact not_fails_toFields c (h.congr (Fields.get?_put_of_ne _ _ _ _ hne).symm)

/-- Every issue behind a change is one of the field that was replaced. -/
theorem of_mem_issues_put {i : Issue} (hi : i ∈ issues (c.toFields.put name v)) :
    i.path = [name] ∧ Fails (c.toFields.put name v) name i.defect := by
  obtain ⟨changed, hpath, hfails⟩ := (mem_issues_iff _ _).1 hi
  obtain rfl := hfails.eq_of_put
  exact ⟨hpath, hfails⟩

/-- Behind a change there is one issue at most, since no field is reported twice. -/
theorem issues_put_of_mem {i : Issue} (hi : i ∈ issues (c.toFields.put name v)) :
    issues (c.toFields.put name v) = [i] := by
  have hpaths : ∀ j ∈ issues (c.toFields.put name v), j.path = [name] :=
    fun j hj => (of_mem_issues_put hj).1
  have hnodup := (sublist_issues (c.toFields.put name v)).nodup nodup_paths
  cases hissues : issues (c.toFields.put name v) with
  | nil =>
    rw [hissues] at hi
    cases hi
  | cons first rest =>
    rw [hissues] at hi hpaths hnodup
    cases rest with
    | nil => rw [List.mem_singleton.1 hi]
    | cons second rest =>
      have hsame : first.path = second.path := by
        rw [hpaths first (by simp), hpaths second (by simp)]
      simp [hsame] at hnodup

/-- **A change that fails reports the field that was replaced**, once, and no other. -/
theorem withField_eq_error_iff :
    c.withField name v = .error found ↔
      ∃ d, found = [⟨[name], d⟩] ∧ Fails (c.toFields.put name v) name d := by
  rw [withField, ofFields_eq_error_iff]
  constructor
  · rintro ⟨rfl, hne⟩
    obtain ⟨i, hi⟩ := List.exists_mem_of_ne_nil _ hne
    obtain ⟨hpath, hfails⟩ := of_mem_issues_put hi
    refine ⟨i.defect, ?_, hfails⟩
    rw [issues_put_of_mem hi, ← hpath]
  · rintro ⟨d, rfl, hfails⟩
    have hmem : (⟨[name], d⟩ : Issue) ∈ issues (c.toFields.put name v) :=
      (mem_issues_iff _ _).2 ⟨name, rfl, hfails⟩
    exact ⟨(issues_put_of_mem hmem).symm, List.ne_nil_of_mem hmem⟩

/-! ### What a change comes to -/

/-- **Setting the rating of an action** reads the value as a rating. -/
theorem withField_action (c : Character) (a : Action) (v : Value) :
    c.withField a.name v =
      match readRating v with
      | .ok r => .ok (c.rated a r)
      | .error d => .error [⟨[a.name], d⟩] := by
  cases hread : readRating v with
  | ok r =>
    refine (withField_eq_ok_iff a v).2 ⟨rfl, rfl, ?_, fun b hb => c.rating_rated_of_ne r hb⟩
    rw [hread, rating_rated_self]
  | error d =>
    refine withField_eq_error_iff.2 ⟨d, rfl, fails_of_ratingField ?_⟩
    rw [ratingField, Fields.get?_put_self]
    exact hread

/-- **Setting the channel** reads the value as a text. -/
theorem withField_channel (c : Character) (v : Value) :
    c.withField channelName v =
      match Field.text v with
      | .ok s => .ok { c with channel := s }
      | .error d => .error [⟨[channelName], d⟩] := by
  cases hread : Field.text v with
  | ok s =>
    obtain rfl := (Field.text_eq_ok_iff v s).1 hread
    rw [withField, toFields_eq, put_channel]
    exact (ofFields_recordForm_eq_ok_iff _).2 ⟨rfl, rfl, fun a => readRating_toInt _⟩
  | error d =>
    refine withField_eq_error_iff.2 ⟨d, rfl, fails_of_textField (.inl rfl) ?_⟩
    rw [textField, Fields.get?_put_self]
    exact hread

/-- **Setting the user** reads the value as a text. -/
theorem withField_user (c : Character) (v : Value) :
    c.withField userName v =
      match Field.text v with
      | .ok s => .ok { c with user := s }
      | .error d => .error [⟨[userName], d⟩] := by
  cases hread : Field.text v with
  | ok s =>
    obtain rfl := (Field.text_eq_ok_iff v s).1 hread
    rw [withField, toFields_eq, put_user]
    exact (ofFields_recordForm_eq_ok_iff _).2 ⟨rfl, rfl, fun a => readRating_toInt _⟩
  | error d =>
    refine withField_eq_error_iff.2 ⟨d, rfl, fails_of_textField (.inr rfl) ?_⟩
    rw [textField, Fields.get?_put_self]
    exact hread

/-- A change that leaves the form as it was changes nothing. -/
theorem withField_eq_self
    (h : ∀ field ∈ fieldNames, (c.toFields.put name v).get? field = c.toFields.get? field) :
    c.withField name v = .ok c := by
  rw [withField, ofFields_congr h, ofFields_toFields]

/-- **A name that is no field** changes nothing. -/
theorem withField_of_notMem (c : Character) (v : Value) (h : name ∉ fieldNames) :
    c.withField name v = .ok c := by
  apply withField_eq_self
  intro field hfield
  exact Fields.get?_put_of_ne _ _ _ _ fun he => h (he ▸ hfield)

/-- **Setting what is there already** changes nothing. -/
theorem withField_of_field? (h : c.field? name = some v) : c.withField name v = .ok c := by
  apply withField_eq_self
  intro field _
  by_cases he : field = name
  · rw [he, Fields.get?_put_self]
    exact h.symm
  · exact Fields.get?_put_of_ne _ _ _ _ he

theorem exists_withField_action (a : Action) :
    (∃ changed, c.withField a.name v = .ok changed) ↔ ∃ r, readRating v = .ok r := by
  rw [withField_action]
  cases readRating v with
  | ok r => simp
  | error d => simp

/-- A change of a rating that succeeds puts the rating that was read in its place. -/
theorem eq_rated_of_withField {changed : Character} {a : Action}
    (h : c.withField a.name v = .ok changed) :
    ∃ r, readRating v = .ok r ∧ changed = c.rated a r := by
  rw [withField_action] at h
  cases hread : readRating v with
  | ok r =>
    rw [hread] at h
    exact ⟨r, rfl, (Except.ok.inj h).symm⟩
  | error d =>
    rw [hread] at h
    cases h

/-- Ratings of two actions can be put in their places in either order. -/
theorem rated_comm (c : Character) {a b : Action} (h : a ≠ b) (r s : Rating) :
    (c.rated a r).rated b s = (c.rated b s).rated a r := by
  have hratings : (c.ratings.set a r).set b s = (c.ratings.set b s).set a r := by
    apply Sheet.ext_get
    intro x
    by_cases hb : x = b
    · simp [hb, h.symm]
    · by_cases ha : x = a
      · simp [ha, h]
      · simp [ha, hb]
  simp only [rated, hratings]

/-! ### The ratings of the attributes -/

theorem nodup_actions (t : Attribute) : t.actions.Nodup := by cases t <;> decide

/-- **A changed rating shows in its attribute and in no other.** -/
theorem attributeRating_rated (c : Character) (a : Action) (r : Rating) (t : Attribute) :
    ((c.rated a r).attributeRating t : Int) - c.attributeRating t =
      if a ∈ t.actions then r.dot - (c.rating a).dot else 0 := by
  -- Without the action itself nothing is changed.
  have hrest : ∀ actions : List Action, a ∉ actions →
      actions.countP (fun b => decide ((c.rated a r).rating b ≠ 0)) =
        actions.countP fun b => decide (c.rating b ≠ 0) := by
    intro actions ha
    apply List.countP_congr
    intro b hb
    have hne : b ≠ a := fun he => ha (he ▸ hb)
    rw [rating_rated_of_ne c r hne]
  unfold attributeRating
  split
  · next ha =>
    have hperm := List.perm_cons_erase ha
    rw [hperm.countP_eq, hperm.countP_eq, List.countP_cons, List.countP_cons,
      hrest _ (nodup_actions t).not_mem_erase, rating_rated_self]
    simp only [Rating.dot, Rating.ne_zero_iff, decide_eq_true_eq]
    split <;> split <;> omega
  · next ha => rw [hrest _ ha, Int.sub_self]

/-- **The ratings of the attributes sum to the number of positive actions**, for each action belongs
to one attribute. -/
theorem sum_attributeRating (c : Character) :
    c.attributeRating .insight + c.attributeRating .prowess + c.attributeRating .resolve =
      Action.all.countP fun a => decide (0 < (c.rating a).toInt) := by
  have hperm : Action.all.Perm
      (Attribute.insight.actions ++ Attribute.prowess.actions ++ Attribute.resolve.actions) := by
    decide
  rw [hperm.countP_eq, List.countP_append, List.countP_append]
  simp only [attributeRating, Rating.ne_zero_iff]

/-- Each action belongs to one attribute. -/
theorem existsUnique_attribute (a : Action) : ∃! t : Attribute, a ∈ t.actions := by
  refine ⟨a.attribute, (Attribute.mem_actions_iff _ a).2 rfl, ?_⟩
  intro t ht
  exact ((Attribute.mem_actions_iff t a).1 ht).symm

/-! ### The laws of changes -/

/-- What setting the rating of an action to a value comes to. -/
structure SetsRating (c : Character) (a : Action) (v : Value) : Prop where
  /-- It succeeds just when the value converts to an integer of the range. -/
  succeeds : (∃ changed, c.withField a.name v = .ok changed) ↔
    ∃ n, Field.integer v = .ok n ∧ 0 ≤ n ∧ n ≤ 4
  /-- The rating is that integer then. -/
  rating : ∀ changed, c.withField a.name v = .ok changed →
    Field.integer v = .ok (changed.rating a).toInt
  /-- The key and the other ratings are kept. -/
  keeps : ∀ changed, c.withField a.name v = .ok changed →
    changed.key = c.key ∧ ∀ b, b ≠ a → changed.rating b = c.rating b
  /-- The attribute of the action is changed by as much as the action counts, and no other is. -/
  attributes : ∀ changed, c.withField a.name v = .ok changed → ∀ t,
    (changed.attributeRating t : Int) - c.attributeRating t =
      if a ∈ t.actions then (changed.rating a).dot - (c.rating a).dot else 0
  /-- Nothing is changed if that integer is the rating already. -/
  same : Field.integer v = .ok (c.rating a).toInt → c.withField a.name v = .ok c
  /-- Else it fails, with one issue, which names the action. -/
  fails : ∀ found, c.withField a.name v = .error found → ∃ d, found = [⟨[a.name], d⟩]

theorem setsRating (c : Character) (a : Action) (v : Value) : c.SetsRating a v where
  succeeds := (exists_withField_action a).trans (exists_readRating_iff v)
  rating := by
    intro changed h
    obtain ⟨r, hread, rfl⟩ := eq_rated_of_withField h
    rw [rating_rated_self]
    exact (readRating_eq_ok_iff v r).1 hread
  keeps := by
    intro changed h
    obtain ⟨r, -, rfl⟩ := eq_rated_of_withField h
    exact ⟨rfl, fun b hb => c.rating_rated_of_ne r hb⟩
  attributes := by
    intro changed h t
    obtain ⟨r, -, rfl⟩ := eq_rated_of_withField h
    rw [attributeRating_rated, rating_rated_self]
  same := by
    intro h
    rw [withField_action, (readRating_eq_ok_iff v _).2 h]
    simp only [rated_rating]
  fails := by
    intro found h
    obtain ⟨d, hfound, -⟩ := withField_eq_error_iff.1 h
    exact ⟨d, hfound⟩

/-- Of two changes of one rating the later counts, whether it succeeds or not. -/
theorem withField_withField {first : Character} {a : Action}
    (h : c.withField a.name v = .ok first) (w : Value) :
    first.withField a.name w = c.withField a.name w := by
  obtain ⟨r, -, rfl⟩ := eq_rated_of_withField h
  rw [withField_action, withField_action]
  cases readRating w with
  | ok s => simp only [rated_rated]
  | error d => rfl

/-- Changes of two ratings that succeed come to the same in either order. -/
theorem withField_comm {w : Value} {first second : Character} {a b : Action} (hne : a ≠ b)
    (ha : c.withField a.name v = .ok first) (hb : c.withField b.name w = .ok second) :
    ∃ last, first.withField b.name w = .ok last ∧ second.withField a.name v = .ok last := by
  obtain ⟨r, hr, rfl⟩ := eq_rated_of_withField ha
  obtain ⟨s, hs, rfl⟩ := eq_rated_of_withField hb
  refine ⟨(c.rated a r).rated b s, ?_, ?_⟩
  · rw [withField_action, hs]
  · rw [withField_action, hr, rated_comm c hne]

/-- **Changing a field is a checked update.**  A rating is set to what the value converts to, or one
issue names the action; nothing else of the record is changed but the one attribute that the action
belongs to.  Half of the key is set to texts only, and a name that is no field changes nothing.
Setting what is there already changes nothing, the later of two changes of a rating counts, and
changes of two ratings come to the same in either order.  The ratings of the attributes are never
above four, and sum to the number of positive actions. -/
theorem withField_updates (c : Character) :
    (∀ a v, c.SetsRating a v) ∧
    (∀ a : Action, ∃! t : Attribute, a ∈ t.actions) ∧
    (∀ name v, name ∉ fieldNames → c.withField name v = .ok c) ∧
    (∀ v changed, c.withField channelName v = .ok changed ↔
      ∃ s, v = .text s ∧ changed = { c with channel := s }) ∧
    (∀ v changed, c.withField userName v = .ok changed ↔
      ∃ s, v = .text s ∧ changed = { c with user := s }) ∧
    (∀ name v, c.field? name = some v → c.withField name v = .ok c) ∧
    (∀ (a : Action) v w first, c.withField a.name v = .ok first →
      first.withField a.name w = c.withField a.name w) ∧
    (∀ (a b : Action) v w first second, a ≠ b → c.withField a.name v = .ok first →
      c.withField b.name w = .ok second →
      ∃ last, first.withField b.name w = .ok last ∧ second.withField a.name v = .ok last) ∧
    (∀ t, c.attributeRating t ≤ 4) ∧
    c.attributeRating .insight + c.attributeRating .prowess + c.attributeRating .resolve =
      Action.all.countP fun a => decide (0 < (c.rating a).toInt) := by
  refine ⟨c.setsRating, existsUnique_attribute, fun name v => c.withField_of_notMem v, ?_, ?_,
    fun name v => withField_of_field?, fun a v w first h => withField_withField h w,
    fun a b v w first second => withField_comm, c.attributeRating_le, c.sum_attributeRating⟩
  · intro v changed
    rw [withField_channel]
    cases v <;> simp [Field.text, eq_comm]
  · intro v changed
    rw [withField_user]
    cases v <;> simp [Field.text, eq_comm]

/-- A text and a flag that convert to ratings, a name that is no field, and a rating out of
range. -/
theorem withField_updates_of_two :
    ∃ first second last : Character,
      (blank "bridge" "ada").withField Action.hack.name (.text " 3 ") = .ok first ∧
      (blank "bridge" "ada").withField Action.sway.name (.flag true) = .ok second ∧
      first.withField Action.sway.name (.flag true) = .ok last ∧
      second.withField Action.hack.name (.text " 3 ") = .ok last ∧
      first.withField Action.hack.name (.int 5) =
        (blank "bridge" "ada").withField Action.hack.name (.int 5) ∧
      (blank "bridge" "ada").withField "luck" (.int 9) = .ok (blank "bridge" "ada") ∧
      (blank "bridge" "ada").withField userName (.text "ada") = .ok (blank "bridge" "ada") := by
  obtain ⟨hsets, -, hother, -, -, hsame, hlater, hcomm, -, -⟩ :=
    withField_updates (blank "bridge" "ada")
  obtain ⟨first, hfirst⟩ := (hsets .hack (.text " 3 ")).succeeds.2
    ⟨3, by decide +kernel, by decide, by decide⟩
  obtain ⟨second, hsecond⟩ := (hsets .sway (.flag true)).succeeds.2 ⟨1, rfl, by decide, by decide⟩
  obtain ⟨last, hlast, hlast'⟩ := hcomm .hack .sway _ _ first second (by decide) hfirst hsecond
  exact ⟨first, second, last, hfirst, hsecond, hlast, hlast', hlater .hack _ _ first hfirst,
    hother _ _ (by decide), hsame userName _ get?_user⟩

end Character

end CharacterLedger
