import Mathlib.Data.List.Nodup
import CharacterLedger.Settings

/-!
# Variables and merged fields

What is needed about the sources of settings before any setting is read: a field of merged objects
is that of the uppermost object that has it, and in the usual way a variable is found under its name
in any case.  Of variables with one name the last counts.

* `Fields.get?_onTopOf` — the fields of merged objects;
* `Search.ofFields_eq_plain` — which arguments leave the usual way alone;
* `Group.namedFields_eq_self` — which objects are taken as they are;
* `named?` — the variable with a name in any case;
* `Sources.inEnvironment?_plain`, `Sources.inFile?_plain` — the usual way looks for that one.
-/

namespace CharacterLedger

/-! ### Merged fields -/

namespace Fields

theorem get?_append (upper lower : Fields) (name : String) :
    Fields.get? (upper ++ lower) name = (upper.get? name).or (lower.get? name) :=
  List.lookup_append

/-- A field that is left in by a test on names is found as before. -/
theorem get?_filter (fields : Fields) (keeps : String → Bool) (name : String)
    (hkeeps : keeps name = true) :
    Fields.get? (fields.filter fun p => keeps p.1) name = fields.get? name := by
  induction fields with
  | nil => rfl
  | cons p rest ih =>
    obtain ⟨key, v⟩ := p
    unfold get? at ih ⊢
    by_cases hname : name = key
    · subst hname
      simp [hkeeps]
    · have hne : (name == key) = false := by simpa using hname
      cases hkey : keeps key with
      | true => simpa [hkey, List.lookup_cons, hne] using ih
      | false => simpa [hkey, List.lookup_cons, hne] using ih

/-- A field of merged fields is that of the upper ones, or else that of the lower ones. -/
theorem get?_onTopOf (upper lower : Fields) (name : String) :
    Fields.get? (upper.onTopOf lower) name = (upper.get? name).or (lower.get? name) := by
  rw [onTopOf, get?_append]
  cases hupper : upper.get? name with
  | some v => rfl
  | none =>
    rw [Option.none_or, Option.none_or]
    exact get?_filter lower (fun n => (upper.get? n).isNone) name (by simp [hupper])

/-- A field with a new name is put at the end. -/
theorem put_of_notMem (fields : Fields) {name : String} {v : Value}
    (h : name ∉ fields.map Prod.fst) : put fields name v = fields ++ [(name, v)] := by
  induction fields with
  | nil => rfl
  | cons p rest ih =>
    rw [List.map_cons, List.mem_cons, not_or] at h
    rw [put, if_neg (Ne.symm h.1), ih h.2]
    rfl

/-- Fields that are put one after the other, each under a new name, stay as they are. -/
theorem foldl_put (fields before : Fields)
    (hdistinct : ((before ++ fields).map Prod.fst).Nodup) :
    fields.foldl (fun found p => put found p.1 p.2) before = before ++ fields := by
  induction fields generalizing before with
  | nil => simp
  | cons p rest ih =>
    have hnew : put before p.1 p.2 = before ++ [p] := by
      refine put_of_notMem before ?_
      simp only [List.map_append, List.map_cons, List.nodup_append] at hdistinct
      exact fun hmem => hdistinct.2.2 _ hmem _ (List.mem_cons_self ..) rfl
    have hassoc : before ++ p :: rest = (before ++ [p]) ++ rest := by simp
    rw [List.foldl_cons, hnew, hassoc]
    exact ih (before ++ [p]) (by rwa [← hassoc])

/-- Fields with different names are a list of pairs without repetitions. -/
theorem ofList_eq_self {fields : Fields} (hdistinct : (fields.map Prod.fst).Nodup) :
    ofList fields = fields :=
  foldl_put fields [] hdistinct

end Fields

namespace Settings

/-! ### How variables are looked for -/

/-- The arguments that change how variables are looked for. -/
def Search.askedBy : List String :=
  ["_env_prefix", "_case_sensitive", "_env_ignore_empty", "_env_parse_none_str", "_env_file"]

/-- Only those arguments change how variables are looked for. -/
theorem Search.ofFields_congr (start : String) {given other : Fields}
    (h : ∀ name ∈ Search.askedBy, given.get? name = other.get? name) :
    Search.ofFields start given = Search.ofFields start other := by
  simp only [Search.askedBy, List.forall_mem_cons] at h
  obtain ⟨hstart, hcase, hempty, hnull, hfile, -⟩ := h
  simp only [Search.ofFields, hstart, hcase, hempty, hnull, hfile]

/-- Without them variables are looked for in the usual way. -/
theorem Search.ofFields_eq_plain (start : String) {given : Fields}
    (h : ∀ name ∈ Search.askedBy, given.get? name = none) :
    Search.ofFields start given = Search.plain start :=
  show _ = Search.ofFields start [] from Search.ofFields_congr start h

/-- The fields of an object whose names are in lower case are taken as they are. -/
theorem Group.namedFields_eq_self (g : Group) (o : Search) {fields : Fields}
    (hlower : ∀ p ∈ fields, variableName p.1 = p.1) (hdistinct : (fields.map Prod.fst).Nodup) :
    g.namedFields o fields = fields := by
  have hnames : (fields.map fun p => (g.fieldName p.1, p.2)) = fields := by
    conv_rhs => rw [← List.map_id fields]
    refine List.map_congr_left fun p hp => ?_
    rw [Group.fieldName, hlower p hp, ite_self]
    rfl
  rw [namedFields, hnames, Fields.ofList_eq_self hdistinct, ite_self]

/-! ### Variables by their names -/

section Named

variable {α : Type}

/-- The value of the last variable with this name in any case. -/
def named? (pairs : List (String × α)) (name : String) : Option α :=
  (pairs.reverse.find? fun p => variableName p.1 == variableName name).map Prod.snd

/-- Names count as the same in any case. -/
theorem named?_congr (pairs : List (String × α)) {name other : String}
    (h : variableName name = variableName other) : named? pairs name = named? pairs other := by
  rw [named?, named?, h]

end Named

@[simp] theorem Search.isFor_plain (start field name : String) (value : Option String) :
    (Search.plain start).isFor field name value =
      (variableName name == variableName (start ++ field)) := by
  simp [isFor, compared, plain]

@[simp] theorem Search.valueOf_plain (start : String) :
    (Search.plain start).valueOf = Value.text := by
  funext text
  simp [valueOf, plain]

/-- In the usual way the environment is searched for a name in any case. -/
theorem Sources.inEnvironment?_plain (s : Sources) (start field : String) :
    s.inEnvironment? (.plain start) field =
      (named? s.environment (start ++ field)).map .text := by
  simp only [inEnvironment?, named?, Search.isFor_plain, Search.valueOf_plain, Option.map_map]
  rfl

/-- In the usual way the file is searched for a name in any case. -/
theorem Sources.inFile?_plain (s : Sources) (start field : String) :
    s.inFile? (.plain start) field =
      (named? s.file (start ++ field)).bind fun value => value.map .text := by
  simp only [inFile?, named?, Search.isFor_plain, Search.valueOf_plain, Option.bind_map]
  rfl

end Settings

end CharacterLedger
