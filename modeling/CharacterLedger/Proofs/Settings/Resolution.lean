import CharacterLedger.Proofs.Settings.Variables

/-!
# Which source decides a setting

Every setting is looked for in several places, and the first that has it decides.  A flag or a text
of its own is looked for directly, in the environment and in the file.  A member of a group is
looked for in the object that is given directly, in the objects of the group's variable in the
environment and in the file, and then under its own name in both.  Groups are read as wholes and
merged before their members are looked at, so that this order is a fact about the merge.

* `Setting.sources` — what the sources say of a setting, in order;
* `Setting.outcome` — what comes of the first that has it;
* `read_eq_assemble` — reading, with the groups merged;
* `read_follows_sources` — reading succeeds exactly when what decides each setting is right, gives
  what was decided, and otherwise reports only what decides.

What names the variables is itself taken from the arguments (`Search.ofFields`); arguments that do
not ask for anything there leave the usual names (`Search.ofFields_eq_plain`).
-/

namespace CharacterLedger

open CharacterLedger.Number

namespace Settings

/-! ### Groups as objects -/

/-- The fields that a group is given in a variable as JSON.  Null gives none, and what is neither
null nor an object is no group. -/
def Group.inVariable? (g : Group) (o : Search) : Option Value → Option Fields
  | none => some []
  | some (.text json) =>
    match Value.ofJson? json with
    | some .null => some []
    | some (.object fields) => some (g.namedFields o fields)
    | _ => none
  | some _ => none

/-- An object in a variable gives its fields as they are when their names are in lower case. -/
theorem Group.inVariable?_of_object (g : Group) (o : Search) {json : String} {fields : Fields}
    (hjson : Value.ofJson? json = some (.object fields))
    (hlower : ∀ p ∈ fields, variableName p.1 = p.1) (hdistinct : (fields.map Prod.fst).Nodup) :
    g.inVariable? o (some (.text json)) = some fields := by
  simp only [inVariable?, hjson]
  rw [g.namedFields_eq_self o hlower hdistinct]

/-- The fields that a group is given directly. -/
def Group.direct? (g : Group) (given : Fields) : Option Fields :=
  match given.get? g.name with
  | none => some []
  | some (.object fields) => some fields
  | some _ => none

/-- The objects that a group is given as: directly, in the environment and in the file. -/
structure Objects where
  direct : Fields
  inEnvironment : Fields
  inFile : Fields

/-- All fields of the objects. -/
def Objects.merged (objects : Objects) : Fields :=
  objects.direct ++ objects.inEnvironment ++ objects.inFile

/-- A group is given as objects wherever it is given, and as these. -/
structure Group.IsGivenAs (g : Group) (s : Sources) (given : Fields) (objects : Objects) :
    Prop where
  direct : g.direct? given = some objects.direct
  inEnvironment : g.inVariable? (.ofFields "" given)
    (s.inEnvironment? (.ofFields "" given) g.name) = some objects.inEnvironment
  inFile : g.inVariable? (.ofFields "" given)
    (s.inFile? (.ofFields "" given) g.name) = some objects.inFile

/-- How a group is given when the arguments leave the usual names. -/
theorem Group.IsGivenAs.of_plain {g : Group} {s : Sources} {given : Fields} {objects : Objects}
    (hplain : ∀ name ∈ Search.askedBy, given.get? name = none)
    (hdirect : g.direct? given = some objects.direct)
    (hinEnvironment : g.inVariable? (.plain "") (s.inEnvironment? (.plain "") g.name) =
      some objects.inEnvironment)
    (hinFile : g.inVariable? (.plain "") (s.inFile? (.plain "") g.name) = some objects.inFile) :
    g.IsGivenAs s given objects := by
  have hsearch := Search.ofFields_eq_plain "" hplain
  exact ⟨hdirect, by rw [hsearch, hinEnvironment], by rw [hsearch, hinFile]⟩

/-! ### Settings and their sources -/

/-- The settings one by one. -/
inductive Setting where
  | debug
  | logLevel
  | path
  | poolSize
  | poolTimeout
  | seed
deriving DecidableEq, Repr

namespace Setting

/-- What a setting holds. -/
abbrev Holds : Setting → Type
  | debug => Bool
  | logLevel | path => String
  | poolSize => Int
  | poolTimeout => Binary64
  | seed => Option Int

/-- The name of a setting. -/
def name : Setting → String
  | debug => "debug"
  | logLevel => "log_level"
  | path => "path"
  | poolSize => "pool_size"
  | poolTimeout => "pool_timeout"
  | seed => "seed"

/-- What a setting holds if no source has it. -/
def default : (x : Setting) → x.Holds
  | debug => false
  | logLevel => "INFO"
  | path => defaultPath
  | poolSize => (5 : Int)
  | poolTimeout => Binary64.ofInt 30
  | seed => none

/-- How the value of a setting is read. -/
def reader : (x : Setting) → Value → Except Defect x.Holds
  | debug => Field.flag
  | logLevel | path => Field.text
  | poolSize => Field.integerAtLeast 1
  | poolTimeout => Field.positiveReal
  | seed => Field.optionalInteger

/-- A setting among the settings. -/
def of (r : Settings) : (x : Setting) → x.Holds
  | debug => r.debug
  | logLevel => r.logLevel
  | path => r.database.path
  | poolSize => r.database.poolSize
  | poolTimeout => r.database.poolTimeout
  | seed => r.seed

end Setting

/-- What the sources say of a setting of its own, the first to count first. -/
def Sources.ofSetting (s : Sources) (given : Fields) (name : String) : List (Option Value) :=
  [given.get? name, s.inEnvironment? (.ofFields "" given) name,
    s.inFile? (.ofFields "" given) name]

/-- What the sources say of a member of a group, the first to count first: the objects of the group
count before the member's own variables. -/
def Sources.ofMember (s : Sources) (g : Group) (objects : Objects) (name : String) :
    List (Option Value) :=
  [objects.direct.get? name, objects.inEnvironment.get? name, objects.inFile.get? name,
    s.inEnvironment? (.ofFields g.start objects.merged) name,
    s.inFile? (.ofFields g.start objects.merged) name]

/-- What the sources say of a setting, the first to count first. -/
def Setting.sources (s : Sources) (given : Fields) (db dice : Objects) (x : Setting) :
    List (Option Value) :=
  match x with
  | debug | logLevel => s.ofSetting given x.name
  | path | poolSize | poolTimeout => s.ofMember databaseGroup db x.name
  | seed => s.ofMember diceGroup dice x.name

/-- The first value that a source has. -/
def deciding (sources : List (Option Value)) : Option Value := sources.findSome? id

/-- What comes of a setting: the value that decides is read, and without one the default holds. -/
def Setting.outcome (s : Sources) (given : Fields) (db dice : Objects) (x : Setting) :
    Except Defect x.Holds :=
  readOr x.default x.reader (deciding (x.sources s given db dice))

@[simp] theorem deciding_cons (v : Option Value) (sources : List (Option Value)) :
    deciding (v :: sources) = v.or (deciding sources) := by
  cases v <;> rfl

theorem deciding_ofSetting (s : Sources) (given : Fields) (name : String) :
    deciding (s.ofSetting given name) =
      (given.get? name).or (s.find? (.ofFields "" given) name) := by
  rw [Sources.ofSetting, deciding_cons, deciding_cons, deciding_cons,
    show deciding [] = none from rfl, Option.or_none, Sources.find?]

theorem deciding_ofMember (s : Sources) (g : Group) (objects : Objects) (name : String) :
    deciding (s.ofMember g objects name) = g.find? s objects.merged name := by
  rw [Sources.ofMember, deciding_cons, deciding_cons, deciding_cons, deciding_cons, deciding_cons,
    show deciding [] = none from rfl, Option.or_none, Group.find?, Sources.find?,
    Objects.merged, Fields.get?_append, Fields.get?_append, Option.or_assoc, Option.or_assoc]

section Outcomes

variable (s : Sources) (given : Fields) (db dice : Objects)

theorem Setting.outcome_debug :
    Setting.debug.outcome s given db dice =
      readOr false Field.flag ((given.get? "debug").or (s.find? (.ofFields "" given) "debug")) := by
  rw [← deciding_ofSetting]
  rfl

theorem Setting.outcome_logLevel :
    Setting.logLevel.outcome s given db dice =
      readOr "INFO" Field.text
        ((given.get? "log_level").or (s.find? (.ofFields "" given) "log_level")) := by
  rw [← deciding_ofSetting]
  rfl

theorem Setting.outcome_path :
    Setting.path.outcome s given db dice =
      readOr defaultPath Field.text (databaseGroup.find? s db.merged "path") := by
  rw [← deciding_ofMember]
  rfl

theorem Setting.outcome_poolSize :
    Setting.poolSize.outcome s given db dice =
      readOr 5 (Field.integerAtLeast 1) (databaseGroup.find? s db.merged "pool_size") := by
  rw [← deciding_ofMember]
  rfl

theorem Setting.outcome_poolTimeout :
    Setting.poolTimeout.outcome s given db dice =
      readOr (.ofInt 30) Field.positiveReal
        (databaseGroup.find? s db.merged "pool_timeout") := by
  rw [← deciding_ofMember]
  rfl

theorem Setting.outcome_seed :
    Setting.seed.outcome s given db dice =
      readOr none Field.optionalInteger (diceGroup.find? s dice.merged "seed") := by
  rw [← deciding_ofMember]
  rfl

end Outcomes

/-! ### Merging a group -/

/-- What is given of a group, apart from whether it is nothing or an empty object. -/
def Gives (given : Option Value) (fields : Fields) : Prop :=
  given = some (.object fields) ∨ given = none ∧ fields = []

theorem Group.gives_of_direct? {g : Group} {given fields : Fields}
    (h : g.direct? given = some fields) : Gives (given.get? g.name) fields := by
  unfold Group.direct? at h
  split at h
  · next hnone => exact .inr ⟨hnone, (Option.some.inj h).symm⟩
  · next hsome =>
    rw [hsome, Option.some.inj h]
    exact .inl rfl
  · cases h

theorem Group.gives_of_inVariable? {g : Group} {o : Search} {v : Option Value} {fields : Fields}
    (source : String) (h : g.inVariable? o v = some fields) :
    ∃ given, g.ofVariable o source v = .ok given ∧ Gives given fields := by
  unfold Group.inVariable? at h
  split at h
  · exact ⟨none, rfl, .inr ⟨rfl, (Option.some.inj h).symm⟩⟩
  · split at h
    · next hjson =>
      exact ⟨none, by simp [Group.ofVariable, hjson], .inr ⟨rfl, (Option.some.inj h).symm⟩⟩
    · next fields' hjson =>
      refine ⟨some (.object (g.namedFields o fields')), by simp [Group.ofVariable, hjson], .inl ?_⟩
      rw [Option.some.inj h]
    · cases h
  · cases h

/-- A group laid over another has the fields of both, its own before the other's. -/
theorem Gives.layer {upper lower : Option Value} {fields others : Fields} (hu : Gives upper fields)
    (hl : Gives lower others) :
    ∃ both, Gives (layer upper lower) both ∧
      ∀ name, both.get? name = (fields.get? name).or (others.get? name) := by
  obtain rfl | ⟨rfl, rfl⟩ := hu
  · obtain rfl | ⟨rfl, rfl⟩ := hl
    · exact ⟨fields.onTopOf others, .inl rfl, fields.get?_onTopOf others⟩
    · refine ⟨fields, .inl rfl, fun name => ?_⟩
      rw [show Fields.get? [] name = none from rfl, Option.or_none]
  · exact ⟨others, hl, fun _ => rfl⟩

/-- Three layers of a group have the fields of all three, the uppermost first. -/
theorem gives_layers {direct inEnvironment inFile : Option Value} {objects : Objects}
    (hd : Gives direct objects.direct) (he : Gives inEnvironment objects.inEnvironment)
    (hf : Gives inFile objects.inFile) :
    ∃ fields, Gives (layers [direct, inEnvironment, inFile]) fields ∧
      ∀ name, fields.get? name = objects.merged.get? name := by
  obtain ⟨upper, hupper, hgetUpper⟩ := hd.layer he
  obtain ⟨fields, hfields, hget⟩ := hupper.layer hf
  refine ⟨fields, hfields, fun name => ?_⟩
  rw [hget, hgetUpper, Objects.merged, Fields.get?_append, Fields.get?_append]

/-! ### Reading a group -/

/-- A member of a group depends on what is found under each name only. -/
theorem Group.find?_congr (g : Group) (s : Sources) {given other : Fields}
    (h : ∀ name, given.get? name = other.get? name) (field : String) :
    g.find? s given field = g.find? s other field := by
  unfold Group.find?
  rw [h field, Search.ofFields_congr g.start fun name _ => h name]

theorem readDatabase_congr (s : Sources) {given other : Fields}
    (h : ∀ name, given.get? name = other.get? name) :
    readDatabase s given = readDatabase s other := by
  unfold readDatabase
  simp only [databaseGroup.find?_congr s h]

theorem readSeed_congr (s : Sources) {given other : Fields}
    (h : ∀ name, given.get? name = other.get? name) : readSeed s given = readSeed s other := by
  unfold readSeed
  rw [diceGroup.find?_congr s h]

/-- A group that was read is the first thing that was read, or one among others. -/
def Part.IsOf {α : Type} (p : Part α) (r : Except (List Issue) α) : Prop :=
  p = .ahead r ∨ p = .within r

/-- A group given as an object, or not at all, is read from its fields. -/
theorem Gives.readGroup {α : Type} {given : Option Value} {fields : Fields}
    (h : Gives given fields) (g : Group) (read : Fields → Except (List Issue) α) :
    (readGroup g read given).IsOf (read fields) := by
  obtain rfl | ⟨rfl, rfl⟩ := h
  · exact .inr rfl
  · exact .inl rfl

/-- Reading the settings comes to putting them together from two groups, each of which is read from
all the fields of its objects. -/
theorem read_eq_assemble {s : Sources} {given : Fields} {db dice : Objects}
    (hdb : databaseGroup.IsGivenAs s given db) (hdice : diceGroup.IsGivenAs s given dice) :
    ∃ database seed,
      database.IsOf (readDatabase s db.merged) ∧ seed.IsOf (readSeed s dice.merged) ∧
        read s given =
          assemble (Setting.debug.outcome s given db dice) (Setting.logLevel.outcome s given db dice)
            database seed := by
  obtain ⟨dbHere, hdbHere, hgivesDbHere⟩ :=
    Group.gives_of_inVariable? "EnvSettingsSource" hdb.inEnvironment
  obtain ⟨diceHere, hdiceHere, hgivesDiceHere⟩ :=
    Group.gives_of_inVariable? "EnvSettingsSource" hdice.inEnvironment
  obtain ⟨dbInFile, hdbInFile, hgivesDbInFile⟩ :=
    Group.gives_of_inVariable? "DotEnvSettingsSource" hdb.inFile
  obtain ⟨diceInFile, hdiceInFile, hgivesDiceInFile⟩ :=
    Group.gives_of_inVariable? "DotEnvSettingsSource" hdice.inFile
  obtain ⟨dbFields, hdbFields, hdbGet⟩ :=
    gives_layers (Group.gives_of_direct? hdb.direct) hgivesDbHere hgivesDbInFile
  obtain ⟨diceFields, hdiceFields, hdiceGet⟩ :=
    gives_layers (Group.gives_of_direct? hdice.direct) hgivesDiceHere hgivesDiceInFile
  refine ⟨readGroup databaseGroup (readDatabase s)
      (layers [given.get? databaseGroup.name, dbHere, dbInFile]),
    readGroup diceGroup (readSeed s) (layers [given.get? diceGroup.name, diceHere, diceInFile]),
    ?_, ?_, ?_⟩
  · rw [← readDatabase_congr s hdbGet]
    exact hdbFields.readGroup databaseGroup (readDatabase s)
  · rw [← readSeed_congr s hdiceGet]
    exact hdiceFields.readGroup diceGroup (readSeed s)
  · have henvironment : readGroups (.ofFields "" given) "EnvSettingsSource"
        (s.inEnvironment? (.ofFields "" given)) = .ok (dbHere, diceHere) := by
      rw [readGroups, hdbHere, hdiceHere]
      rfl
    have hfile : readGroups (.ofFields "" given) "DotEnvSettingsSource"
        (s.inFile? (.ofFields "" given)) = .ok (dbInFile, diceInFile) := by
      rw [readGroups, hdbInFile, hdiceInFile]
      rfl
    rw [read, henvironment, hfile, Setting.outcome_debug, Setting.outcome_logLevel]

/-- The settings of the database can be read when all of them can. -/
theorem readDatabase_eq_ok_iff (s : Sources) (given : Fields) (db dice : Objects)
    (d : DatabaseSettings) :
    readDatabase s db.merged = .ok d ↔
      Setting.path.outcome s given db dice = .ok d.path ∧
        Setting.poolSize.outcome s given db dice = .ok d.poolSize ∧
          Setting.poolTimeout.outcome s given db dice = .ok d.poolTimeout := by
  rw [Setting.outcome_path, Setting.outcome_poolSize, Setting.outcome_poolTimeout]
  unfold readDatabase
  dsimp only
  constructor
  · intro h
    split at h
    · next hpath hsize htimeout =>
      cases h
      exact ⟨hpath, hsize, htimeout⟩
    · cases h
  · rintro ⟨hpath, hsize, htimeout⟩
    rw [hpath, hsize, htimeout]

theorem readSeed_eq_ok_iff (s : Sources) (given : Fields) (db dice : Objects)
    (seed : Option Int) :
    readSeed s dice.merged = .ok seed ↔ Setting.seed.outcome s given db dice = .ok seed := by
  rw [Setting.outcome_seed]
  unfold readSeed
  split
  · next hseed =>
    rw [hseed, Except.ok.injEq, Except.ok.injEq]
  · next hseed => simp [hseed]

/-- Settings can be put together when all their parts could be read. -/
theorem assemble_eq_ok_iff {debug : Except Defect Bool} {logLevel : Except Defect String}
    {database : Part DatabaseSettings} {seed : Part (Option Int)}
    {d : Except (List Issue) DatabaseSettings} {n : Except (List Issue) (Option Int)}
    (hdatabase : database.IsOf d) (hseed : seed.IsOf n) (r : Settings) :
    assemble debug logLevel database seed = .ok r ↔
      debug = .ok r.debug ∧ logLevel = .ok r.logLevel ∧ d = .ok r.database ∧ n = .ok r.seed := by
  obtain ⟨a, b, c, e⟩ := r
  obtain rfl | rfl := hdatabase <;> obtain rfl | rfl := hseed <;> rcases d with d | d <;>
    rcases n with n | n <;> rcases debug with debug | debug <;>
      rcases logLevel with logLevel | logLevel <;> simp [assemble]

/-! ### What is reported -/

/-- The issues of a group as they are reported: under its own title if it is read ahead, else among
those of the settings. -/
def Part.reported {α : Type} (g : Group) : Part α → List Issue
  | ahead (.error issues) => issues
  | within (.error issues) => issues.map (Issue.inside g.name)
  | _ => []

theorem Part.issues_subset_reported {α : Type} (g : Group) (p : Part α) :
    p.issues g ⊆ p.reported g := by
  unfold Part.issues Part.reported
  rcases p with (issues | v) | (issues | v) <;> simp

/-- What is reported of settings that cannot be put together are issues of their parts. -/
theorem issues_of_assemble {debug : Except Defect Bool} {logLevel : Except Defect String}
    {database : Part DatabaseSettings} {seed : Part (Option Int)} {e : Error}
    (h : assemble debug logLevel database seed = .error e) :
    ∃ form issues, e = .invalid form issues ∧
      issues ⊆ issueOf "debug" debug ++ issueOf "log_level" logLevel ++
        database.reported databaseGroup ++ seed.reported diceGroup := by
  unfold assemble at h
  split at h
  · next issues =>
    cases h
    refine ⟨_, issues, rfl, ?_⟩
    intro i hi
    simp [Part.reported, hi]
  · next issues _ =>
    cases h
    refine ⟨_, issues, rfl, ?_⟩
    intro i hi
    simp [Part.reported, hi]
  case h_7 =>
    cases h
    refine ⟨_, _, rfl, ?_⟩
    intro i hi
    simp only [List.mem_append] at hi ⊢
    obtain (howner | hdatabase) | hseed := hi
    · exact .inl (.inl howner)
    · exact .inl (.inr (Part.issues_subset_reported _ _ hdatabase))
    · exact .inr (Part.issues_subset_reported _ _ hseed)
  all_goals
    split at h
    · cases h
    · cases h
      refine ⟨_, _, rfl, ?_⟩
      rw [List.append_assoc]
      exact List.subset_append_left _ _

/-- The setting that an issue is about: the path of the issue ends in its name, and the defect is
that of the value that decides. -/
def Setting.IsBehind (s : Sources) (given : Fields) (db dice : Objects) (x : Setting)
    (i : Issue) : Prop :=
  i.path.getLast? = some x.name ∧ x.outcome s given db dice = .error i.defect

section Reports

variable {s : Sources} {given : Fields} {db dice : Objects}

theorem Setting.isBehind_of_mem_issueOf {x : Setting} {i : Issue}
    (h : i ∈ issueOf x.name (x.outcome s given db dice)) : x.IsBehind s given db dice i := by
  unfold issueOf at h
  split at h
  · cases h
  · next hdefect =>
    rw [List.mem_singleton] at h
    subst h
    exact ⟨rfl, hdefect⟩

theorem Setting.IsBehind.inside {x : Setting} {i : Issue} (h : x.IsBehind s given db dice i)
    (name : String) : x.IsBehind s given db dice (i.inside name) := by
  refine ⟨?_, h.2⟩
  rw [Issue.inside_path, List.getLast?_cons, h.1]
  rfl

theorem exists_isBehind_of_readDatabase {issues : List Issue}
    (h : readDatabase s db.merged = .error issues) :
    ∀ i ∈ issues, ∃ x : Setting, x.IsBehind s given db dice i := by
  intro i hi
  unfold readDatabase at h
  dsimp only at h
  split at h
  · cases h
  · cases h
    rw [← Setting.outcome_path s given db dice, ← Setting.outcome_poolSize s given db dice,
      ← Setting.outcome_poolTimeout s given db dice] at hi
    simp only [List.mem_append] at hi
    obtain (hi | hi) | hi := hi
    · exact ⟨.path, Setting.isBehind_of_mem_issueOf hi⟩
    · exact ⟨.poolSize, Setting.isBehind_of_mem_issueOf hi⟩
    · exact ⟨.poolTimeout, Setting.isBehind_of_mem_issueOf hi⟩

theorem exists_isBehind_of_readSeed {issues : List Issue}
    (h : readSeed s dice.merged = .error issues) :
    ∀ i ∈ issues, ∃ x : Setting, x.IsBehind s given db dice i := by
  intro i hi
  unfold readSeed at h
  rw [← Setting.outcome_seed s given db dice] at h
  split at h
  · cases h
  · next d hd =>
    cases h
    refine ⟨.seed, Setting.isBehind_of_mem_issueOf ?_⟩
    rw [hd]
    exact hi

/-- What is reported of a group are issues of what decides its members. -/
theorem exists_isBehind_of_reported {α : Type} {g : Group} {p : Part α}
    {r : Except (List Issue) α} (hpart : p.IsOf r)
    (hissues : ∀ issues, r = .error issues →
      ∀ i ∈ issues, ∃ x : Setting, x.IsBehind s given db dice i) :
    ∀ i ∈ p.reported g, ∃ x : Setting, x.IsBehind s given db dice i := by
  intro i hi
  cases r with
  | ok v => obtain rfl | rfl := hpart <;> cases hi
  | error issues =>
    obtain rfl | rfl := hpart
    · exact hissues issues rfl i hi
    · obtain ⟨j, hj, rfl⟩ := List.mem_map.mp hi
      obtain ⟨x, hx⟩ := hissues issues rfl j hj
      exact ⟨x, hx.inside g.name⟩

end Reports

theorem le_of_outcome_poolSize {s : Sources} {given : Fields} {db dice : Objects} {size : Int}
    (h : Setting.poolSize.outcome s given db dice = .ok size) : 1 ≤ size := by
  rw [Setting.outcome_poolSize] at h
  unfold readOr at h
  split at h
  · cases h
    decide
  · exact Field.le_of_integerAtLeast h

theorem isPositive_of_outcome_poolTimeout {s : Sources} {given : Fields} {db dice : Objects}
    {timeout : Binary64} (h : Setting.poolTimeout.outcome s given db dice = .ok timeout) :
    timeout.isPositive = true := by
  rw [Setting.outcome_poolTimeout] at h
  unfold readOr at h
  split at h
  · cases h
    decide
  · exact Field.isPositive_of_positiveReal h

/-- The settings can be read, and are these, when what decides each of them can be read and is
this. -/
theorem read_eq_ok_iff {s : Sources} {given : Fields} {db dice : Objects}
    (hdb : databaseGroup.IsGivenAs s given db) (hdice : diceGroup.IsGivenAs s given dice)
    (r : Settings) :
    read s given = .ok r ↔ ∀ x : Setting, x.outcome s given db dice = .ok (x.of r) := by
  obtain ⟨database, seed, hdatabase, hseed, hread⟩ := read_eq_assemble hdb hdice
  rw [hread, assemble_eq_ok_iff hdatabase hseed, readDatabase_eq_ok_iff s given db dice,
    readSeed_eq_ok_iff s given db dice]
  constructor
  · rintro ⟨hdebug, hlevel, ⟨hpath, hsize, htimeout⟩, hseed⟩ x
    cases x with
    | debug => exact hdebug
    | logLevel => exact hlevel
    | path => exact hpath
    | poolSize => exact hsize
    | poolTimeout => exact htimeout
    | seed => exact hseed
  · intro h
    exact ⟨h .debug, h .logLevel, ⟨h .path, h .poolSize, h .poolTimeout⟩, h .seed⟩

/-- **The first source decides.**  Let the groups be given as objects wherever they are given.  Then
the settings can be read exactly when what decides each of them can be read, and they are what was
decided; what other sources say makes no difference.  Settings that were read ask for a connection
at least and for a timeout above zero.  A failure reports nothing but defects of values that
decide. -/
theorem read_follows_sources {environment : List (String × String)} {file : Option String}
    {given : Fields} {db dice : Objects}
    (hdb : databaseGroup.IsGivenAs (.of environment file) given db)
    (hdice : diceGroup.IsGivenAs (.of environment file) given dice) :
    ((∃ r, read (.of environment file) given = .ok r) ↔
      ∀ x : Setting, ∃ v, x.outcome (.of environment file) given db dice = .ok v) ∧
    (∀ r, read (.of environment file) given = .ok r ↔
      ∀ x : Setting, x.outcome (.of environment file) given db dice = .ok (x.of r)) ∧
    (∀ r, read (.of environment file) given = .ok r →
      1 ≤ r.database.poolSize ∧ r.database.poolTimeout.isPositive = true ∧
        r.database.poolTimeout ≠ .nan) ∧
    ∀ e, read (.of environment file) given = .error e →
      ∃ form issues, e = .invalid form issues ∧
        ∀ i ∈ issues, ∃ x : Setting, x.IsBehind (.of environment file) given db dice i := by
  have hok := read_eq_ok_iff hdb hdice
  refine ⟨⟨?_, ?_⟩, hok, ?_, ?_⟩
  · rintro ⟨r, hr⟩ x
    exact ⟨x.of r, (hok r).mp hr x⟩
  · intro h
    obtain ⟨debug, hdebug⟩ := h .debug
    obtain ⟨level, hlevel⟩ := h .logLevel
    obtain ⟨path, hpath⟩ := h .path
    obtain ⟨size, hsize⟩ := h .poolSize
    obtain ⟨timeout, htimeout⟩ := h .poolTimeout
    obtain ⟨seed, hseed⟩ := h .seed
    refine ⟨⟨debug, level, ⟨path, size, timeout⟩, seed⟩, (hok _).mpr fun x => ?_⟩
    cases x <;> assumption
  · intro r hr
    have houtcomes := (hok r).mp hr
    have hpositive := isPositive_of_outcome_poolTimeout (houtcomes .poolTimeout)
    refine ⟨le_of_outcome_poolSize (houtcomes .poolSize), hpositive, fun hnan => ?_⟩
    have hfalse : r.database.poolTimeout.isPositive = false := by
      rw [hnan]
      exact Binary64.not_isPositive_nan
    exact Bool.false_ne_true (hfalse.symm.trans hpositive)
  · intro e he
    obtain ⟨database, seed, hdatabase, hseed, hread⟩ := read_eq_assemble hdb hdice
    rw [hread] at he
    obtain ⟨form, issues, rfl, hsubset⟩ := issues_of_assemble he
    refine ⟨form, issues, rfl, fun i hi => ?_⟩
    obtain ((hi | hi) | hi) | hi := by simpa only [List.mem_append] using hsubset hi
    · exact ⟨.debug, Setting.isBehind_of_mem_issueOf hi⟩
    · exact ⟨.logLevel, Setting.isBehind_of_mem_issueOf hi⟩
    · exact exists_isBehind_of_reported hdatabase (fun _ => exists_isBehind_of_readDatabase) i hi
    · exact exists_isBehind_of_reported hseed (fun _ => exists_isBehind_of_readSeed) i hi

/-- The name and the value of the only member of an object, if the value is an integer. -/
def onlyInteger? : Option Value → Option (String × Int)
  | some (.object [(name, .int n)]) => some (name, n)
  | _ => none

theorem eq_of_onlyInteger? {v : Option Value} {name : String} {n : Int}
    (h : onlyInteger? v = some (name, n)) : v = some (.object [(name, .int n)]) := by
  unfold onlyInteger? at h
  split at h
  · cases h
    rfl
  · cases h

/-- The size of the pool is given as an object in the environment.  Neither its own variable, which
is no number, nor the object in the file, which allows no connection, is noticed. -/
theorem read_follows_sources_of_layers :
    let environment := [("database_pool_size", "many"), ("DB", "\x7b\"pool_size\": 3\x7d")]
    let text := "DB=\x7b\"pool_size\": 0\x7d\n"
    let given : Fields := [("debug", .flag true), ("log_level", .text "warning"),
      ("db", .object [("path", .text "a.db"), ("pool_timeout", .int 2)]),
      ("dice", .object [("seed", .int 7)])]
    let db : Objects :=
      ⟨[("path", .text "a.db"), ("pool_timeout", .int 2)], [("pool_size", .int 3)],
        [("pool_size", .int 0)]⟩
    let dice : Objects := ⟨[("seed", .int 7)], [], []⟩
    databaseGroup.IsGivenAs (.of environment (some text)) given db ∧
      diceGroup.IsGivenAs (.of environment (some text)) given dice ∧
      read (.of environment (some text)) given =
        .ok ⟨true, "warning", ⟨"a.db", 3, .ofInt 2⟩, some 7⟩ := by
  intro environment text given db dice
  have hhere : named? environment "db" = some "\x7b\"pool_size\": 3\x7d" ∧
      named? environment "dice" = none := by decide +kernel
  have hinFile : named? (Sources.of environment (some text)).file "db" =
      some (some "\x7b\"pool_size\": 0\x7d") ∧
        named? (Sources.of environment (some text)).file "dice" = none := by decide +kernel
  have hname : variableName "pool_size" = "pool_size" := by decide +kernel
  have hlower (v : Value) : ∀ p ∈ [("pool_size", v)], variableName p.1 = p.1 := by
    intro p hp
    rw [List.mem_singleton.mp hp]
    exact hname
  have hdb : databaseGroup.IsGivenAs (.of environment (some text)) given db := by
    refine .of_plain (by decide) rfl ?_ ?_
    · have hvalue := Sources.inEnvironment?_plain (.of environment (some text)) "" "db"
      rw [show (Sources.of environment (some text)).environment = environment from rfl,
        show "" ++ "db" = "db" from rfl, hhere.1] at hvalue
      rw [show databaseGroup.name = "db" from rfl, hvalue]
      exact databaseGroup.inVariable?_of_object _ (eq_of_onlyInteger? (by decide +kernel))
        (hlower _) (by decide)
    · have hvalue := Sources.inFile?_plain (.of environment (some text)) "" "db"
      rw [show "" ++ "db" = "db" from rfl, hinFile.1] at hvalue
      rw [show databaseGroup.name = "db" from rfl, hvalue]
      exact databaseGroup.inVariable?_of_object _ (eq_of_onlyInteger? (by decide +kernel))
        (hlower _) (by decide)
  have hdice : diceGroup.IsGivenAs (.of environment (some text)) given dice := by
    refine .of_plain (by decide) rfl ?_ ?_
    · have hvalue := Sources.inEnvironment?_plain (.of environment (some text)) "" "dice"
      rw [show (Sources.of environment (some text)).environment = environment from rfl,
        show "" ++ "dice" = "dice" from rfl, hhere.2] at hvalue
      rw [show diceGroup.name = "dice" from rfl, hvalue]
      rfl
    · have hvalue := Sources.inFile?_plain (.of environment (some text)) "" "dice"
      rw [show "" ++ "dice" = "dice" from rfl, hinFile.2] at hvalue
      rw [show diceGroup.name = "dice" from rfl, hvalue]
      rfl
  refine ⟨hdb, hdice, ((read_follows_sources hdb hdice).2.1 _).mpr fun x => ?_⟩
  cases x with
  | debug | logLevel | path | poolSize | seed => rfl
  | poolTimeout =>
    show Field.positiveReal (.int 2) = .ok (.ofInt 2)
    have hfinite : (Binary64.ofInt 2).isFinite = true := by decide
    have hpositive : (Binary64.ofInt 2).isPositive = true := by decide
    simp only [Field.positiveReal, Field.real, hfinite, hpositive, if_true]

end Settings

end CharacterLedger
