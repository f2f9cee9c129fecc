import CharacterLedger.Proofs.Settings.Variables

/-!
# Test mode

In test mode the database and the seed are given beforehand, so that nothing a deployment sets can
put tests on its database.  What is left to the environment and the file is the timeout of the pool;
the variables of the groups are still parsed, and a text that is no JSON is an error, but nothing in
them counts.

* `readForTests_eq` — all that reading the settings for tests depends on;
* `read_congr` — reading the settings looks at no variables but their own and those of the groups;
* `test_mode_is_isolated` — the settings in test mode, two environments compared, and what a
  variable that does not turn on test mode amounts to.
-/

namespace CharacterLedger.Settings

open CharacterLedger.Number CharacterLedger.Text

/-! ### When test mode is on -/

theorem isTestMode_eq_false_iff (environment : List (String × String)) :
    isTestMode environment = false ↔
      environment.lookup testModeName = none ∨ environment.lookup testModeName = some "" := by
  unfold isTestMode
  cases environment.lookup testModeName <;> simp

/-! ### What test mode reads -/

/-- The timeout of the pool from its own variables. -/
def timeoutIn (s : Sources) : Except Defect Binary64 :=
  readOr (.ofInt 30) Field.positiveReal (s.find? (.plain "database_") "pool_timeout")

/-- The first variable of a group that is no JSON, in the environment and then in the file. -/
def unreadable? (s : Sources) : Option Error :=
  match readGroups (.plain "") "EnvSettingsSource" (s.inEnvironment? (.plain "")),
    readGroups (.plain "") "DotEnvSettingsSource" (s.inFile? (.plain "")) with
  | .error e, _ => some e
  | .ok _, .error e => some e
  | .ok _, .ok _ => none

/-- The settings for tests, with this timeout. -/
def forTests (timeout : Binary64) : Settings := ⟨true, "DEBUG", ⟨":memory:", 1, timeout⟩, none⟩

theorem readDatabase_testDatabase (s : Sources) :
    readDatabase s testDatabase =
      match timeoutIn s with
      | .ok timeout => .ok ⟨":memory:", 1, timeout⟩
      | .error d => .error [⟨["pool_timeout"], d⟩] := by
  have hpath : databaseGroup.find? s testDatabase "path" = some (.text ":memory:") := rfl
  have hsize : databaseGroup.find? s testDatabase "pool_size" = some (.int 1) := rfl
  have htimeout : databaseGroup.find? s testDatabase "pool_timeout" =
      s.find? (.plain "database_") "pool_timeout" := rfl
  unfold readDatabase
  dsimp only
  rw [hpath, hsize, htimeout, timeoutIn]
  cases readOr (.ofInt 30) Field.positiveReal (s.find? (.plain "database_") "pool_timeout") <;> rfl

/-- The settings for tests depend on the timeout, and on whether the variables of the groups are
JSON. -/
theorem readForTests_eq (s : Sources) :
    readForTests s =
      match timeoutIn s with
      | .error d => .error (.invalid .database [⟨["pool_timeout"], d⟩])
      | .ok timeout =>
        match unreadable? s with
        | some e => .error e
        | none => .ok (forTests timeout) := by
  unfold readForTests unreadable?
  rw [readDatabase_testDatabase]
  cases timeoutIn s with
  | error d => rfl
  | ok timeout =>
    dsimp only
    cases readGroups (.plain "") "EnvSettingsSource" (s.inEnvironment? (.plain "")) with
    | error e => rfl
    | ok _ =>
      cases readGroups (.plain "") "DotEnvSettingsSource" (s.inFile? (.plain "")) <;> rfl

theorem ofProcess_of_isTestMode {environment : List (String × String)}
    (h : isTestMode environment = true) (file : Option String) :
    ofProcess environment file = readForTests (.of environment file) := by
  rw [ofProcess, if_pos h]

/-- Whatever is read for tests are the settings for tests. -/
theorem exists_forTests {s : Sources} {r : Settings} (h : readForTests s = .ok r) :
    ∃ timeout, timeoutIn s = .ok timeout ∧ r = forTests timeout := by
  rw [readForTests_eq] at h
  split at h
  · cases h
  · next timeout htimeout =>
    split at h
    · cases h
    · exact ⟨timeout, htimeout, (Except.ok.inj h).symm⟩

/-! ### Where the variables of the groups cannot be parsed -/

/-- The text of a variable of a group, in one of the sources, is no JSON. -/
def Group.IsUnreadableIn (g : Group) (s : Sources) : Prop :=
  ∃ text, (named? s.environment g.name = some text ∨ named? s.file g.name = some (some text)) ∧
    Value.ofJson? text = none

theorem Group.ofVariable_eq_error {g : Group} {o : Search} {source : String} {v : Option Value}
    {e : Error} (h : g.ofVariable o source v = .error e) :
    e = .unreadableGroup g.name source ∧
      ∃ json, v = some (.text json) ∧ Value.ofJson? json = none := by
  unfold Group.ofVariable at h
  split at h
  · cases h
  · next json =>
    split at h
    · next hjson =>
      cases h
      exact ⟨rfl, json, rfl, hjson⟩
    all_goals cases h
  · cases h

theorem readGroups_eq_error {o : Search} {source : String} {find? : String → Option Value}
    {e : Error} (h : readGroups o source find? = .error e) :
    ∃ g ∈ [databaseGroup, diceGroup], e = .unreadableGroup g.name source ∧
      ∃ json, find? g.name = some (.text json) ∧ Value.ofJson? json = none := by
  unfold readGroups at h
  cases hdatabase : databaseGroup.ofVariable o source (find? databaseGroup.name) with
  | error e' =>
    rw [hdatabase] at h
    cases h
    exact ⟨databaseGroup, by simp, Group.ofVariable_eq_error hdatabase⟩
  | ok database =>
    rw [hdatabase] at h
    cases hdice : diceGroup.ofVariable o source (find? diceGroup.name) with
    | error e' =>
      rw [hdice] at h
      cases h
      exact ⟨diceGroup, by simp, Group.ofVariable_eq_error hdice⟩
    | ok dice =>
      rw [hdice] at h
      cases h

/-- Test mode fails for a variable of a group when its text is no JSON. -/
theorem exists_of_unreadable? {s : Sources} {e : Error} (h : unreadable? s = some e) :
    ∃ g ∈ [databaseGroup, diceGroup], ∃ source,
      e = .unreadableGroup g.name source ∧ g.IsUnreadableIn s := by
  unfold unreadable? at h
  split at h
  · next hhere =>
    cases h
    obtain ⟨g, hg, rfl, json, hvalue, hjson⟩ := readGroups_eq_error hhere
    rw [Sources.inEnvironment?_plain, Option.map_eq_some_iff] at hvalue
    obtain ⟨text, htext, hsame⟩ := hvalue
    cases hsame
    exact ⟨g, hg, _, rfl, json, .inl htext, hjson⟩
  · next hinFile =>
    cases h
    obtain ⟨g, hg, rfl, json, hvalue, hjson⟩ := readGroups_eq_error hinFile
    rw [Sources.inFile?_plain, Option.bind_eq_some_iff] at hvalue
    obtain ⟨value, hfound, hvalue⟩ := hvalue
    obtain ⟨text, rfl, hsame⟩ := Option.map_eq_some_iff.mp hvalue
    cases hsame
    exact ⟨g, hg, _, rfl, json, .inr hfound, hjson⟩
  · cases h

/-! ### Two environments compared -/

/-- Two sources have the same value, or none, for the variable with this name in any case. -/
def Sources.AgreeOn (s t : Sources) (name : String) : Prop :=
  named? s.environment name = named? t.environment name ∧ named? s.file name = named? t.file name

theorem Sources.AgreeOn.lookups {s t : Sources} {name : String} (h : s.AgreeOn t name)
    (start field : String) (hname : variableName (start ++ field) = variableName name) :
    s.inEnvironment? (.plain start) field = t.inEnvironment? (.plain start) field ∧
      s.inFile? (.plain start) field = t.inFile? (.plain start) field := by
  rw [inEnvironment?_plain, inEnvironment?_plain, inFile?_plain, inFile?_plain,
    named?_congr s.environment hname, named?_congr t.environment hname, named?_congr s.file hname,
    named?_congr t.file hname, h.1, h.2]
  exact ⟨rfl, rfl⟩

theorem timeoutIn_congr {s t : Sources} (h : s.AgreeOn t "DATABASE_POOL_TIMEOUT") :
    timeoutIn s = timeoutIn t := by
  obtain ⟨hhere, hinFile⟩ := h.lookups "database_" "pool_timeout" (by decide +kernel)
  rw [timeoutIn, timeoutIn, Sources.find?, Sources.find?, hhere, hinFile]

theorem unreadable?_congr {s t : Sources} (hdb : s.AgreeOn t "DB") (hdice : s.AgreeOn t "DICE") :
    unreadable? s = unreadable? t := by
  obtain ⟨hdbHere, hdbInFile⟩ := hdb.lookups "" databaseGroup.name (by decide +kernel)
  obtain ⟨hdiceHere, hdiceInFile⟩ := hdice.lookups "" diceGroup.name (by decide +kernel)
  unfold unreadable? readGroups
  rw [hdbHere, hdiceHere, hdbInFile, hdiceInFile]

/-! ### The variables that are looked at -/

/-- The names that variables of the settings end in. -/
def fieldNames : List String :=
  ["debug", "log_level", "db", "dice", "path", "pool_size", "pool_timeout", "seed"]

/-- Two sources have the same values, or none, for the variables of the settings, however these are
looked for. -/
def Sources.SameFor (s t : Sources) : Prop :=
  ∀ (o : Search), ∀ field ∈ fieldNames,
    s.inEnvironment? o field = t.inEnvironment? o field ∧ s.inFile? o field = t.inFile? o field

theorem Sources.SameFor.find? {s t : Sources} (h : s.SameFor t) (o : Search) {field : String}
    (hfield : field ∈ fieldNames) : s.find? o field = t.find? o field := by
  obtain ⟨hhere, hinFile⟩ := h o field hfield
  rw [Sources.find?, Sources.find?, hhere, hinFile]

theorem Sources.SameFor.member {s t : Sources} (h : s.SameFor t) (g : Group) (given : Fields)
    (field : String) (hfield : field ∈ fieldNames) :
    g.find? s given field = g.find? t given field := by
  rw [Group.find?, Group.find?, h.find? _ hfield]

theorem Sources.SameFor.readDatabase {s t : Sources} (h : s.SameFor t) :
    readDatabase s = readDatabase t := by
  funext given
  unfold Settings.readDatabase
  dsimp only
  rw [h.member databaseGroup given "path" (by decide),
    h.member databaseGroup given "pool_size" (by decide),
    h.member databaseGroup given "pool_timeout" (by decide)]

theorem Sources.SameFor.readSeed {s t : Sources} (h : s.SameFor t) :
    readSeed s = readSeed t := by
  funext given
  unfold Settings.readSeed
  rw [h.member diceGroup given "seed" (by decide)]

/-- Reading the settings looks at no variables but those of the settings. -/
theorem read_congr {s t : Sources} (h : s.SameFor t) (given : Fields) :
    read s given = read t given := by
  have hgroups (o : Search) :
      readGroups o "EnvSettingsSource" (s.inEnvironment? o) =
          readGroups o "EnvSettingsSource" (t.inEnvironment? o) ∧
        readGroups o "DotEnvSettingsSource" (s.inFile? o) =
          readGroups o "DotEnvSettingsSource" (t.inFile? o) := by
    obtain ⟨hdbHere, hdbInFile⟩ := h o databaseGroup.name (by decide)
    obtain ⟨hdiceHere, hdiceInFile⟩ := h o diceGroup.name (by decide)
    unfold readGroups
    rw [hdbHere, hdiceHere, hdbInFile, hdiceInFile]
    exact ⟨rfl, rfl⟩
  unfold read
  dsimp only
  rw [(hgroups _).1, (hgroups _).2, h.find? _ (show "debug" ∈ fieldNames by decide),
    h.find? _ (show "log_level" ∈ fieldNames by decide), h.readDatabase, h.readSeed]

/-- The sources without the variables that have this name in any case. -/
def Sources.without (s : Sources) (name : String) : Sources where
  environment := s.environment.filter fun p => variableName p.1 != variableName name
  file := s.file.filter fun p => variableName p.1 != variableName name

/-- A name does not belong to a field when, with regard to case left out, it does not end in the
name of the field. -/
theorem Search.isFor_eq_false {o : Search} {field name : String} {value : Option String}
    (h : ¬ lower field.toList <:+ lower name.toList) : o.isFor field name value = false := by
  have hne : o.compared name ≠ o.compared (o.start ++ field) := by
    intro hsame
    have hlower : lower name.toList = lower o.start.toList ++ lower field.toList := by
      rw [← lower_append, ← String.toList_append]
      unfold compared at hsame
      split at hsame
      · rw [hsame]
      · exact String.ofList_injective hsame
    exact h (hlower ▸ List.suffix_append _ _)
  simp [isFor, hne]

/-- What is searched for is found among fewer, if it is left in. -/
theorem find?_filter_of_imp {α : Type} (items : List α) {stays isIt : α → Bool}
    (h : ∀ a, isIt a = true → stays a = true) :
    (items.filter stays).find? isIt = items.find? isIt := by
  rw [List.find?_filter]
  congr 1
  funext a
  cases hit : isIt a with
  | true => simp [h a hit]
  | false => simp

/-- A variable whose name does not end in the name of a setting is not looked at. -/
theorem Sources.sameFor_without (s : Sources) {name : String}
    (h : ∀ field ∈ fieldNames, ¬ lower field.toList <:+ lower name.toList) :
    (s.without name).SameFor s := by
  intro o field hfield
  have hstays (other : String) (value : Option String) (hfor : o.isFor field other value = true) :
      (variableName other != variableName name) = true := by
    rw [bne_iff_ne]
    intro hname
    have hlower : lower other.toList = lower name.toList := String.ofList_injective hname
    have hfalse : o.isFor field other value = false :=
      Search.isFor_eq_false (by rw [hlower]; exact h field hfield)
    exact Bool.false_ne_true (hfalse.symm.trans hfor)
  constructor
  · have hfound := find?_filter_of_imp s.environment.reverse fun p hp =>
      hstays p.1 (some p.2) hp
    rw [inEnvironment?, inEnvironment?, without, ← List.filter_reverse, hfound]
  · have hfound := find?_filter_of_imp s.file.reverse fun p hp => hstays p.1 p.2 hp
    rw [inFile?, inFile?, without, ← List.filter_reverse, hfound]

/-! ### Test mode is isolated -/

/-- **Test mode is isolated.**  In test mode the settings are those for tests in all but the timeout
of the pool.  A second environment in test mode with the same timeout gives the same settings, unless
a variable of a group is no JSON there, and with the same variables of the groups it gives the same
result.  Without the variable, or with an empty one, the settings are read as if there were no such
variable anywhere. -/
theorem test_mode_is_isolated (environment : List (String × String)) (file : Option String) :
    (isTestMode environment = true →
      (∀ r, ofProcess environment file = .ok r →
        r.debug = true ∧ r.levelValue = .inl 10 ∧ r.database.path = ":memory:" ∧
          r.database.poolSize = 1 ∧ r.seed = none) ∧
      ∀ environment' file', isTestMode environment' = true →
        (Sources.of environment file).AgreeOn (.of environment' file') "DATABASE_POOL_TIMEOUT" →
        ((Sources.of environment file).AgreeOn (.of environment' file') "DB" →
          (Sources.of environment file).AgreeOn (.of environment' file') "DICE" →
          ofProcess environment' file' = ofProcess environment file) ∧
        ∀ r, ofProcess environment file = .ok r →
          ofProcess environment' file' = .ok r ∨
            ∃ g ∈ [databaseGroup, diceGroup], ∃ source,
              ofProcess environment' file' = .error (.unreadableGroup g.name source) ∧
                g.IsUnreadableIn (.of environment' file')) ∧
    (environment.lookup "TEST_MODE" = none ∨ environment.lookup "TEST_MODE" = some "" →
      ofProcess environment file = read ((Sources.of environment file).without "TEST_MODE") []) := by
  refine ⟨fun hmode => ⟨?_, ?_⟩, fun hno => ?_⟩
  · intro r hr
    rw [ofProcess_of_isTestMode hmode] at hr
    obtain ⟨timeout, -, rfl⟩ := exists_forTests hr
    exact ⟨rfl, levelValue_of_debug _ rfl, rfl, rfl, rfl⟩
  · intro environment' file' hmode' htimeout
    have hsame := timeoutIn_congr htimeout
    rw [ofProcess_of_isTestMode hmode, ofProcess_of_isTestMode hmode']
    constructor
    · intro hdb hdice
      rw [readForTests_eq, readForTests_eq, hsame, unreadable?_congr hdb hdice]
    · intro r hr
      obtain ⟨timeout, ht, rfl⟩ := exists_forTests hr
      rw [readForTests_eq, ← hsame, ht]
      dsimp only
      cases hunreadable : unreadable? (.of environment' file') with
      | none => exact .inl rfl
      | some e =>
        obtain ⟨g, hg, source, rfl, hsource⟩ := exists_of_unreadable? hunreadable
        exact .inr ⟨g, hg, source, rfl, hsource⟩
  · rw [ofProcess, (isTestMode_eq_false_iff environment).mpr hno, if_neg Bool.false_ne_true]
    exact (read_congr (Sources.sameFor_without _ (by decide +kernel)) []).symm

/-- Tests run where a deployment has its own database, no valid size and a seed that is no number,
and get what they get with none of that. -/
theorem test_mode_is_isolated_of_deployment :
    let deployment := [("TEST_MODE", "1"), ("DATABASE_PATH", "live.db"),
      ("DATABASE_POOL_SIZE", "0"), ("LOG_LEVEL", "loud")]
    let text := "DICE_SEED=none\n"
    let bare := [("TEST_MODE", "yes")]
    let off := [("TEST_MODE", "")]
    isTestMode deployment = true ∧ isTestMode bare = true ∧
      ofProcess bare none = .ok (forTests (.ofInt 30)) ∧
      ofProcess deployment (some text) = .ok (forTests (.ofInt 30)) ∧
      (forTests (.ofInt 30)).levelValue = .inl 10 ∧
      ofProcess off none = read ((Sources.of off none).without "TEST_MODE") [] := by
  intro deployment text bare off
  have hmode : isTestMode deployment = true := by decide +kernel
  have hbare : isTestMode bare = true := by decide +kernel
  have hagree : ∀ name ∈ ["DATABASE_POOL_TIMEOUT", "DB", "DICE"],
      named? bare name = named? deployment name ∧
        named? (Sources.of bare none).file name =
          named? (Sources.of deployment (some text)).file name := by decide +kernel
  have hfew (start field : String) (h : named? bare (start ++ field) = none) :
      (Sources.of bare none).inEnvironment? (.plain start) field = none := by
    rw [Sources.inEnvironment?_plain, show (Sources.of bare none).environment = bare from rfl, h]
    rfl
  have htimeout : timeoutIn (.of bare none) = .ok (.ofInt 30) := by
    rw [timeoutIn, Sources.find?, hfew "database_" "pool_timeout" (by decide +kernel)]
    rfl
  have hreadable : unreadable? (.of bare none) = none := by
    unfold unreadable? readGroups
    rw [hfew "" databaseGroup.name (by decide +kernel), hfew "" diceGroup.name (by decide +kernel)]
    rfl
  have hok : ofProcess bare none = .ok (forTests (.ofInt 30)) := by
    rw [ofProcess_of_isTestMode hbare, readForTests_eq, htimeout, hreadable]
  obtain ⟨hsettings, hother⟩ := (test_mode_is_isolated bare none).1 hbare
  have hsame := (hother deployment (some text) hmode (hagree _ (by simp))).1 (hagree _ (by simp))
    (hagree _ (by simp))
  exact ⟨hmode, hbare, hok, hsame.trans hok, (hsettings _ hok).2.1,
    (test_mode_is_isolated off none).2 (.inr (by decide))⟩

end CharacterLedger.Settings
