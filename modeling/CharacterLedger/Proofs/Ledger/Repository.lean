import CharacterLedger.Proofs.Ledger.Returns

/-!
# Records that are saved, loaded and counted

A record that has been saved is loaded again as it was, and nothing else has changed.  This is said of
calls that have the world to themselves, by any choices: waits may expire and statements fail on the
way.  Whatever happens, a call that is not turned away by the store is answered from the rows, and a
record that could not be saved leaves them as they were.  Where the store serves every call is
answered.

* `Course` — what can be said of a visit on its way and at its end;
* `OnErrand`, `Run.onErrand` — a run of one call that goes to the pool for an errand;
* `Returns.save`, `Returns.load`, `Returns.count` — what is saved, loaded and counted;
* `World.Serving.saves`, `World.Serving.loads`, `World.Serving.counts` — where the store serves;
* `HasSaved` — what saving a record has changed;
* `saves_then_loads` — the laws of saving, loading and counting.
-/

namespace CharacterLedger.Ledger

open CharacterLedger.Storage CharacterLedger.Table

/-! ### The course of an errand -/

/-- What can be said of a visit for an errand on its way, and of its result and the rows at its end. -/
structure Course (e : Errand) (rows : List Row) where
  Along : Phase (Purpose.borrow e).Answer → Prop
  Ended : e.Result → List Row → Prop
  enters : Along .entering
  goes : ∀ {s t : Store} {visits visits' : Nat → Option Visiting}
    {phase next : Phase (Purpose.borrow e).Answer}, Orderly s visits → Place s visits →
    s.rows = rows → Visit.Moves 0 (.borrow e) s phase t (.going next) →
    Visiting.Moved 0 phase (.going next) visits visits' → Along phase → Along next
  ends : ∀ {s t : Store} {visits visits' : Nat → Option Visiting}
    {phase : Phase (Purpose.borrow e).Answer} {r : e.Result}, Orderly s visits → Place s visits →
    s.rows = rows → Visit.Moves 0 (.borrow e) s phase t (.ended r) →
    Visiting.Moved 0 phase (.ended r) visits visits' → Along phase → Ended r t.rows

namespace Task

variable {id : Nat} {call : Call} {s s' : Store} {l l' : KeyLocks} {st' : Stage}

/-- A task that has an errand goes to the pool. -/
theorem Moves.of_ready {e : Errand} (h : Moves id (.borrow e) s l .ready s' l' st') :
    s' = s ∧ st' = .visiting (.borrow e) .entering := by
  cases h with
  | goVisiting purpose =>
    cases purpose
    exact ⟨rfl, rfl⟩
  | refuse refused => cases refused
  | rollAtOnce plain => cases plain
  | closeNothing closes | goClosing closes | closeAtOnce closes => cases closes
  | reach about => cases about
  | reachToHold holds => cases holds

/-- A task that is on a visit goes on with it, and ends with it. -/
theorem Moves.of_visiting {p : Purpose} {phase : Phase p.Answer}
    (h : Moves id call s l (.visiting p phase) s' l' st') :
    ∃ next, Visit.Moves id p s phase s' next ∧
      st' = match next with
        | .going next => .visiting p next
        | .ended r => .done (Task.visited p r).2 := by
  cases h with
  | visit move => exact ⟨_, move, rfl⟩
  | visited move => exact ⟨_, move, rfl⟩

end Task

/-- How far a task has got that goes to the pool for an errand, and the rows at that time. -/
inductive Reached {e : Errand} {rows : List Row} (course : Course e rows) :
    Stage → List Row → Prop
  | ready : Reached course .ready rows
  | visiting {phase : Phase (Purpose.borrow e).Answer} (along : course.Along phase) :
      Reached course (.visiting (.borrow e) phase) rows
  | done {r : e.Result} {rows' : List Row} (ended : course.Ended r rows') :
      Reached course (.done (Task.visited (.borrow e) r).2) rows'

/-- A system whose only task goes to the pool for an errand. -/
structure OnErrand {e : Errand} {rows : List Row} (course : Course e rows) (s : System) : Prop where
  sound : s.Sound
  place : Place s.world.store s.visits
  task : ∃ t, s.tasks = [t] ∧ t.call = .borrow e ∧ Reached course t.stage s.rows

namespace OnErrand

variable {e : Errand} {rows : List Row} {course : Course e rows} {s s' : System}

theorem start {w : World} (h : w.Calm) (course : Course e w.store.rows) :
    OnErrand course (System.start w [.borrow e]) := by
  refine ⟨h.sound ?_, ?_, Task.new (.borrow e), rfl, rfl, .ready⟩
  · intro call hcall
    rw [List.mem_singleton.1 hcall]
    exact fun h => nomatch h
  · rw [System.visits_start]
    exact h.place

/-- **A step of the only task** keeps its course. -/
theorem step (h : OnErrand course s) (hchange : ¬ (Purpose.borrow e).IsChange) {id : Nat}
    {choice : Choice} (hstep : s.step id choice = some s') : OnErrand course s' := by
  obtain ⟨t, htasks, hcall, hreached⟩ := h.task
  obtain ⟨u, t', hu, hset, hcall', hmove⟩ := System.moves_of_step hstep
  obtain ⟨rfl, rfl⟩ : id = 0 ∧ u = t := by
    rw [htasks] at hu
    cases id with
    | zero => exact ⟨rfl, (Option.some.inj hu).symm⟩
    | succ id => cases hu
  have htasks' : s'.tasks = [t'] := by rw [hset, htasks]; rfl
  obtain ⟨hbefore, hafter, hothers⟩ := System.visits_of_step hu hset
  have hsound := h.sound.step hstep
  rw [hcall] at hmove
  generalize hstage : u.stage = stage at hmove hreached hbefore
  generalize hstage' : t'.stage = stage' at hmove hafter
  generalize hrows : s.rows = rowsNow at hreached
  cases hreached with
  | ready =>
    obtain ⟨hsame, rfl⟩ := hmove.of_ready
    refine ⟨hsound, ?_, t', htasks', hcall'.trans hcall, ?_⟩
    · rw [hsame]
      exact h.place.began ⟨hbefore, .inr ⟨_, hafter⟩, hothers⟩
    · rw [hstage', System.rows, hsame, show s.world.store.rows = rows from hrows]
      exact .visiting course.enters
  | @visiting phase along =>
    obtain ⟨next, hmoves, rfl⟩ := hmove.of_visiting
    have hmoved : Visiting.Moved 0 phase next s.visits s'.visits := by
      refine ⟨hbefore, ?_, hothers⟩
      rw [hafter]
      cases next with
      | going next => rfl
      | ended r => exact .inl rfl
    have hplace := h.place.moves h.sound.store.slots h.sound.store.drafts h.sound.store.openings
      hmoves hmoved hchange
    refine ⟨hsound, hplace, t', htasks', hcall'.trans hcall, ?_⟩
    rw [hstage']
    cases next with
    | going next =>
      have hsame : s'.rows = s.rows := by
        refine (h.place.rows_of_moves h.sound.store.slots h.sound.store.drafts
          h.sound.store.openings hmoves hmoved hchange).resolve_right ?_
        rintro ⟨q, c, a, -, hended, -⟩
        cases hended
      rw [hsame, hrows]
      exact .visiting (course.goes h.sound.store h.place hrows hmoves hmoved along)
    | ended r => exact .done (course.ends h.sound.store h.place hrows hmoves hmoved along)
  | done => exact absurd hmove fun h => h.not_done

end OnErrand

/-- **A run of one call** keeps the course of its errand. -/
theorem Run.onErrand {e : Errand} {w : World} {es : List Event} {s : System} (hcalm : w.Calm)
    (hchange : ¬ (Purpose.borrow e).IsChange) (course : Course e w.store.rows)
    (h : Run (System.start w [.borrow e]) es s) : OnErrand course s := by
  induction h with
  | start => exact .start hcalm course
  | step _ step ih => exact ih.step hchange step
  | forget _ ih => exact ⟨ih.sound.forgetLocks, ih.place, ih.task⟩

/-- A question is answered from the rows, which stay as they are. -/
def Question.course (q : Question) (rows : List Row) : Course (.ask q) rows where
  Along phase := ∀ qu c a, phase = .returning qu c a → ∃ d : Database, d.rows = rows ∧ q.ask d = .ok a
  Ended r rows' := rows' = rows ∧ ∀ a, r = .ok a → ∃ d : Database, d.rows = rows ∧ q.ask d = .ok a
  enters := nofun
  goes := by
    rintro s t visits visits' phase next hstore hplace hrows hmove hmoved - qu c a rfl
    obtain ⟨rfl, hcarried⟩ := hmove.answered
    exact ⟨s.database, hrows, hplace.answer_eq hstore.slots hstore.drafts hmoved.before hcarried⟩
  ends := by
    rintro s t visits visits' phase r hstore hplace rfl hmove hmoved along
    refine ⟨?_, ?_⟩
    · refine (hplace.rows_of_moves hstore.slots hstore.drafts hstore.openings hmove hmoved
        (fun hchange => hchange)).resolve_right ?_
      exact fun ⟨_, _, _, _, _, htransaction⟩ => htransaction
    · rintro a rfl
      obtain ⟨qu, c, rfl⟩ := hmove.given
      exact along qu c a rfl

/-- The rows once a record has been saved, or could not be. -/
def rowsAfterSaving (rows : List Row) (c : Character) : Errand.Result (.save c) → List Row
  | .ok () => CharacterTable.replaceRow (Row.ofCharacter c) rows
  | .error _ => rows

/-- A record is put in its place by the end of its transaction, and by nothing else. -/
def saveCourse (c : Character) (rows : List Row) : Course (.save c) rows where
  Along phase := phase.isReturning = false
  Ended r rows' := rows' = rowsAfterSaving rows c r
  enters := rfl
  goes := by
    intro s t visits visits' phase next hstore hplace hrows hmove hmoved along
    rw [Bool.eq_false_iff]
    intro hnext
    obtain ⟨question, hasks⟩ | hchange := hmove.returning hnext
    · cases hasks
    · exact hchange
  ends := by
    rintro s t visits visits' phase r hstore hplace rfl hmove hmoved along
    cases r with
    | ok =>
      obtain ⟨q, k, rfl⟩ := hmove.committed along
      exact Database.rows_upsert
        (hplace.writes_of_commit hstore.drafts hstore.openings hmove hmoved)
    | error f =>
      refine (hplace.rows_of_moves hstore.slots hstore.drafts hstore.openings hmove hmoved
        (fun hchange => hchange)).resolve_right ?_
      rintro ⟨_, _, _, _, hended, _⟩
      cases hended

/-! ### What calls come back with -/

/-- The call for the record of a character. -/
def Call.load (x y : String) : Call := .borrow (.ask (.character (.text x) (.text y)))

/-- The call for the number of characters. -/
def Call.count : Call := .borrow (.ask .count)

/-- The call to save a record. -/
def Call.save (c : Character) : Call := .borrow (.save c)

namespace Returns

variable {w w' : World} {r : Except Error Reply} {c : Character} {x y : String}

/-- An errand that has the world to itself ends as its course says, and leaves a calm world. -/
theorem errand {e : Errand} (h : Returns w (.borrow e) r w') (hcalm : w.Calm)
    (hchange : ¬ (Purpose.borrow e).IsChange) (course : Course e w.store.rows) :
    w'.Calm ∧ ∃ result, r = (Task.visited (.borrow e) result).2 ∧
      course.Ended result w'.store.rows := by
  obtain ⟨es, s, hrun, hresult, rfl⟩ := h
  obtain ⟨hsound, hplace, t, htasks, hcall, hreached⟩ := hrun.onErrand hcalm hchange course
  obtain ⟨u, hu, hdone⟩ := System.result?_eq_some_iff.1 hresult
  obtain rfl : u = t := by
    rw [htasks] at hu
    exact (Option.some.inj hu).symm
  refine ⟨System.calm_of_done hsound hplace ?_, ?_⟩
  · intro id v hv
    rw [htasks] at hv
    obtain rfl := List.mem_singleton.1 (List.mem_of_getElem? hv)
    exact ⟨r, hdone⟩
  · rw [hdone] at hreached
    generalize hrows : s.rows = rows at hreached
    generalize hstage : Stage.done r = stage at hreached
    cases hreached with
    | ready => cases hstage
    | visiting => cases hstage
    | done ended =>
      cases hstage
      exact ⟨_, rfl, (show s.world.store.rows = rows from hrows) ▸ ended⟩

/-- **A record is saved, or the store has failed** and the rows are as they were. -/
theorem save (h : Returns w (.save c) r w') (hcalm : w.Calm) :
    w'.Calm ∧
      (r = .ok .done ∧
          w'.store.rows = CharacterTable.replaceRow (Row.ofCharacter c) w.store.rows ∨
        (∃ e, r = .error e ∧ isOfStore e = true) ∧ w'.store.rows = w.store.rows) := by
  obtain ⟨hcalm', result, rfl, hrows⟩ := h.errand hcalm (fun hchange => hchange) (saveCourse c _)
  refine ⟨hcalm', ?_⟩
  cases result with
  | ok => exact .inl ⟨rfl, hrows⟩
  | error failure => exact .inr ⟨⟨_, rfl, isOfStore_storeError _ failure⟩, hrows⟩

/-- **A record is loaded as its row has it**, if the store does not fail. -/
theorem load (h : Returns w (.load x y) r w') (hcalm : w.Calm) :
    w'.Calm ∧ w'.store.rows = w.store.rows ∧ (isTurnedAway r = true ∨
      r = (recordAt w.store.rows (.text x) (.text y)).map .character) := by
  obtain ⟨hcalm', result, rfl, hrows, hanswer⟩ :=
    h.errand hcalm (fun hchange => hchange) (Question.course _ _)
  refine ⟨hcalm', hrows, ?_⟩
  cases result with
  | error failure => exact .inl (isOfStore_storeError _ failure)
  | ok row =>
    obtain ⟨d, hd, hask⟩ := hanswer row rfl
    have hselect : d.select (.text x) (.text y) = .ok row := hask
    obtain rfl := rowAt_of_select hselect
    rw [hd]
    exact .inr rfl

/-- **The rows are counted**, if the store does not fail. -/
theorem count (h : Returns w .count r w') (hcalm : w.Calm) :
    w'.Calm ∧ w'.store.rows = w.store.rows ∧
      (isTurnedAway r = true ∨ r = .ok (.count w.store.rows.length)) := by
  obtain ⟨hcalm', result, rfl, hrows, hanswer⟩ :=
    h.errand hcalm (fun hchange => hchange) (Question.course _ _)
  refine ⟨hcalm', hrows, ?_⟩
  cases result with
  | error failure => exact .inl (isOfStore_storeError _ failure)
  | ok n =>
    obtain ⟨d, hd, hcount⟩ := hanswer n rfl
    obtain rfl := Database.count_eq_ok hcount
    rw [hd]
    exact .inr rfl

end Returns

/-! ### Loading, counting and saving -/

namespace World

/-- The row of a character cannot be fetched, and this is what it is refused with. -/
def IsUnfetchable (rows : List Row) (x y : String) (e : Error) : Prop :=
  ∃ row f, rowAt rows (.text x) (.text y) = some row ∧ row.fault? = some f ∧
    e = .storage (.failed f)

/-- A record is loaded, or its row is corrupt or cannot be fetched. -/
def Loads (w : World) (x y : String) (r : Except Error Reply) : Prop :=
  (isTurnedAway r = false ∨ ∃ e, r = .error e ∧ IsUnfetchable w.store.rows x y e) ∧
    ∃ w', Returns w (.load x y) r w'

/-- So many characters are counted. -/
def Counts (w : World) (n : Nat) : Prop := ∃ w', Returns w .count (.ok (.count n)) w'

/-- A record is saved, which leaves the other world. -/
def Saves (w : World) (c : Character) (w' : World) : Prop := Returns w (.save c) (.ok .done) w'

/-- Whatever is loaded in both worlds is the same, and so is what is counted. -/
structure Agrees (w w' : World) : Prop where
  loads : ∀ x y r r', w.Loads x y r → w'.Loads x y r' → r' = r
  counts : ∀ n n', w.Counts n → w'.Counts n' → n' = n

variable {w w' w₁ w₂ v₁ v₂ : World} {c c' : Character} {x y : String}

/-- What the record of a character is, if its row cannot be fetched. -/
theorem IsUnfetchable.recordAt_eq {rows : List Row} {e : Error} (h : IsUnfetchable rows x y e) :
    recordAt rows (.text x) (.text y) = .error e := by
  obtain ⟨row, f, hrow, hfault, rfl⟩ := h
  rw [recordAt, hrow]
  exact Row.toCharacter_of_fault hfault ..

/-- A record that cannot be had is corrupt, or its row cannot be fetched. -/
theorem isUnfetchable_or_of_error {rows : List Row} {e : Error}
    (h : recordAt rows (.text x) (.text y) = .error e) :
    isOfStore e = false ∨ IsUnfetchable rows x y e := by
  unfold recordAt at h
  cases hrow : rowAt rows (.text x) (.text y) with
  | none =>
    rw [hrow] at h
    cases h
  | some row =>
    rw [hrow] at h
    obtain ⟨f, hfault, rfl⟩ | ⟨issues, -, -, rfl⟩ := Row.toCharacter_eq_error h
    · exact .inr ⟨row, f, hrow, hfault, rfl⟩
    · exact .inl rfl

theorem Calm.loads_eq (h : w.Calm) {r : Except Error Reply} (hloads : w.Loads x y r) :
    r = (recordAt w.store.rows (.text x) (.text y)).map .character := by
  obtain ⟨hanswered | ⟨e, rfl, hunfetchable⟩, w', hreturns⟩ := hloads
  · obtain ⟨-, -, haway | hr⟩ := hreturns.load h
    · rw [hanswered] at haway
      cases haway
    · exact hr
  · rw [hunfetchable.recordAt_eq]
    rfl

theorem Calm.counts_eq (h : w.Calm) {n : Nat} (hcounts : w.Counts n) :
    n = w.store.rows.length := by
  obtain ⟨w', hreturns⟩ := hcounts
  obtain ⟨-, -, haway | hn⟩ := hreturns.count h
  · cases haway
  · cases hn
    rfl

theorem Calm.saves (h : w.Calm) (hsaves : w.Saves c w') :
    w'.Calm ∧ w'.store.rows = CharacterTable.replaceRow (Row.ofCharacter c) w.store.rows := by
  obtain ⟨hcalm, ⟨-, hrows⟩ | ⟨⟨e, he, -⟩, -⟩⟩ := hsaves.save h
  · exact ⟨hcalm, hrows⟩
  · cases he

/-- Worlds with the same records and as many rows agree. -/
theorem Calm.agrees (h : w.Calm) (h' : w'.Calm)
    (hrecords : ∀ x y, recordAt w'.store.rows (.text x) (.text y) =
      recordAt w.store.rows (.text x) (.text y))
    (hlength : w'.store.rows.length = w.store.rows.length) : w.Agrees w' where
  loads := by
    intro x y r r' hr hr'
    rw [h.loads_eq hr, h'.loads_eq hr', hrecords]
  counts := by
    intro n n' hn hn'
    rw [h.counts_eq hn, h'.counts_eq hn', hlength]

/-! ### Laws -/

/-- **What has been saved is loaded**, and every other key has what it had. -/
theorem Calm.loads_of_saves (h : w.Calm) (hsaves : w.Saves c w') {r : Except Error Reply}
    (hloads : w'.Loads x y r) :
    (c.channel = x ∧ c.user = y → r = .ok (.character c)) ∧
      (¬ (c.channel = x ∧ c.user = y) → ∀ r₀, w.Loads x y r₀ → r = r₀) := by
  obtain ⟨hcalm, hrows⟩ := h.saves hsaves
  have hr := hcalm.loads_eq hloads
  rw [hrows, recordAt_replaceRow] at hr
  refine ⟨?_, ?_⟩
  · intro hkey
    rw [hr, if_pos hkey]
    rfl
  · intro hkey r₀ hr₀
    rw [hr, if_neg hkey, h.loads_eq hr₀]

/-- **There is one character more** if there was no row of the key. -/
theorem Calm.counts_of_saves (h : w.Calm) (hsaves : w.Saves c w') {n n' : Nat}
    (hn : w.Counts n) (hn' : w'.Counts n') :
    n' = if rowAt w.store.rows (.text c.channel) (.text c.user) = none then n + 1 else n := by
  obtain ⟨hcalm, hrows⟩ := h.saves hsaves
  rw [hcalm.counts_eq hn', h.counts_eq hn, hrows, CharacterTable.length_replaceRow]
  rfl

/-- **Of two records of one key the second counts.** -/
theorem Calm.rows_of_overwrites (h : w.Calm) (hchannel : c.channel = c'.channel)
    (huser : c.user = c'.user) (hfirst : w.Saves c w₁) (hsecond : w₁.Saves c' w₂)
    (honly : w.Saves c' v₁) : w₂.store.rows = v₁.store.rows := by
  obtain ⟨hcalm, hrows⟩ := h.saves hfirst
  rw [(hcalm.saves hsecond).2, (h.saves honly).2, hrows]
  exact CharacterTable.replaceRow_replaceRow ((Row.hasKey_iff ..).2 ⟨hchannel, huser⟩) _

/-- **Records of two keys can be saved in either order.** -/
theorem Calm.saves_comm (h : w.Calm) (hkeys : ¬ (c.channel = c'.channel ∧ c.user = c'.user))
    (hfirst : w.Saves c w₁) (hsecond : w₁.Saves c' w₂) (hfirst' : w.Saves c' v₁)
    (hsecond' : v₁.Saves c v₂) :
    w₂.store.rows.Perm v₂.store.rows ∧ w₂.Agrees v₂ := by
  obtain ⟨hcalm₁, hrows₁⟩ := h.saves hfirst
  obtain ⟨hcalm₂, hrows₂⟩ := hcalm₁.saves hsecond
  obtain ⟨hcalm₁', hrows₁'⟩ := h.saves hfirst'
  obtain ⟨hcalm₂', hrows₂'⟩ := hcalm₁'.saves hsecond'
  have hother : (Row.ofCharacter c).hasKey c'.channel c'.user = false := by
    rw [Bool.eq_false_iff]
    exact fun hkey => hkeys ((Row.hasKey_iff ..).1 hkey)
  have hperm : w₂.store.rows.Perm v₂.store.rows := by
    rw [hrows₂, hrows₁, hrows₂', hrows₁']
    exact CharacterTable.replaceRow_comm hother w.store.rows
  refine ⟨hperm, hcalm₂.agrees hcalm₂' ?_ hperm.length_eq.symm⟩
  intro x y
  rw [hrows₂, hrows₁, hrows₂', hrows₁']
  simp only [recordAt_replaceRow]
  by_cases hkey : c.channel = x ∧ c.user = y
  · have hkey' : ¬ (c'.channel = x ∧ c'.user = y) := by
      rintro ⟨hx, hy⟩
      exact hkeys ⟨hkey.1.trans hx.symm, hkey.2.trans hy.symm⟩
    rw [if_pos hkey, if_neg hkey', if_pos hkey]
  · rw [if_neg hkey, if_neg hkey]

/-- **A record that could not be saved** has changed nothing. -/
theorem Calm.agrees_of_fails (h : w.Calm) {e : Error}
    (hfails : Returns w (.save c) (.error e) w') :
    w'.store.rows = w.store.rows ∧ w.Agrees w' := by
  obtain ⟨hcalm, ⟨hdone, -⟩ | ⟨-, hrows⟩⟩ := hfails.save h
  · cases hdone
  · exact ⟨hrows, h.agrees hcalm (fun x y => by rw [hrows]) (by rw [hrows])⟩

end World

/-! ### Stores that serve -/

/-- A visit that goes to its end in a quiet world is what its call can come back with. -/
theorem Returns.of_runs {e : Errand} {S : Store → Prop} {n : Nat} {w : World} {s' : Store}
    {notes : List Log.Note} {r : e.Result}
    (h : Visit.Runs (.borrow e) n w.store (.going .entering) notes s' (.ended r))
    (hlocks : w.locks.Idle) (hs : S s') :
    ∃ w', Returns w (.borrow e) (Task.visited (.borrow e) r).2 w' ∧ w'.Quiet S ∧
      w'.store = s' := by
  obtain ⟨w', t, hgoes, hdone, hleaves⟩ := Task.goes_of_call (.borrow e) h rfl
  exact ⟨w', .of_goes hgoes hdone, hleaves.quiet hlocks hs, hleaves.store⟩

namespace World.Serving

variable {w : World}

/-- **Every record is saved**, and the store serves on. -/
theorem saves (h : w.Serving) (c : Character) : ∃ w', w.Saves c w' ∧ w'.Serving := by
  obtain ⟨path, hplaces, hquiet⟩ | hquiet := h
  · obtain ⟨n, notes, t, -, hruns, ⟨hlasts, hsize⟩, -⟩ :=
      (hold_refusing path [] hplaces).saves ⟨hquiet.store, rfl⟩ c
    obtain ⟨w', hreturns, hquiet', rfl⟩ := Returns.of_runs hruns hquiet.locks hlasts
    exact ⟨w', hreturns, .inl ⟨path, hsize ▸ hplaces, hquiet'⟩⟩
  · obtain ⟨n, notes, t, -, hruns, hmemory, -⟩ := hold_oneInMemory.saves hquiet.store c
    obtain ⟨w', hreturns, hquiet', -⟩ := Returns.of_runs hruns hquiet.locks hmemory
    exact ⟨w', hreturns, .inr hquiet'⟩

/-- A question about the rows is answered. -/
theorem answers (h : w.Serving) {q : Question} (hst : NeedsTable q.statement)
    (hbound : q.bound = .ok ()) {a : q.Answer}
    (ha : ∀ d : Database, d.table.isSome = true → d.rows = w.store.rows → q.ask d = .ok a) :
    ∃ w', Returns w (.borrow (.ask q)) (Task.visited (.borrow (.ask q)) (.ok a)).2 w' := by
  obtain ⟨path, hplaces, hquiet⟩ | hquiet := h
  · obtain ⟨n, notes, t, -, hruns, ⟨hlasts, -⟩, -⟩ := hquiet.store.answers hplaces hst hbound ha
    obtain ⟨w', hreturns, -⟩ := Returns.of_runs hruns hquiet.locks hlasts
    exact ⟨w', hreturns⟩
  · obtain ⟨n, notes, t, -, hruns, hmemory, -⟩ := hquiet.store.answers hst hbound ha
    obtain ⟨w', hreturns, -⟩ := Returns.of_runs hruns hquiet.locks hmemory
    exact ⟨w', hreturns⟩

/-- **Everybody is loaded.** -/
theorem loads (h : w.Serving) (x y : String) :
    w.Loads x y ((recordAt w.store.rows (.text x) (.text y)).map .character) := by
  refine ⟨?_, ?_⟩
  · cases hrecord : recordAt w.store.rows (.text x) (.text y) with
    | ok c => exact .inl rfl
    | error e => exact (isUnfetchable_or_of_error hrecord).imp_right fun h => ⟨e, rfl, h⟩
  · have hstatement : NeedsTable (Question.character (.text x) (.text y)).statement :=
      needsTable_character
    exact h.answers hstatement rfl fun d htable hrows => select_of_rows htable hrows x y

/-- **The rows are counted.** -/
theorem counts (h : w.Serving) : w.Counts w.store.rows.length := by
  have hstatement : NeedsTable Question.count.statement := needsTable_count
  refine h.answers hstatement rfl ?_
  intro d htable hrows
  obtain ⟨t, ht⟩ := Option.isSome_iff_exists.1 htable
  simp [Question.ask, Database.count, ht, ← hrows, Database.rows]

end World.Serving

/-! ### The laws together -/

/-- What saving a record has changed between two worlds. -/
structure HasSaved (w : World) (c : Character) (w' : World) : Prop where
  calm : w'.Calm
  /-- The record is loaded by its key, and by every other key what was loaded before. -/
  loads : ∀ x y r, w'.Loads x y r →
    (c.channel = x ∧ c.user = y → r = .ok (.character c)) ∧
      (¬ (c.channel = x ∧ c.user = y) → ∀ r₀, w.Loads x y r₀ → r = r₀)
  /-- There is one character more if the key had no row. -/
  counts : ∀ n n', w.Counts n → w'.Counts n' →
    n' = if rowAt w.store.rows (.text c.channel) (.text c.user) = none then n + 1 else n
  /-- Saving the record again changes nothing. -/
  again : ∀ w'', w'.Saves c w'' → w''.store.rows = w'.store.rows ∧ w'.Agrees w''
  /-- Another record of the key makes it as if this one had not been saved. -/
  overwritten : ∀ c' w'' v, c.channel = c'.channel → c.user = c'.user → w'.Saves c' w'' →
    w.Saves c' v → w''.store.rows = v.store.rows ∧ w''.Agrees v
  /-- A record of another key can be saved before or after it. -/
  commutes : ∀ c' w'' v v', ¬ (c.channel = c'.channel ∧ c.user = c'.user) → w'.Saves c' w'' →
    w.Saves c' v → v.Saves c v' → w''.store.rows.Perm v'.store.rows ∧ w''.Agrees v'

theorem World.Calm.hasSaved {w w' : World} {c : Character} (h : w.Calm) (hsaves : w.Saves c w') :
    HasSaved w c w' := by
  obtain ⟨hcalm, hrows⟩ := h.saves hsaves
  refine ⟨hcalm, fun x y r => h.loads_of_saves hsaves, fun n n' => h.counts_of_saves hsaves, ?_, ?_,
    fun c' w'' v v' hkeys => h.saves_comm hkeys hsaves⟩
  · intro w'' hagain
    obtain ⟨hcalm', -⟩ := hcalm.saves hagain
    have hsame := h.rows_of_overwrites rfl rfl hsaves hagain hsaves
    exact ⟨hsame, hcalm.agrees hcalm' (fun x y => by rw [hsame]) (by rw [hsame])⟩
  · intro c' w'' v hchannel huser hsecond honly
    obtain ⟨hcalm', -⟩ := hcalm.saves hsecond
    obtain ⟨hcalmOnly, -⟩ := h.saves honly
    have hsame := h.rows_of_overwrites hchannel huser hsaves hsecond honly
    exact ⟨hsame, hcalm'.agrees hcalmOnly (fun x y => by rw [hsame]) (by rw [hsame])⟩

/-- **What is saved is loaded.**  Every table has a world whose store serves: there every record is
saved, everybody is loaded and the rows are counted.  In every calm world, by whatever steps the calls
come back, a record that has been saved is loaded as it was and changes nothing else but the count,
and one that could not be saved changes nothing. -/
theorem saves_then_loads :
    (∀ (rows : List Row) (size : Int) (dice : Dice.Entropy), 1 ≤ size →
      (World.withRows rows size dice).Calm ∧ (World.withRows rows size dice).Serving ∧
        (World.withRows rows size dice).store.rows = rows) ∧
      (∀ w : World, w.Serving → (∀ c, ∃ w', w.Saves c w' ∧ w'.Serving) ∧
        (∀ x y, ∃ r, w.Loads x y r) ∧ ∃ n, w.Counts n) ∧
      ∀ (w : World) (c : Character), w.Calm →
        (∀ w', w.Saves c w' → HasSaved w c w') ∧
        ∀ e w', Returns w (.save c) (.error e) w' →
          w'.Calm ∧ w'.store.rows = w.store.rows ∧ w.Agrees w' := by
  refine ⟨?_, ?_, ?_⟩
  · intro rows size dice hplaces
    obtain ⟨hcalm, hserving⟩ := World.serving_withRows rows hplaces dice
    exact ⟨hcalm, hserving, World.rows_withRows rows size dice⟩
  · intro w hserving
    exact ⟨hserving.saves, fun x y => ⟨_, hserving.loads x y⟩, _, hserving.counts⟩
  · intro w c hcalm
    exact ⟨fun w' => hcalm.hasSaved, fun e w' hfails => ⟨(hfails.save hcalm).1,
      hcalm.agrees_of_fails hfails⟩⟩

end CharacterLedger.Ledger
