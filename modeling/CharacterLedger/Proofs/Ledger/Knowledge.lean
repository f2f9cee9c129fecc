import CharacterLedger.Proofs.Ledger.Lookup

/-!
# What tasks know of the rows

A task reads the row of its character and uses it some steps later.  What it has read stays true in
between, because it holds the lock of its character, and whoever writes a row holds the lock of that
row.

* `Answers`, `System.answers` — a task that asks for a character is answered with its row;
* `Seen` — what a task knows of the rows before it ends;
* `Task.seen_of_moves` — a task knows what it has read itself;
* `System.seen_of_step` — what a task knows stays true when another takes a step.
-/

namespace CharacterLedger.Ledger

open CharacterLedger.Storage CharacterLedger.Table

/-! ### What a task is answered -/

/-- If the task asks for a character, it is answered with the row among these. -/
def Answers (s : Store) (rows : List Row) (st : Stage) : Prop :=
  ∀ channel user q c row,
    st.visit? = some ⟨.borrow (.ask (.character channel user)), .working q c⟩ →
      s.CarriedOut c (Question.character channel user).ask row → row = rowAt rows channel user

/-- **Whoever asks for a character is answered with its row.** -/
theorem System.answers {s : System} (hsound : s.Sound) (hone : s.OneDatabase) {id : Nat} {t : Task}
    (ht : s.tasks[id]? = some t) : Answers s.world.store s.rows t.stage := by
  intro channel user q c row hvisit hcarried
  have hlends : s.visits id =
      some ⟨.borrow (.ask (.character channel user)), .working q c⟩ := by
    rw [System.visits, ht]
    exact hvisit
  exact System.row_of_answer hsound hone hlends hcarried

/-! ### What a task knows -/

/-- A task that has read a record knows the row as it still is, and a task that is to write one has
made it of the record as it still is. -/
def Seen (rows : List Row) : Stage → Prop
  | .loading _ channel user _ (.returning _ _ row) => row = rowAt rows channel user
  | .saving _ channel user adjustment changed _ =>
    ∃ c, recordAt rows channel user = .ok c ∧
      Task.adjust c adjustment.action adjustment.delta = .ok (adjustment, changed)
  | _ => True

/-- The key of the lock of a character. -/
def lockKey (key : String × String) : Key := ⟨.text key.1, .text key.2⟩

theorem lockKey_inj {key key' : String × String} (h : lockKey key = lockKey key') : key = key' := by
  obtain ⟨x, y⟩ := key
  obtain ⟨x', y'⟩ := key'
  simp only [lockKey, Key.mk.injEq, KeyPart.text.injEq] at h
  exact Prod.ext h.1 h.2

/-- A call that is about a character, if about any, with a key of texts. -/
def Call.HasTexts (call : Call) : Prop :=
  ∀ channel user use, call.use? = some (channel, user, use) →
    ∃ x y, channel = .text x ∧ user = .text y

namespace Task

variable {id : Nat} {call : Call} {s s' : Store} {l l' : KeyLocks} {st st' : Stage}
  {rows rows' : List Row}

/-- The record that is loaded is the one at the key. -/
theorem recordAt_of_loaded {id : Nat} {s t : Store} {lock : Nat} {channel user : Value} {use : Use}
    {phase : Phase (Purpose.borrow (.ask (.character channel user))).Answer}
    {r : Errand.Result (.ask (.character channel user))} {c : Character}
    (hseen : Seen rows (.loading lock channel user use phase))
    (hmove : Visit.Moves id (.borrow (.ask (.character channel user))) s phase t (.ended r))
    (hloaded : (loaded channel user r).2 = .ok c) : recordAt rows channel user = .ok c := by
  cases r with
  | error failure =>
    simp only [loaded] at hloaded
    cases hloaded
  | ok row =>
    obtain ⟨q, connection, rfl⟩ := hmove.given
    have hrow : row = rowAt rows channel user := hseen
    rw [recordAt, ← hrow]
    exact hloaded

/-- A step that writes no record leaves the rows. -/
theorem rows_eq_of_not_commits
    (hrows : (∃ changed, Commits st st' changed ∧
        rows' = CharacterTable.replaceRow (Row.ofCharacter changed) rows) ∨
      rows' = rows ∧ ∀ changed, ¬ Commits st st' changed)
    (hno : ∀ changed, ¬ Commits st st' changed) : rows' = rows := by
  obtain ⟨changed, hcommits, -⟩ | ⟨hsame, -⟩ := hrows
  · exact absurd hcommits (hno changed)
  · exact hsame

/-- A task knows what it has read itself. -/
theorem seen_of_moves (hmove : Moves id call s l st s' l' st') (hseen : Seen rows st)
    (hanswers : Answers s rows st)
    (hrows : (∀ changed, ¬ Commits st st' changed) → rows' = rows) : Seen rows' st' := by
  cases hmove with
  | @load lock channel user use phase next t move =>
    rw [hrows fun _ h => by cases h]
    cases next with
    | returning q c row =>
      obtain ⟨rfl, hcarried⟩ := move.answered
      exact hanswers channel user q c row rfl hcarried
    | entering | awaitingOpening | connecting | preparing | abandoning | awaiting | checking
    | replacing | working | committing | undoing => exact trivial
  | @adjusts lock channel user a delta phase t r c changed adjustment move reads adjusted =>
    rw [hrows fun _ h => by cases h]
    obtain ⟨-, -, hadjustment⟩ := adjust_eq_ok adjusted
    refine ⟨c, recordAt_of_loaded hseen move reads, ?_⟩
    rw [hadjustment] at adjusted ⊢
    exact adjusted
  | save =>
    rw [hrows fun _ h => by cases h]
    exact hseen
  | refuse | rollAtOnce | closeNothing | closeAtOnce | goVisiting | goClosing | reach | reachToHold
  | acquire | acquireToHold | closeNext | closed | visit | visited | loadFails | used | cannotAdjust
  | saveFails | saved | letGo => exact trivial

/-- What a task knows is about the row of its character only, and it holds the lock. -/
theorem seen_congr (htexts : call.HasTexts) (hseen : Seen rows st) (hfits : Fits call st)
    (hsame : ∀ lock key, st.lock? = some (lock, true) → call.key? = some (lockKey key) →
      rowAt rows' (.text key.1) (.text key.2) = rowAt rows (.text key.1) (.text key.2)) :
    Seen rows' st := by
  cases st with
  | loading lock channel user use phase =>
    obtain ⟨x, y, rfl, rfl⟩ := htexts channel user use hfits.1
    cases phase with
    | returning q c row =>
      exact hseen.trans (hsame lock (x, y) rfl (Call.key?_of_use? hfits.1)).symm
    | entering | awaitingOpening | connecting | preparing | abandoning | awaiting | checking
    | replacing | working | committing | undoing => exact trivial
  | saving lock channel user a changed phase =>
    obtain ⟨x, y, rfl, rfl⟩ := htexts channel user _ hfits.1
    obtain ⟨c, hrecord, hadjust⟩ := hseen
    refine ⟨c, ?_, hadjust⟩
    rw [recordAt, hsame lock (x, y) rfl (Call.key?_of_use? hfits.1)]
    exact hrecord
  | ready | visiting | closing | queued | queuedToHold | holding | done => exact trivial

/-- Whoever writes a record holds the lock of its character. -/
theorem standing_of_commits {t : Task} {changed : Character} (htexts : t.call.HasTexts)
    (hfits : Fits t.call t.stage) (hseen : Seen rows t.stage)
    (hcommits : Commits t.stage st' changed) :
    ∃ lock, t.standing? = some ⟨lock, lockKey (Row.ofCharacter changed).key, true⟩ := by
  obtain ⟨lock, hlock⟩ := hcommits.holds
  generalize hs : t.stage = st at hcommits hfits hseen
  cases hcommits with
  | adjusted =>
    obtain ⟨x, y, rfl, rfl⟩ := htexts _ _ _ hfits.1
    obtain ⟨c, hrecord, hadjust⟩ := hseen
    obtain ⟨-, hfield, -⟩ := adjust_eq_ok hadjust
    obtain ⟨hchannel, huser, -⟩ := (Character.withField_eq_ok_iff _ _).1 hfield
    obtain ⟨hx, hy⟩ := key_of_recordAt_text hrecord
    refine ⟨lock, standing?_of_lock? hlock ?_⟩
    rw [Call.key?_of_use? hfits.1, lockKey, Row.key]
    simp only [Row.ofCharacter, hchannel, huser, hx, hy]
    rfl

end Task

/-- **What the others know stays true**: whoever writes a row holds the lock of its character. -/
theorem System.seen_of_step {s s' : System} {id : Nat} {t t' : Task} (hsound : s.Sound)
    (htexts : ∀ (id : Nat) (t : Task), s.tasks[id]? = some t → t.call.HasTexts)
    (hseen : ∀ (id : Nat) (t : Task), s.tasks[id]? = some t → Seen s.rows t.stage)
    (ht : s.tasks[id]? = some t)
    (hrows : (∃ changed, Task.Commits t.stage t'.stage changed ∧
        s'.rows = CharacterTable.replaceRow (Row.ofCharacter changed) s.rows) ∨
      s'.rows = s.rows ∧ ∀ changed, ¬ Task.Commits t.stage t'.stage changed)
    {other : Nat} {u : Task} (hu : s.tasks[other]? = some u) (hne : other ≠ id) :
    Seen s'.rows u.stage := by
  obtain ⟨changed, hcommits, hrows⟩ | ⟨hrows, -⟩ := hrows
  · refine Task.seen_congr (htexts other u hu) (hseen other u hu) (hsound.fits other u hu) ?_
    intro lock key hlock hkey
    rw [hrows]
    apply rowAt_replaceRow_of_ne
    intro hsame
    obtain ⟨lock', hstanding'⟩ :=
      Task.standing_of_commits (htexts id t ht) (hsound.fits id t ht) (hseen id t ht) hcommits
    have hstanding : s.standing other = some ⟨lock, lockKey key, true⟩ := by
      rw [System.standing, hu]
      exact Task.standing?_of_lock? hlock hkey
    have hholds : s.standing id = some ⟨lock', lockKey key, true⟩ := by
      rw [System.standing, ht, Option.bind_some, hstanding', hsame]
    exact hne (hsound.locks.holder_unique hstanding hholds rfl rfl rfl)
  · rw [hrows]
    exact hseen other u hu

end CharacterLedger.Ledger
