import CharacterLedger.Proofs.Ledger.Alone

/-!
# What every run keeps

Whatever orders are executed, in whatever order their tasks take their steps, and whatever fails on
the way, the table stays one of valid rows with distinct keys, and no row is lost.  A row comes by
an adjustment that succeeds, and in no other way.

* `Keyed` — the record that a task has read, or is to write, has the key that the task was given;
* `System.Adjusted` — an adjustment of a key has succeeded;
* `Kept`, `Kept.step` — the invariant, and that every step preserves it;
* `Run.keeps_table` — what it says of every run.
-/

namespace CharacterLedger.Ledger

open CharacterLedger.Storage CharacterLedger.Table

/-! ### Adjustments -/

/-- Only an intent to adjust a rating is planned as an adjustment. -/
theorem Intent.eq_adjust_of_plan {i : Intent} {channel user : Value} {a : Action} {delta : Value}
    (h : i.plan = .withCharacter channel user (.adjust a delta)) :
    ∃ name, i = .adjust channel user name delta := by
  cases i with
  | adjust channel' user' name delta' =>
    simp only [plan] at h
    split at h
    · cases h
    · cases h
      exact ⟨name, rfl⟩
  | roll channel' user' name bonus =>
    simp only [plan] at h
    split at h
    · cases h
    · split at h <;> cases h
  | resist | dice =>
    simp only [plan] at h
    split at h <;> cases h
  | view | unsupported => cases h

theorem Call.intent?_of_use? {call : Call} {channel user : Value} {a : Action} {delta : Value}
    (h : call.use? = some (channel, user, .adjust a delta)) :
    ∃ name, call.intent? = some (.adjust channel user name delta) := by
  cases call with
  | execute o =>
    obtain ⟨name, hname⟩ :=
      Intent.eq_adjust_of_plan (Order.plan_eq (use?_execute_eq_some_iff.1 h) fun _ h => nomatch h)
    exact ⟨name, congrArg some hname⟩
  | rating channel' user' name =>
    simp only [use?] at h
    split at h <;> cases h
  | borrow | openPool | closePool | holdLock => cases h

/-- An intent to adjust a rating is about its character. -/
theorem Call.use?_adjust {call : Call} {channel user name delta channel' user' : Value} {use : Use}
    (hcall : call.intent? = some (.adjust channel user name delta))
    (h : call.use? = some (channel', user', use)) :
    channel' = channel ∧ user' = user ∧ ∃ a, readAction name = .ok a ∧ use = .adjust a delta := by
  cases call with
  | execute o =>
    have hadjust := Order.plan_eq (use?_execute_eq_some_iff.1 h) fun _ h => nomatch h
    rw [Option.some.inj hcall, Intent.plan] at hadjust
    cases hn : readAction name with
    | error e =>
      rw [hn] at hadjust
      cases hadjust
    | ok a =>
      rw [hn] at hadjust
      cases hadjust
      exact ⟨rfl, rfl, a, rfl, rfl⟩
  | rating | borrow | openPool | closePool | holdLock => cases hcall

namespace Task

variable {id : Nat} {call : Call} {s s' : Store} {l l' : KeyLocks} {st st' : Stage}

/-- **An intent to adjust a rating succeeds only by writing a record.** -/
theorem commits_of_adjust {channel user name delta : Value} {reply : Reply}
    (hcall : call.intent? = some (.adjust channel user name delta))
    (hmove : Moves id call s l st s' l' st') (hfits : Fits call st)
    (hdone : st' = .done (.ok reply)) :
    ∃ changed, Commits st st' changed := by
  cases hmove with
  | saved => exact ⟨_, .adjusted⟩
  | used _ _ gives =>
    obtain ⟨-, -, a, -, rfl⟩ := Call.use?_adjust hcall hfits.1
    exact gives.elim
  | rollAtOnce executes rolls =>
    subst executes
    obtain ⟨n, hdice⟩ := Intent.plan_eq_rollDice (Order.plan_eq rolls fun _ h => nomatch h)
    cases hdice.symm.trans (Option.some.inj hcall)
  | closeNothing closes | closeAtOnce closes =>
    subst closes
    cases hcall
  | closed =>
    subst hfits
    cases hcall
  | visited =>
    cases call with
    | borrow | openPool => cases hcall
    | execute | rating | closePool | holdLock => cases hfits
  | letGo =>
    obtain ⟨hnone, key, hkey⟩ := hfits
    obtain ⟨_, _, rfl⟩ := Call.exists_holdLock hnone hkey
    cases hcall
  | refuse | loadFails | cannotAdjust | saveFails => cases hdone
  | goVisiting | goClosing | reach | reachToHold | acquire | acquireToHold | closeNext | visit
  | load | adjusts | save => cases hdone

/-- The record that a task has read, or is to write, has the key that the task was given. -/
def Keyed : Stage → Prop
  | .loading _ channel user _ (.returning _ _ row) => ∀ r, row = some r →
    Database.keyTexts channel user = .ok (some r.channel, some r.user)
  | .saving _ channel user _ changed _ =>
    Database.keyTexts channel user = .ok (some changed.channel, some changed.user)
  | _ => True

theorem keyed_of_moves (hmove : Moves id call s l st s' l' st') (hkeyed : Keyed st)
    (hread : ∀ channel user q c row,
      st.visit? = some ⟨.borrow (.ask (.character channel user)), .working q c⟩ →
      s.CarriedOut c (Question.character channel user).ask row →
      ∀ r, row = some r → Database.keyTexts channel user = .ok (some r.channel, some r.user)) :
    Keyed st' := by
  cases hmove with
  | @load lock channel user use phase next t move =>
    cases next with
    | returning q c row =>
      obtain ⟨rfl, hcarried⟩ := move.answered
      exact hread channel user q c row rfl hcarried
    | entering | awaitingOpening | connecting | preparing | abandoning | awaiting | checking
    | replacing | working | committing | undoing => exact trivial
  | @adjusts lock channel user a delta phase t r c changed adjustment move reads adjusted =>
    obtain ⟨-, hfield, -⟩ := adjust_eq_ok adjusted
    obtain ⟨hchannel, huser, -⟩ := (Character.withField_eq_ok_iff _ _).1 hfield
    show Database.keyTexts channel user = .ok (some changed.channel, some changed.user)
    rw [hchannel, huser]
    cases r with
    | error failure =>
      simp only [loaded] at reads
      cases reads
    | ok row =>
      obtain ⟨q, connection, rfl⟩ := move.given
      exact key_of_loaded hkeyed reads
  | save => exact hkeyed
  | refuse | rollAtOnce | closeNothing | closeAtOnce | goVisiting | goClosing | reach | reachToHold
  | acquire | acquireToHold | closeNext | closed | visit | visited | loadFails | used | cannotAdjust
  | saveFails | saved | letGo => exact trivial

/-- A step writes a record only for an intent to adjust a rating, which it ends. -/
theorem adjust_of_commits {changed : Character} (hcommits : Commits st st' changed)
    (hfits : Fits call st) :
    ∃ channel user name delta reply, call.intent? = some (.adjust channel user name delta) ∧
      st' = .done (.ok reply) := by
  cases hcommits with
  | adjusted =>
    obtain ⟨name, hcall⟩ := Call.intent?_of_use? hfits.1
    exact ⟨_, _, name, _, _, hcall, rfl⟩

/-- The record that is written for an intent has its key. -/
theorem key_of_commits {channel user name delta : Value} {changed : Character}
    (hcall : call.intent? = some (.adjust channel user name delta))
    (hcommits : Commits st st' changed) (hkeyed : Keyed st) (hfits : Fits call st) :
    Database.keyTexts channel user = .ok (some changed.channel, some changed.user) := by
  cases hcommits with
  | adjusted =>
    obtain ⟨rfl, rfl, -⟩ := Call.use?_adjust hcall hfits.1
    exact hkeyed

end Task

section Changes

variable {s s' : System} {id : Nat}

theorem System.intent?_eq_some_iff {i : Intent} :
    s.calls[id]?.bind Call.intent? = some i ↔
      ∃ t, s.tasks[id]? = some t ∧ t.call.intent? = some i := by
  rw [Option.bind_eq_some_iff]
  constructor
  · rintro ⟨call, hcall, hi⟩
    obtain ⟨t, ht, rfl⟩ := getElem?_calls_eq_some_iff.1 hcall
    exact ⟨t, ht, hi⟩
  · rintro ⟨t, ht, hi⟩
    exact ⟨t.call, getElem?_calls_eq_some_iff.2 ⟨t, ht, rfl⟩, hi⟩

/-- **A step that changes the rows ends an intent to adjust a rating, which succeeds.** -/
theorem System.adjust_of_rows_ne (hsound : s.Sound) (hone : s.OneDatabase) {choice : Choice}
    (hstep : s.step id choice = some s') (hchanged : s'.rows ≠ s.rows) :
    ∃ channel user name delta reply,
      s.calls[id]?.bind Call.intent? = some (.adjust channel user name delta) ∧
      s'.result? id = some (.ok reply) := by
  obtain ⟨t, t', ht, hset, -, hmove⟩ := moves_of_step hstep
  obtain ⟨changed, hcommits, -⟩ | ⟨hsame, -⟩ := rows_of_move hsound hone ht hset hmove
  · obtain ⟨channel, user, name, delta, reply, htcall, hdone⟩ :=
      Task.adjust_of_commits hcommits (hsound.fits id t ht)
    exact ⟨channel, user, name, delta, reply, intent?_eq_some_iff.2 ⟨t, ht, htcall⟩,
      result?_eq_some_iff.2 ⟨t', (tasks_of_set ht hset).1, hdone⟩⟩
  · exact absurd hsame hchanged

/-- In a run in which no adjustment has succeeded, the rows have not changed. -/
theorem Run.rows_eq {s₀ : System} {es : List Event} (h : Run s₀ es s) (hsound : s₀.Sound)
    (hone : s₀.OneDatabase)
    (hnone : ∀ id channel user name delta reply,
      s₀.calls[id]?.bind Call.intent? = some (.adjust channel user name delta) →
      s.result? id ≠ some (.ok reply)) : s.rows = s₀.rows := by
  induction h with
  | start => rfl
  | @step es s s' id choice run step ih =>
    have hbefore : s.rows = s₀.rows := by
      apply ih
      intro other channel user name delta reply hother hdone
      exact hnone other channel user name delta reply hother (System.result?_of_step step hdone)
    rw [← hbefore]
    refine Decidable.by_contra fun hchanged => ?_
    obtain ⟨channel, user, name, delta, reply, hcall, hdone⟩ :=
      System.adjust_of_rows_ne (run.sound hsound) (run.oneDatabase hsound hone) step hchanged
    exact hnone id channel user name delta reply (run.calls ▸ hcall) hdone
  | forget _ ih => exact ih hnone

end Changes

/-! ### The invariant -/

/-- An intent to adjust a rating of the character has succeeded. -/
def System.Adjusted (s : System) (key : String × String) : Prop :=
  ∃ (id : Nat) (channel user name delta : Value) (reply : Reply),
    s.calls[id]?.bind Call.intent? = some (.adjust channel user name delta) ∧
    Database.keyTexts channel user = .ok (some key.1, some key.2) ∧
    s.result? id = some (.ok reply)

/-- What is true of a system that began with some rows. -/
structure Kept (before : List Row) (s : System) : Prop where
  valid : ∀ r, r ∈ s.rows → r.IsValid
  once : (s.rows.map Row.key).Nodup
  keys : ∀ key, key ∈ s.rows.map Row.key ↔ key ∈ before.map Row.key ∨ s.Adjusted key
  keyed : ∀ (id : Nat) (t : Task), s.tasks[id]? = some t → Task.Keyed t.stage

section Step

variable {s s' : System} {id : Nat} {t t' : Task} {key : String × String}

/-- What the last step of an intent adds to the adjusted characters. -/
theorem System.adjusted_of_step {choice : Choice} (hstep : s.step id choice = some s')
    (ht : s.tasks[id]? = some t) (hset : s'.tasks = s.tasks.set id t') (hcall : t'.call = t.call) :
    s'.Adjusted key ↔ s.Adjusted key ∨ ∃ channel user name delta reply,
      t.call.intent? = some (.adjust channel user name delta) ∧
      Database.keyTexts channel user = .ok (some key.1, some key.2) ∧
      t'.stage = .done (.ok reply) := by
  obtain ⟨ht', hothers⟩ := tasks_of_set ht hset
  constructor
  · rintro ⟨other, channel, user, name, delta, reply, hother, hkey, hdone⟩
    obtain ⟨u, hu, hstage⟩ := result?_eq_some_iff.1 hdone
    by_cases heq : other = id
    · subst heq
      rw [ht', Option.some.injEq] at hu
      subst hu
      obtain ⟨u, hu, hucall⟩ := intent?_eq_some_iff.1 hother
      rw [ht', Option.some.injEq] at hu
      subst hu
      exact .inr ⟨channel, user, name, delta, reply, hcall ▸ hucall, hkey, hstage⟩
    · rw [calls_of_step hstep] at hother
      rw [hothers other heq] at hu
      exact .inl ⟨other, channel, user, name, delta, reply, hother, hkey,
        result?_eq_some_iff.2 ⟨u, hu, hstage⟩⟩
  · rintro (⟨other, channel, user, name, delta, reply, hother, hkey, hdone⟩ |
      ⟨channel, user, name, delta, reply, htcall, hkey, hdone⟩)
    · rw [← calls_of_step hstep] at hother
      exact ⟨other, channel, user, name, delta, reply, hother, hkey, result?_of_step hstep hdone⟩
    · exact ⟨id, channel, user, name, delta, reply,
        intent?_eq_some_iff.2 ⟨t', ht', by rw [hcall]; exact htcall⟩, hkey,
        result?_eq_some_iff.2 ⟨t', ht', hdone⟩⟩

/-- **A step of any task preserves the invariant.** -/
theorem Kept.step {before : List Row} (h : Kept before s) (hsound : s.Sound) (hone : s.OneDatabase)
    {choice : Choice} (hstep : s.step id choice = some s') : Kept before s' := by
  obtain ⟨t, t', ht, hset, hcall, hmove⟩ := System.moves_of_step hstep
  have hfits := hsound.fits id t ht
  have hkeyed := h.keyed id t ht
  have hkeyed' : ∀ (other : Nat) (u : Task), s'.tasks[other]? = some u → Task.Keyed u.stage := by
    intro other u hu
    obtain ⟨-, rfl⟩ | hold := System.task_of_step hset hu
    · refine Task.keyed_of_moves hmove hkeyed ?_
      intro channel user q c row hvisit hcarried r hr
      have hrow := System.row_of_answer hsound hone
        ((System.visits_of_step ht hset).1.trans hvisit) hcarried
      exact key_of_rowAt (hrow.symm.trans hr)
    · exact h.keyed other u hold
  have hadjusted : ∀ key, s'.Adjusted key ↔ s.Adjusted key ∨ _ :=
    fun _ => System.adjusted_of_step hstep ht hset hcall
  obtain ⟨changed, hcommits, hrows⟩ | ⟨hrows, hno⟩ := System.rows_of_move hsound hone ht hset hmove
  · refine ⟨?_, ?_, ?_, hkeyed'⟩
    · intro r hr
      rw [hrows] at hr
      obtain rfl | hold := CharacterTable.mem_replaceRow hr
      · exact Row.isValid_ofCharacter changed
      · exact h.valid r hold
    · rw [hrows]
      exact CharacterTable.nodup_keys_replaceRow _ h.once
    · intro key
      rw [hrows, CharacterTable.mem_keys_replaceRow, h.keys, hadjusted]
      have hnew : key = (Row.ofCharacter changed).key ↔ ∃ channel user name delta reply,
          t.call.intent? = some (.adjust channel user name delta) ∧
          Database.keyTexts channel user = .ok (some key.1, some key.2) ∧
          t'.stage = .done (.ok reply) := by
        constructor
        · rintro rfl
          obtain ⟨channel, user, name, delta, reply, htcall, hdone⟩ :=
            Task.adjust_of_commits hcommits hfits
          exact ⟨channel, user, name, delta, reply, htcall,
            Task.key_of_commits htcall hcommits hkeyed hfits, hdone⟩
        · rintro ⟨channel, user, name, delta, reply, htcall, hkey, -⟩
          rw [Task.key_of_commits htcall hcommits hkeyed hfits] at hkey
          simp only [Except.ok.injEq, Prod.mk.injEq, Option.some.injEq] at hkey
          exact Prod.ext hkey.1.symm hkey.2.symm
      rw [hnew]
      exact or_comm.trans or_assoc
  · have hsame : ∀ key, s'.Adjusted key ↔ s.Adjusted key := by
      intro key
      rw [hadjusted, or_iff_left]
      rintro ⟨channel, user, name, delta, reply, htcall, -, hdone⟩
      obtain ⟨changed, hcommits⟩ := Task.commits_of_adjust htcall hmove hfits hdone
      exact hno changed hcommits
    refine ⟨?_, ?_, ?_, hkeyed'⟩
    · rw [hrows]
      exact h.valid
    · rw [hrows]
      exact h.once
    · intro key
      rw [hrows, h.keys, hsame]

end Step

/-- Before anybody has begun, the rows are those that there were. -/
theorem Kept.start {w : World} {calls : List Call} (hvalid : ∀ r, r ∈ w.store.rows → r.IsValid)
    (honce : (w.store.rows.map Row.key).Nodup) : Kept w.store.rows (System.start w calls) := by
  refine ⟨hvalid, honce, ?_, ?_⟩
  · intro key
    refine ⟨.inl, ?_⟩
    rintro (hkey | ⟨id, _, _, _, _, _, -, -, hdone⟩)
    · exact hkey
    · obtain ⟨t, ht, hdone⟩ := System.result?_eq_some_iff.1 hdone
      rw [(System.stage_of_start ht).2] at hdone
      cases hdone
  · intro id t ht
    rw [(System.stage_of_start ht).2]
    exact trivial

/-! ### Counting -/

namespace Task

variable {id : Nat} {s s' : Store} {l l' : KeyLocks} {st st' : Stage}

/-- The rows are counted while the visit has its connection. -/
theorem count_of_moves (hmove : Moves id (.borrow (.ask .count)) s l st s' l' st')
    (hfits : Fits (.borrow (.ask .count)) st) {q c n : Nat}
    (hvisit : st'.visit? = some ⟨.borrow (.ask .count), .returning q c n⟩) :
    st.visit? = some ⟨.borrow (.ask .count), .working q c⟩ ∧
      s.CarriedOut c Question.count.ask n := by
  cases hmove with
  | @visit p phase next t move =>
    cases hvisit
    obtain ⟨rfl, hcarried⟩ := move.answered
    exact ⟨rfl, hcarried⟩
  | load => cases hfits.1
  | adjusts => cases hfits.1
  | save => cases hfits.1
  | goVisiting | acquire => cases hvisit
  | refuse | rollAtOnce | closeNothing | closeAtOnce | goClosing | reach | reachToHold
  | acquireToHold | closeNext | closed | visited | loadFails | used | cannotAdjust | saveFails
  | saved | letGo => cases hvisit

/-- A count that comes back has been counted before. -/
theorem count_of_done (hmove : Moves id (.borrow (.ask .count)) s l st s' l' st')
    (hfits : Fits (.borrow (.ask .count)) st) {n : Nat} (hdone : st' = .done (.ok (.count n))) :
    ∃ q c, st.visit? = some ⟨.borrow (.ask .count), .returning q c n⟩ := by
  cases hmove with
  | @visited p phase t r move =>
    cases hfits
    cases r with
    | error failure =>
      simp only [Task.visited, counted] at hdone
      cases hdone
    | ok m =>
      simp only [Task.visited, counted, Except.map] at hdone
      cases hdone
      obtain ⟨q, c, rfl⟩ := move.given
      exact ⟨q, c, rfl⟩
  | used => cases hfits.1
  | rollAtOnce executes => cases executes
  | closeNothing | closeAtOnce | closed | letGo | saved => cases hdone
  | refuse | loadFails | cannotAdjust | saveFails => cases hdone
  | goVisiting | goClosing | reach | reachToHold | acquire | acquireToHold | closeNext | visit
  | load | adjusts | save => cases hdone

end Task

/-- In a run between two systems there was a moment at which the visit of a task for a count had its
connection and the table had `n` keys. -/
def CountedBetween (s₀ s : System) (id n : Nat) : Prop :=
  ∃ es₁ s₁ es₂ q c, Run s₀ es₁ s₁ ∧ Run s₁ es₂ s ∧
    s₁.visits id = some ⟨.borrow (.ask .count), .working q c⟩ ∧
    n = (s₁.rows.map Row.key).length

theorem CountedBetween.later {s₀ s s' : System} {es : List Event} {id n : Nat}
    (h : CountedBetween s₀ s id n) (hrun : Run s es s') : CountedBetween s₀ s' id n := by
  obtain ⟨es₁, s₁, es₂, q, c, hrun₁, hrun₂, hvisit, hn⟩ := h
  exact ⟨es₁, s₁, es₂ ++ es, q, c, hrun₁, hrun₂.trans hrun, hvisit, hn⟩

/-- **A count is the number of keys at a moment of its visit.** -/
theorem Run.rows_counted {s₀ s : System} {es : List Event} (h : Run s₀ es s) (hsound : s₀.Sound)
    (hone : s₀.OneDatabase)
    (hready : ∀ (id : Nat) (t : Task), s₀.tasks[id]? = some t → t.stage = .ready) {id n : Nat}
    (hcall : s₀.calls[id]? = some (.borrow (.ask .count)))
    (hcount : (∃ q c, s.visits id = some ⟨.borrow (.ask .count), .returning q c n⟩) ∨
      s.result? id = some (.ok (.count n))) : CountedBetween s₀ s id n := by
  induction h with
  | start =>
    obtain ⟨q, c, hvisit⟩ | hdone := hcount
    · obtain ⟨t, ht, hvisit⟩ := Option.bind_eq_some_iff.1 hvisit
      rw [hready id t ht] at hvisit
      cases hvisit
    · obtain ⟨t, ht, hdone⟩ := System.result?_eq_some_iff.1 hdone
      rw [hready id t ht] at hdone
      cases hdone
  | @step es s s' mover choice run step ih =>
    obtain ⟨t, t', ht, hset, hcallSame, hmove⟩ := System.moves_of_step step
    obtain ⟨hbefore, hafter, hothers⟩ := System.visits_of_step ht hset
    by_cases hid : id = mover
    · subst hid
      have hsoundNow := run.sound hsound
      obtain ⟨u, hu, hucall⟩ := System.getElem?_calls_eq_some_iff.1 (run.calls ▸ hcall)
      rw [ht, Option.some.injEq] at hu
      subst hu
      have hfits := hsoundNow.fits id t ht
      rw [hucall] at hmove hfits
      obtain ⟨q, c, hvisit⟩ | hdone := hcount
      · rw [hafter] at hvisit
        obtain ⟨hworking, hcarried⟩ := Task.count_of_moves hmove hfits hvisit
        have hvisitNow := hbefore.trans hworking
        have honeNow := run.oneDatabase hsound hone
        have hn := Database.count_eq_ok (honeNow.place.answer_eq hsoundNow.store.slots
          hsoundNow.store.drafts hvisitNow hcarried)
        exact ⟨_, s, _, q, c, run, Run.start.step step, hvisitNow,
          hn.trans (List.length_map _).symm⟩
      · obtain ⟨u, hu, hdone⟩ := System.result?_eq_some_iff.1 hdone
        rw [(System.tasks_of_set ht hset).1, Option.some.injEq] at hu
        subst hu
        obtain ⟨q, c, hvisit⟩ := Task.count_of_done hmove hfits hdone
        exact (ih (.inl ⟨q, c, hbefore.trans hvisit⟩)).later (Run.start.step step)
    · have hcountBefore : (∃ q c, s.visits id = some ⟨.borrow (.ask .count), .returning q c n⟩) ∨
          s.result? id = some (.ok (.count n)) := by
        rw [hothers id hid] at hcount
        refine hcount.imp_right ?_
        intro hdone
        rw [← hdone, System.result?, System.result?, (System.tasks_of_set ht hset).2 id hid]
      exact (ih hcountBefore).later (Run.start.step step)
  | forget run ih => exact (ih hcount).later (Run.forget .start)

/-! ### Every run -/

/-- **What every run keeps of the table.**  The rows stay valid and their keys distinct, and no row
is lost.  A character has a row if it had one or if one of its ratings has been adjusted.  No step
changes the rows but the last one of an adjustment that succeeds.  Whoever has counted has got the
number of keys at some moment of the visit, and whoever counts afterwards, in a world that serves,
gets the number that there are. -/
theorem Run.keeps_table {w : World} {calls : List Call} {es : List Event} {s : System}
    (hrest : w.AtRest) (hone : w.store.OneDatabase)
    (hvalid : ∀ r, r ∈ w.store.rows → r.IsValid) (honce : (w.store.rows.map Row.key).Nodup)
    (hopen : ∀ call, call ∈ calls → call ≠ .closePool)
    (hreads : ∀ e, Call.borrow e ∈ calls → ¬ (Purpose.borrow e).IsTransaction)
    (hrun : Run (System.start w calls) es s) :
    (∀ r, r ∈ s.rows → r.IsValid) ∧ (s.rows.map Row.key).Nodup ∧
      (∀ key, key ∈ w.store.rows.map Row.key → key ∈ s.rows.map Row.key) ∧
      (∀ key, key ∈ s.rows.map Row.key ↔ key ∈ w.store.rows.map Row.key ∨ s.Adjusted key) ∧
      (∀ id choice s', s.step id choice = some s' → s'.rows ≠ s.rows →
        ∃ channel user name delta reply,
          calls[id]?.bind Call.intent? = some (.adjust channel user name delta) ∧
          s'.result? id = some (.ok reply)) ∧
      (∀ id n, calls[id]? = some (.borrow (.ask .count)) → s.result? id = some (.ok (.count n)) →
        CountedBetween (System.start w calls) s id n) ∧
      ∀ file q, s.world.Serves file q →
        (Session.callOn s.world (.borrow (.ask .count))).1 =
          .ok (.count (s.rows.map Row.key).length) := by
  have hsoundStart := System.sound_start hrest hopen
  have honeStart := System.oneDatabase_start hone hreads
  have hcalls : s.calls = calls := hrun.calls.trans (System.calls_start w calls)
  have hkept : Kept w.store.rows s := by
    clear hcalls
    induction hrun with
    | start => exact .start hvalid honce
    | step run step ih =>
      exact ih.step (run.sound hsoundStart) (run.oneDatabase hsoundStart honeStart) step
    | forget _ ih => exact ⟨ih.valid, ih.once, ih.keys, ih.keyed⟩
  refine ⟨hkept.valid, hkept.once, fun key hkey => (hkept.keys key).2 (.inl hkey), hkept.keys, ?_,
    ?_, ?_⟩
  · intro id choice s' hstep hchanged
    rw [← hcalls]
    exact System.adjust_of_rows_ne (hrun.sound hsoundStart)
      (hrun.oneDatabase hsoundStart honeStart) hstep hchanged
  · intro id n hcall hdone
    refine hrun.rows_counted hsoundStart honeStart ?_ ?_ (.inr hdone)
    · exact fun id t ht => (System.stage_of_start ht).2
    · rw [System.calls_start]
      exact hcall
  · intro file q hserves
    obtain ⟨w', hcount, -⟩ := hserves.count
    rw [hcount, List.length_map]
    rfl

/-- One character has a row. Then one adjustment succeeds, one fails at the end of its transaction,
and the characters are counted. -/
theorem Run.keeps_table_of_three :
    ∃ es s,
      Run (System.start (World.withRow (.blank "c" "u") 2 (.script 0 []))
        [.execute (.command (.adjust (.text "c") (.text "v") (.text "hack") (.int 2))),
          .execute (.command (.adjust (.text "c") (.text "w") (.text "rig") (.int 1))),
          .borrow (.ask .count)]) es s ∧
      s.rows.map Row.key = [("c", "u"), ("c", "v")] ∧ (∀ r, r ∈ s.rows → r.IsValid) ∧
      s.Adjusted ("c", "v") ∧ ¬ s.Adjusted ("c", "w") := by
  let calls : List Call :=
    [.execute (.command (.adjust (.text "c") (.text "v") (.text "hack") (.int 2))),
      .execute (.command (.adjust (.text "c") (.text "w") (.text "rig") (.int 1))),
      .borrow (.ask .count)]
  let w := World.withRow (.blank "c" "u") 2 (.script 0 [])
  let steps : List (Nat × Choice) := List.replicate 15 (0, .go) ++ List.replicate 11 (1, .go) ++
    [(1, .fail .locked), (1, .go)] ++ List.replicate 6 (2, .go)
  have hkeys : ((System.start w calls).follow steps).map (fun r => r.2.rows.map Row.key) =
      some [("c", "u"), ("c", "v")] := by decide +kernel
  obtain ⟨⟨es, s⟩, hfollow, hkeys⟩ := Option.map_eq_some_iff.1 hkeys
  have hrun : Run (System.start w calls) es s := Run.start.of_follow hfollow
  have hvalid : ∀ r, r ∈ w.store.rows → r.IsValid := by
    intro r hr
    rw [World.rows_withRow, List.mem_singleton] at hr
    rw [hr]
    exact Row.isValid_ofCharacter _
  have honce : (w.store.rows.map Row.key).Nodup := List.pairwise_singleton ..
  obtain ⟨hkept, -, -, hrows, -⟩ := hrun.keeps_table (World.atRest_world ..)
    (World.oneDatabase_withRow ..) hvalid honce (by simp [calls])
    (by simp [calls, Purpose.IsTransaction])
  have hadjusted : ∀ key, key ∈ [("c", "u"), ("c", "v")] ↔ key = ("c", "u") ∨ s.Adjusted key := by
    intro key
    rw [← List.mem_singleton, ← show s.rows.map Row.key = _ from hkeys]
    exact hrows key
  refine ⟨es, s, hrun, hkeys, hkept, ?_, ?_⟩
  · exact ((hadjusted ("c", "v")).1 (by decide)).resolve_left (by decide)
  · intro hw
    have hmem := (hadjusted ("c", "w")).2 (.inr hw)
    revert hmem
    decide

end CharacterLedger.Ledger
