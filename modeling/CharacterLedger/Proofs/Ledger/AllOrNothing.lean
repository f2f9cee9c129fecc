import CharacterLedger.Proofs.Ledger.Keeping
import CharacterLedger.Proofs.Storage.Failures

/-!
# All or nothing

An adjustment is made as a whole or not at all.  Wherever it fails, the call ends with an error, and
then it has changed no row, stands in no line, has no connection in its hands and has left no
transaction open.

* `Task.FailsAt` — the points at which an adjustment can fail;
* `System.Raises` — a task has ended with an error, or is going to;
* `System.raises_of_failsAt`, `System.Raises.step`, `System.Raises.ends` — a failure at any of the
  points leads to an error, whatever the other tasks do meanwhile;
* `System.LeavesNothing` — what a task that has ended does not leave behind;
* `Run.all_or_nothing` — the whole of it.
-/

namespace CharacterLedger.Ledger

open CharacterLedger.Storage CharacterLedger.Table

/-- Whether a task has ended with an error, or is going to. -/
def Stage.isRaising : Stage → Bool
  | .done (.error _) => true
  | .loading _ _ _ _ phase => phase.isWrong
  | .saving _ _ _ _ _ phase => phase.isWrong
  | _ => false

namespace Task

/-! ### Where adjustments fail -/

/-- The points at which an order to adjust a rating fails, and by which choice. -/
inductive FailsAt (id : Nat) (o : Order) (channel user name delta : Value) (s : Store) :
    Stage → Choice → Prop
  /-- The command cannot be written. -/
  | unwritable (unwritable : o.isWritable = false) :
      FailsAt id o channel user name delta s .ready .go
  /-- The name is that of no action. -/
  | unknownName {e : Error} (unknown : readAction name = .error e) :
      FailsAt id o channel user name delta s .ready .go
  /-- There is no lock for the character. -/
  | noKey {m : Mismatch} (noKey : Key.ofValues channel user = .error m) :
      FailsAt id o channel user name delta s .ready .go
  /-- The visit for the row fails. -/
  | loading {lock : Nat} {use : Use}
      {phase : Phase (Purpose.borrow (.ask (.character channel user))).Answer} {choice : Choice}
      (fails : Visit.FailsAt id s (.borrow (.ask (.character channel user))) phase choice) :
      FailsAt id o channel user name delta s (.loading lock channel user use phase) choice
  /-- The row is corrupt, or there can be none. -/
  | unreadable {lock : Nat} {use : Use} {q c : Nat} {row : Option Row} {e : Error}
      (fails : (loaded channel user (.ok row)).2 = .error e) :
      FailsAt id o channel user name delta s
        (.loading lock channel user use (.returning q c row)) .go
  /-- The number cannot be added to the rating, or the sum not be compared. -/
  | cannotAdjust {lock : Nat} {q c : Nat} {row : Option Row} {record : Character} {a : Action}
      {e : Error} (reads : (loaded channel user (.ok row)).2 = .ok record)
      (fails : adjust record a delta = .error e) :
      FailsAt id o channel user name delta s
        (.loading lock channel user (.adjust a delta) (.returning q c row)) .go
  /-- The visit that writes the record fails. -/
  | saving {lock : Nat} {adjustment : Adjustment} {changed : Character}
      {phase : Phase (Purpose.borrow (.save changed)).Answer} {choice : Choice}
      (fails : Visit.FailsAt id s (.borrow (.save changed)) phase choice) :
      FailsAt id o channel user name delta s
        (.saving lock channel user adjustment changed phase) choice

section Failures

variable {id : Nat} {w : World} {t : Task} {choice : Choice}

/-- A task that is finished with an error has one. -/
@[simp] theorem isRaising_finish (w : World) (t : Task) (e : Error) :
    (finish w t (.error e)).2.stage.isRaising = true := by
  rw [(finish_spec w t (.error e)).2.2.2]
  rfl

/-- When the visit of a task goes wrong, so does the task. -/
theorem isRaising_of_visit {p : Purpose} {phase : Phase p.Answer} {stage : Phase p.Answer → Stage}
    {after : World → Task → p.Result → World × Task} {r : World × Task}
    (h : visit id w t choice p phase stage after = some r)
    (hwrong : ∀ st, Visit.step id p choice phase w.store = some st → st.progress.isWrong = true)
    (hstage : ∀ next, next.isWrong = true → (stage next).isRaising = true)
    (hafter : ∀ w t failure, (after w t (.error failure)).2.stage.isRaising = true) :
    r.2.stage.isRaising = true := by
  unfold visit at h
  rw [Option.map_eq_some_iff] at h
  obtain ⟨⟨store, notes, progress⟩, hst, rfl⟩ := h
  have := hwrong _ hst
  cases progress with
  | going next => exact hstage next this
  | ended result =>
    cases result with
    | error failure => exact hafter _ _ failure
    | ok a => cases this

theorem isRaising_afterLoading {lock : Nat} {channel user : Value} {use : Use}
    {r : Errand.Result (.ask (.character channel user))} {e : Error}
    (hfails : (loaded channel user r).2 = .error e) :
    (afterLoading w t lock channel user use r).2.stage.isRaising = true := by
  unfold afterLoading
  rcases hl : loaded channel user r with ⟨notes, result⟩
  rw [hl] at hfails
  cases hfails
  exact isRaising_finish _ _ e

theorem isRaising_afterLoading_of_adjust {lock : Nat} {channel user : Value} {a : Action}
    {delta : Value} {r : Errand.Result (.ask (.character channel user))} {record : Character}
    {e : Error} (hreads : (loaded channel user r).2 = .ok record)
    (hfails : adjust record a delta = .error e) :
    (afterLoading w t lock channel user (.adjust a delta) r).2.stage.isRaising = true := by
  unfold afterLoading
  rcases hl : loaded channel user r with ⟨notes, result⟩
  rw [hl] at hreads
  cases hreads
  simp only [useRecord, hfails]
  exact isRaising_finish _ _ e

@[simp] theorem isRaising_afterSaving {lock : Nat} {channel user : Value} {adjustment : Adjustment}
    {changed : Character} {failure : Failure} :
    (afterSaving w t lock channel user adjustment changed (.error failure)).2.stage.isRaising =
      true :=
  isRaising_finish _ _ _

theorem loaded_error (channel user : Value) (failure : Failure) :
    ∃ e, (loaded channel user (.error failure)).2 = .error e :=
  ⟨_, rfl⟩

/-- An order that is refused, or has no lock to reach, goes no further. -/
theorem isRaising_begin {o : Order} (hcall : t.call = .execute o)
    (hfails : (∃ e, o.plan = .refuse e) ∨
      ∃ channel user use m, o.plan = .withCharacter channel user use ∧
        Key.ofValues channel user = .error m) :
    (begin id w t).2.stage.isRaising = true := by
  unfold begin
  rw [hcall]
  obtain ⟨e, he⟩ | ⟨channel, user, use, m, hplan, hm⟩ := hfails
  · simp only [he]
    exact isRaising_finish _ _ e
  · simp only [hplan, reachLock, hm]
    exact isRaising_finish _ _ _

/-- An order to adjust a rating is refused if its name is that of no action. -/
theorem refuses_of_unknownName {o : Order} {channel user name delta : Value} {e : Error}
    (hadjusts : o.intent = .adjust channel user name delta) (unknown : readAction name = .error e) :
    ∃ e, o.plan = .refuse e := by
  unfold Order.plan
  split
  · exact ⟨e, by simp only [hadjusts, Intent.plan, unknown]⟩
  · exact ⟨_, rfl⟩

/-- An order about a character without a lock is refused, or finds no lock to reach. -/
theorem refuses_of_noKey {o : Order} {channel user name delta : Value} {m : Mismatch}
    (hadjusts : o.intent = .adjust channel user name delta)
    (noKey : Key.ofValues channel user = .error m) :
    (∃ e, o.plan = .refuse e) ∨ ∃ channel user use m, o.plan = .withCharacter channel user use ∧
      Key.ofValues channel user = .error m := by
  unfold Order.plan
  split
  · simp only [hadjusts, Intent.plan]
    cases readAction name with
    | error e => exact .inl ⟨e, rfl⟩
    | ok a => exact .inr ⟨channel, user, .adjust a delta, m, rfl, noKey⟩
  · exact .inl ⟨_, rfl⟩

/-- **A failure at any of the points makes the task fail.** -/
theorem isRaising_of_failsAt {o : Order} {channel user name delta : Value} {r : World × Task}
    (hcall : t.call = .execute o) (hadjusts : o.intent = .adjust channel user name delta)
    (hfails : FailsAt id o channel user name delta w.store t.stage choice)
    (hstep : t.step id choice w = some r) : r.2.stage.isRaising = true := by
  obtain ⟨call, traces, stage⟩ := t
  simp only at hcall hfails
  cases hfails with
  | unwritable unwritable =>
    simp only [step, advance, Option.some.injEq] at hstep
    rw [← hstep]
    refine isRaising_begin ((beginTrace_spec w _).2.2.1.trans hcall) (.inl ⟨.tooManyDigits, ?_⟩)
    simp [Order.plan, unwritable]
  | unknownName unknown =>
    simp only [step, advance, Option.some.injEq] at hstep
    rw [← hstep]
    exact isRaising_begin ((beginTrace_spec w _).2.2.1.trans hcall)
      (.inl (refuses_of_unknownName hadjusts unknown))
  | noKey noKey =>
    simp only [step, advance, Option.some.injEq] at hstep
    rw [← hstep]
    exact isRaising_begin ((beginTrace_spec w _).2.2.1.trans hcall)
      (refuses_of_noKey hadjusts noKey)
  | loading fails =>
    simp only [step] at hstep
    refine isRaising_of_visit hstep (fun _ => Visit.isWrong_of_failsAt fails) (fun _ h => h) ?_
    intro w t failure
    obtain ⟨e, he⟩ := loaded_error channel user failure
    exact isRaising_afterLoading he
  | unreadable fails =>
    cases hstep
    exact isRaising_afterLoading fails
  | cannotAdjust reads fails =>
    cases hstep
    exact isRaising_afterLoading_of_adjust reads fails
  | saving fails =>
    simp only [step] at hstep
    refine isRaising_of_visit hstep (fun _ => Visit.isWrong_of_failsAt fails) (fun _ h => h) ?_
    intro w t failure
    exact isRaising_afterSaving

end Failures

/-- **A task that is going to fail does not succeed any more.** -/
theorem Moves.isRaising {id : Nat} {call : Call} {s s' : Store} {l l' : KeyLocks} {st st' : Stage}
    (h : Moves id call s l st s' l' st') (hraises : st.isRaising = true) :
    st'.isRaising = true := by
  cases h with
  | load move | save move => exact move.isWrong hraises
  | loadFails | cannotAdjust | saveFails => rfl
  | @used lock channel user use phase t r c result move reads =>
    have := move.isWrong hraises
    cases r with
    | error failure =>
      obtain ⟨e, he⟩ := loaded_error channel user failure
      rw [he] at reads
      cases reads
    | ok row => cases this
  | @adjusts lock channel user a delta phase t r c changed adjustment move reads =>
    have := move.isWrong hraises
    cases r with
    | error failure =>
      obtain ⟨e, he⟩ := loaded_error channel user failure
      rw [he] at reads
      cases reads
    | ok row => cases this
  | saved move => cases move.isWrong hraises
  | refuse | rollAtOnce | closeNothing | closeAtOnce | goVisiting | goClosing | reach | reachToHold
  | acquire | acquireToHold | closeNext | closed | visit | visited | letGo => cases hraises

section GoingOn

variable {id : Nat} {w : World} {t : Task}

theorem stage_afterLoading_error {lock : Nat} {channel user : Value} {use : Use}
    (failure : Failure) :
    ∃ e, (afterLoading w t lock channel user use (.error failure)).2.stage = .done (.error e) :=
  ⟨_, (finish_spec _ _ _).2.2.2⟩

theorem stage_afterSaving_error {lock : Nat} {channel user : Value} {adjustment : Adjustment}
    {changed : Character} (failure : Failure) :
    ∃ e, (afterSaving w t lock channel user adjustment changed (.error failure)).2.stage =
      .done (.error e) :=
  ⟨_, (finish_spec _ _ _).2.2.2⟩

/-- A task whose visit is going to fail can always go on, with fewer connections left to close. -/
theorem goes_on_of_isWrong {p : Purpose} {phase : Phase p.Answer} {stage : Phase p.Answer → Stage}
    {after : World → Task → p.Result → World × Task} (hwrong : phase.isWrong = true)
    (htransaction : phase.transaction? ≠ none → p.IsTransaction)
    (hstage : ∀ next, next.isWrong = true → (stage next).isRaising = true)
    (hafter : ∀ w t failure, ∃ e, (after w t (.error failure)).2.stage = .done (.error e)) :
    ∃ r, visit id w t .go p phase stage after = some r ∧
      ((∃ e, r.2.stage = .done (.error e)) ∨ r.2.stage.isRaising = true ∧
        r.1.store.pool.tracked.length < w.store.pool.tracked.length) := by
  obtain ⟨⟨store, notes, progress⟩, hst, hends⟩ :=
    Visit.goes_on_of_isWrong id w.store hwrong htransaction
  refine ⟨_, by rw [visit, hst]; rfl, ?_⟩
  obtain ⟨failure, rfl⟩ | ⟨⟨f, rfl⟩, hfewer⟩ := hends
  · exact .inl (hafter _ _ failure)
  · exact .inr ⟨hstage _ rfl, hfewer⟩

/-- **A task that is going to fail can always go on.** -/
theorem goes_on_of_isRaising (id : Nat) (w : World) (hfits : Fits t.call t.stage)
    (hraises : t.stage.isRaising = true) :
    (∃ e, t.stage = .done (.error e)) ∨ ∃ r, t.step id .go w = some r ∧
      ((∃ e, r.2.stage = .done (.error e)) ∨ r.2.stage.isRaising = true ∧
        r.1.store.pool.tracked.length < w.store.pool.tracked.length) := by
  unfold step
  cases hs : t.stage with
  | loading lock channel user use phase =>
    rw [hs] at hfits hraises
    refine .inr (goes_on_of_isWrong hraises ?_ (fun _ h => h) ?_)
    · exact fun hne => absurd hfits.2.2 hne
    · exact fun _ _ => stage_afterLoading_error
  | saving lock channel user adjustment changed phase =>
    rw [hs] at hraises
    refine .inr (goes_on_of_isWrong hraises (fun _ => trivial) (fun _ h => h) ?_)
    exact fun _ _ => stage_afterSaving_error
  | done r =>
    cases r with
    | error e => exact .inl ⟨e, rfl⟩
    | ok reply =>
      rw [hs] at hraises
      cases hraises
  | ready | visiting | closing | queued | queuedToHold | holding =>
    rw [hs] at hraises
    cases hraises

end GoingOn

end Task

namespace System

variable {s s' : System} {id other : Nat} {choice : Choice}

/-! ### Errors are raised -/

/-- A task has ended with an error, or is going to. -/
def Raises (s : System) (id : Nat) : Prop :=
  ∃ t, s.tasks[id]? = some t ∧ t.stage.isRaising = true

/-- **A failure at any of the points is raised.** -/
theorem raises_of_failsAt {t : Task} {o : Order} {channel user name delta : Value}
    (ht : s.tasks[id]? = some t) (hcall : t.call = .execute o)
    (hadjusts : o.intent = .adjust channel user name delta)
    (hfails : Task.FailsAt id o channel user name delta s.world.store t.stage choice)
    (hstep : s.step id choice = some s') : s'.Raises id := by
  simp only [step, ht, Option.map_eq_some_iff] at hstep
  obtain ⟨r, hr, rfl⟩ := hstep
  refine ⟨r.2, ?_, Task.isRaising_of_failsAt hcall hadjusts hfails hr⟩
  exact List.getElem?_set_self (List.getElem?_eq_some_iff.1 ht).1

/-- A task that is going to fail does not succeed any more, whoever moves. -/
theorem Raises.step (h : s.Raises id) (hstep : s.step other choice = some s') : s'.Raises id := by
  obtain ⟨t, t', ht, hset, -, hmove⟩ := moves_of_step hstep
  obtain ⟨ht', hothers⟩ := tasks_of_set ht hset
  obtain ⟨u, hu, hraises⟩ := h
  by_cases hid : id = other
  · subst hid
    rw [ht, Option.some.injEq] at hu
    subst hu
    exact ⟨t', ht', hmove.isRaising hraises⟩
  · exact ⟨u, (hothers id hid).trans hu, hraises⟩

/-- **A task that is going to fail ends with an error after some steps of its own.** -/
theorem Raises.ends (hsound : s.Sound) (h : s.Raises id) :
    ∃ n es s', s.follow (List.replicate n (id, .go)) = some (es, s') ∧
      ∃ e, s'.result? id = some (.error e) := by
  -- Each step but the last closes a connection.
  induction hk : s.world.store.pool.tracked.length using Nat.strongRecOn generalizing s with
  | ind k ih =>
    obtain ⟨t, ht, hraises⟩ := h
    obtain ⟨e, hdone⟩ | ⟨r, hr, hends⟩ :=
      Task.goes_on_of_isRaising id s.world (hsound.fits id t ht) hraises
    · exact ⟨0, [], s, rfl, e, result?_eq_some_iff.2 ⟨t, ht, hdone⟩⟩
    · have hstep : s.step id .go = some ⟨r.1, s.tasks.set id r.2⟩ := by
        simp only [System.step, ht, hr, Option.map_some]
      have ht' : (s.tasks.set id r.2)[id]? = some r.2 :=
        List.getElem?_set_self (List.getElem?_eq_some_iff.1 ht).1
      obtain ⟨e, hdone⟩ | ⟨hraises', hfewer⟩ := hends
      · exact ⟨1, _, _, follow_cons hstep rfl, e, result?_eq_some_iff.2 ⟨r.2, ht', hdone⟩⟩
      · obtain ⟨n, es, s', hfollow, hdone⟩ := ih _ (hk ▸ hfewer) (hsound.step hstep)
          ⟨r.2, ht', hraises'⟩ rfl
        exact ⟨n + 1, _, s', follow_cons hstep hfollow, hdone⟩

/-! ### Nothing is left -/

/-- What a task that has ended does not leave behind: it stands in no line of a lock, and whoever is
first in one has the lock or can take it at once; it does not hold up the opening of the pool; every
connection of the pool is at hand or lent to another task; and no transaction is open, but for those
of other tasks. -/
structure LeavesNothing (s : System) (id : Nat) : Prop where
  lock : ∀ lock, id ∉ s.world.locks.line lock
  next : ∀ lock other, (s.world.locks.line lock).head? = some other →
    ∃ u, s.tasks[other]? = some u ∧
      (u.stage.lock? = some (lock, true) ∨ (s.step other .go).isSome = true)
  opening : id ∉ s.world.store.pool.opening
  lent : ∀ q, s.world.store.pool.current = some q → ∀ c, c ∈ s.world.store.pool.tracked →
    c ∈ s.world.store.pool.queue q ∨ ∃ other, other ≠ id ∧ c ∈ Visiting.held? (s.visits other)
  transactions : ∀ c k, s.world.store.connection? c = some k → k.draft ≠ none →
    ∃ other, other ≠ id ∧ Visiting.transaction? (s.visits other) = some c
  atHand : ∀ q c k, c ∈ s.world.store.pool.queue q → s.world.store.connection? c = some k →
    k.draft = none

/-- A task that waits at the head of a line can take the lock. -/
theorem step_isSome_of_head {t : Task} {lock : Nat} (ht : s.tasks[id]? = some t)
    (hlock : t.stage.lock? = some (lock, false))
    (hhead : (s.world.locks.line lock).head? = some id) : (s.step id .go).isSome = true := by
  have hfirst : s.world.locks.isHeldBy lock id = true := by
    rw [KeyLocks.isHeldBy, hhead]
    exact beq_self_eq_true _
  simp only [System.step, ht, Option.isSome_map]
  unfold Task.step
  cases hs : t.stage with
  | queued =>
    rw [hs] at hlock
    cases hlock
    simp [Task.advance, hs, hfirst]
  | queuedToHold =>
    rw [hs] at hlock
    cases hlock
    simp [Task.advance, hs, hfirst]
  | ready | visiting | closing | loading | saving | holding | done =>
    rw [hs] at hlock
    cases hlock

/-- **A task that has ended leaves nothing behind.** -/
theorem leavesNothing_of_done (h : s.Sound) {r : Except Error Reply}
    (hdone : s.result? id = some r) : s.LeavesNothing id := by
  obtain ⟨t, ht, hstage⟩ := result?_eq_some_iff.1 hdone
  have hvisit : s.visits id = none := by
    rw [visits, ht, Option.bind_some, hstage]
    rfl
  have hstanding : s.standing id = none := by
    rw [standing, ht, Option.bind_some]
    apply Task.standing?_of_none
    rw [hstage]
    rfl
  refine ⟨?_, ?_, ?_, ?_, ?_, ?_⟩
  · intro lock hm
    obtain ⟨st, hst, -⟩ := (h.locks.line id lock).1 hm
    rw [hstanding] at hst
    cases hst
  · intro lock other hhead
    obtain ⟨st, hst, rfl⟩ := (h.locks.line other lock).1 (List.mem_of_mem_head? hhead)
    obtain ⟨u, hu, hust⟩ := Option.bind_eq_some_iff.1 hst
    refine ⟨u, hu, ?_⟩
    unfold Task.standing? at hust
    split at hust
    · next lock holds key hlock hkey =>
      cases hust
      cases holds with
      | true => exact .inl hlock
      | false => exact .inr (step_isSome_of_head hu hlock hhead)
    · cases hust
  · intro hm
    have := (h.store.openings.line id).1 hm
    rw [hvisit] at this
    cases this
  · intro q hq c hc
    refine ((h.store.openings.lent q hq c).1 hc).imp_right ?_
    rintro ⟨other, hheld⟩
    refine ⟨other, ?_, hheld⟩
    rintro rfl
    rw [hvisit] at hheld
    cases hheld
  · intro c k hk hd
    obtain ⟨other, hother⟩ := h.store.drafts.owned c k hk hd
    refine ⟨other, ?_, hother⟩
    rintro rfl
    rw [hvisit] at hother
    cases hother
  · intro q c k hc hk
    exact h.store.draft_of_atHand (Pool.mem_atHand_of_mem_queue hc) hk

end System

/-! ### The whole -/

/-- **An adjustment is made as a whole or not at all.**  Once it has met a failure it never
succeeds, and whatever else has been done it can go on to end with an error.  When it has ended with
one, it leaves nothing behind, none of its steps has changed the rows, and the rows are what they
were at first unless another adjustment has succeeded. -/
theorem Run.all_or_nothing {w : World} {calls : List Call} {es : List Event} {s : System}
    (hrest : w.AtRest) (hone : w.store.OneDatabase)
    (hopen : ∀ call, call ∈ calls → call ≠ .closePool)
    (hreads : ∀ e, Call.borrow e ∈ calls → ¬ (Purpose.borrow e).IsTransaction)
    (hrun : Run (System.start w calls) es s) {id : Nat} {o : Order}
    {channel user name delta : Value} (hcall : calls[id]? = some (.execute o))
    (hadjusts : o.intent = .adjust channel user name delta) :
    (∀ t choice s' es' s'', s.tasks[id]? = some t →
      Task.FailsAt id o channel user name delta s.world.store t.stage choice →
      s.step id choice = some s' → Run s' es' s'' →
      (∀ reply, s''.result? id ≠ some (.ok reply)) ∧
        ∃ n es₁ s₁ e, s''.follow (List.replicate n (id, .go)) = some (es₁, s₁) ∧
          s₁.result? id = some (.error e)) ∧
    ∀ e, s.result? id = some (.error e) →
      s.LeavesNothing id ∧
      (∀ es₁ s₁ choice s₂ es₂, Run (System.start w calls) es₁ s₁ →
        s₁.step id choice = some s₂ → Run s₂ es₂ s → s₂.rows = s₁.rows) ∧
      ((∀ other channel' user' name' delta' reply,
        calls[other]?.bind Call.intent? = some (.adjust channel' user' name' delta') →
        s.result? other ≠ some (.ok reply)) → s.rows = w.store.rows) := by
  have hsoundStart := System.sound_start hrest hopen
  have honeStart := System.oneDatabase_start hone hreads
  have hcalls : s.calls = calls := hrun.calls.trans (System.calls_start w calls)
  refine ⟨?_, ?_⟩
  · intro t choice s' es' s'' ht hfails hstep hlater
    obtain ⟨u, hu, hucall⟩ := System.getElem?_calls_eq_some_iff.1 (hcalls ▸ hcall)
    rw [ht, Option.some.injEq] at hu
    subst hu
    have hraises : s''.Raises id := by
      induction hlater with
      | start => exact System.raises_of_failsAt ht hucall hadjusts hfails hstep
      | step _ next ih => exact ih.step next
      | forget _ ih => exact ih
    refine ⟨?_, ?_⟩
    · intro reply hdone
      obtain ⟨u, hu, hraising⟩ := hraises
      obtain ⟨u', hu', hstage⟩ := System.result?_eq_some_iff.1 hdone
      rw [hu, Option.some.injEq] at hu'
      subst hu'
      rw [hstage] at hraising
      cases hraising
    · obtain ⟨n, es₁, s₁, hfollow, e, hdone⟩ :=
        hraises.ends (hlater.sound ((hrun.sound hsoundStart).step hstep))
      exact ⟨n, es₁, s₁, e, hfollow, hdone⟩
  · intro e hdone
    refine ⟨System.leavesNothing_of_done (hrun.sound hsoundStart) hdone, ?_, ?_⟩
    · intro es₁ s₁ choice s₂ es₂ hrun₁ hstep hrun₂
      refine Decidable.by_contra fun hchanged => ?_
      obtain ⟨_, _, _, _, reply, -, hok⟩ := System.adjust_of_rows_ne (hrun₁.sound hsoundStart)
        (hrun₁.oneDatabase hsoundStart honeStart) hstep hchanged
      rw [hrun₂.result? hok] at hdone
      cases hdone
    · intro hnone
      refine hrun.rows_eq hsoundStart honeStart ?_
      rw [System.calls_start]
      exact hnone

/-- An adjustment fails at the end of its transaction, and the row is what it was. -/
theorem Run.all_or_nothing_of_commit :
    ∃ es s e,
      Run (System.start (World.withRow (.blank "c" "u") 2 (.script 0 []))
        [.execute (.command (.adjust (.text "c") (.text "u") (.text "hack") (.int 2))),
          .execute (.command (.view (.text "c") (.text "u")))]) es s ∧
      s.result? 0 = some (.error e) ∧ s.LeavesNothing 0 ∧
      s.rows = [Row.ofCharacter (.blank "c" "u")] := by
  let calls : List Call :=
    [.execute (.command (.adjust (.text "c") (.text "u") (.text "hack") (.int 2))),
      .execute (.command (.view (.text "c") (.text "u")))]
  let w := World.withRow (.blank "c" "u") 2 (.script 0 [])
  let steps : List (Nat × Choice) := List.replicate 14 (0, .go) ++ [(0, .fail .locked), (0, .go)]
  have hfails : ((System.start w calls).follow steps).map (fun r => (r.2.result? 0).map
      fun result => result.isOk) = some (some false) := by decide +kernel
  obtain ⟨⟨es, s⟩, hfollow, hfails⟩ := Option.map_eq_some_iff.1 hfails
  have hrun : Run (System.start w calls) es s := Run.start.of_follow hfollow
  obtain ⟨result, hresult, hfails⟩ := Option.map_eq_some_iff.1 hfails
  have hcall : calls[0]? = some (.execute (.command (.adjust (.text "c") (.text "u")
    (.text "hack") (.int 2)))) := rfl
  cases result with
  | ok reply => cases hfails
  | error e =>
    obtain ⟨-, hends⟩ := hrun.all_or_nothing (World.atRest_world ..) (World.oneDatabase_withRow ..)
      (by simp [calls]) (by simp [calls]) hcall rfl
    obtain ⟨hleaves, -, hrows⟩ := hends e hresult
    refine ⟨es, s, e, hrun, hresult, hleaves, (hrows ?_).trans (World.rows_withRow ..)⟩
    intro other channel user name delta reply hcall
    cases other with
    | zero =>
      rw [hresult]
      exact fun h => nomatch h
    | succ other => cases other <;> cases hcall

end CharacterLedger.Ledger
