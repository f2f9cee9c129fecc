import CharacterLedger.Proofs.Ledger.Attempts

/-!
# One attempt to open the pool at a time

In every run from a closed pool that nobody closes, opening the pool is a row of attempts.  The task
of one that fails raises the fault, and the next in line begins another; once one has succeeded,
nobody connects again.

* `System.Sound.begins_of_first`, `System.Sound.leaves_of_first` — what the first in line does;
* `System.Sound.fails_of_step` — a failed attempt leaves the pool closed, with nothing tracked;
* `System.lent`, `System.Sound.perm_tracked` — every connection of an open pool has one place;
* `System.Answers` — why a task that only opens the pool has returned;
* `System.Recorded` — what a history says of a system, and `System.Recorded.step`;
* `OpeningRun.single_flight` — all of it for every run.
-/

namespace CharacterLedger

open CharacterLedger.Storage CharacterLedger.Table

namespace Ledger

namespace System

variable {s s' : System} {id other : Nat} {choice : Choice}

/-! ### What becomes of those that wait -/

/-- A task on a visit can take a step when its visit can. -/
theorem isSome_step_of_visit {p : Purpose} {phase : Phase p.Answer}
    (hvisit : s.visits id = some ⟨p, phase⟩) (choice : Choice) :
    (s.step id choice).isSome = (Visit.step id p choice phase s.world.store).isSome := by
  obtain ⟨t, ht, hstage⟩ := Option.bind_eq_some_iff.1 hvisit
  rw [← Task.isSome_step_of_visit hstage, step, ht, Option.isSome_map]

/-- A step of a task on a visit is one of the visit. -/
theorem exists_visit_step {p : Purpose} {phase : Phase p.Answer}
    (hvisit : s.visits id = some ⟨p, phase⟩) (hstep : s.step id choice = some s') :
    ∃ st, Visit.step id p choice phase s.world.store = some st ∧ s'.world.store = st.store ∧
      s.openingEvents id choice =
        (Visit.openingEvents s.world.store st.store st.progress phase).map fun e => (id, e) := by
  obtain ⟨t, t', ht, hr, -, -⟩ := exists_task_step hstep
  obtain ⟨u, hu, hstage⟩ := Option.bind_eq_some_iff.1 hvisit
  rw [ht, Option.some.injEq] at hu
  subst hu
  obtain ⟨st, hst, hstore, -⟩ := Task.visits_of_step hr hstage
  refine ⟨st, hst, hstore, ?_⟩
  unfold openingEvents
  rw [hvisit]
  dsimp only
  rw [hst]

/-- No transaction is open while the pool is closed. -/
theorem Sound.draft_of_closed (h : s.Sound) (hclosed : s.world.store.pool.current = none) {c : Nat}
    {k : Connection} (hk : s.world.store.connection? c = some k) : k.draft = none := by
  cases hd : k.draft with
  | none => rfl
  | some d =>
    obtain ⟨id, hid⟩ := h.store.drafts.owned c k hk (by simp [hd])
    have hheld : c ∈ Visiting.held? (s.visits id) := by
      rw [Visiting.mem_held_of_transaction? hid]
      exact List.mem_singleton.2 rfl
    have hno : Visiting.isOpening (s.visits id) = false := by
      cases hvisit : s.visits id with
      | none => rfl
      | some v =>
        obtain ⟨p, phase⟩ := v
        rw [hvisit] at hid
        cases phase <;> first | rfl | cases hid
    exact absurd hheld (h.store.openings.held?_of_closed hclosed hno)

/-- **Whoever opens the pool can go on.** -/
theorem Sound.exists_step_of_isOpening (h : s.Sound)
    (hopening : Visiting.isOpening (s.visits id) = true) : ∃ s', s.step id .go = some s' := by
  have hclosed := (h.store.openings.turn id hopening).2
  have hfree : ∀ c, s.world.store.isBusy c = false := by
    intro c
    cases hk : s.world.store.connection? c with
    | none => simp [Store.isBusy, hk]
    | some k =>
      exact (Store.isBusy_eq_false_iff hk).2 fun i other hi _ _ => h.draft_of_closed hclosed hi
  cases hvisit : s.visits id with
  | none =>
    rw [hvisit] at hopening
    cases hopening
  | some v =>
    obtain ⟨p, phase⟩ := v
    rw [hvisit] at hopening
    obtain ⟨st, hst⟩ := Visit.exists_step_of_isOpening (p := p) id hopening hfree
    exact Option.isSome_iff_exists.1 ((isSome_step_of_visit hvisit .go).trans (by rw [hst]; rfl))

/-- The first in line waits for its turn, unless it opens the pool. -/
theorem Sound.visit_of_first (h : s.Sound)
    (hfirst : s.world.store.pool.opening.head? = some id)
    (hno : Visiting.isOpening (s.visits id) = false) :
    ∃ p, s.visits id = some ⟨p, .awaitingOpening⟩ := by
  have hline := (h.store.openings.line id).1 (List.mem_of_mem_head? hfirst)
  cases hvisit : s.visits id with
  | none =>
    rw [hvisit] at hline
    cases hline
  | some v =>
    obtain ⟨p, phase⟩ := v
    rw [hvisit] at hline hno
    cases phase with
    | awaitingOpening => exact ⟨p, rfl⟩
    | connecting | preparing | abandoning => cases hno
    | _ => cases hline

/-- **The first in line to open a pool that is closed can make an attempt**, and with its next step
it begins one. -/
theorem Sound.begins_of_first (h : s.Sound) (hclosed : s.world.store.pool.current = none)
    (hnobody : ∀ id, Visiting.isOpening (s.visits id) = false)
    (hfirst : s.world.store.pool.opening.head? = some id) :
    (∃ s', s.step id .go = some s') ∧ ∀ choice s', s.step id choice = some s' →
      (s.openingEvents id choice).head? = some (id, .begins) := by
  obtain ⟨p, hvisit⟩ := h.visit_of_first hfirst (hnobody id)
  refine ⟨?_, ?_⟩
  · refine Option.isSome_iff_exists.1 ((isSome_step_of_visit hvisit .go).trans ?_)
    simp only [Visit.step, Visit.go, hfirst, if_true, Option.isSome_some]
  · intro choice s' hstep
    obtain ⟨st, hst, -, hevents⟩ := exists_visit_step hvisit hstep
    rw [hevents, List.head?_map, (Visit.moves_of_step hst).head?_openingEvents hclosed]
    rfl

/-- **The first in line leaves an open pool as it is**, but for the line. -/
theorem Sound.leaves_of_first (h : s.Sound) {q : Nat} (hopen : s.world.store.pool.current = some q)
    (hfirst : s.world.store.pool.opening.head? = some id) :
    ∃ s', s.step id .go = some s' ∧
      s'.world.store = s.world.store.withPool s.world.store.pool.leave := by
  obtain ⟨p, hvisit⟩ :=
    h.visit_of_first hfirst (h.store.openings.not_isOpening_of_current hopen id)
  have hturn := Visit.step_of_first (p := p) hopen hfirst
  obtain ⟨s', hstep⟩ := Option.isSome_iff_exists.1
    ((isSome_step_of_visit hvisit .go).trans (by rw [hturn]; rfl))
  obtain ⟨st, hst, hstore, -⟩ := exists_visit_step hvisit hstep
  rw [hturn, Option.some.injEq] at hst
  subst hst
  exact ⟨s', hstep, hstore⟩

/-- **What the events of a step say is true.** -/
theorem Sound.says_of_step (h : s.Sound) (hstep : s.step id choice = some s') {e : OpeningEvent}
    (he : (other, e) ∈ s.openingEvents id choice) :
    other = id ∧ e.Says s.world.store s'.world.store := by
  have hcontributes := contributes_of_step h hstep
  generalize s.openingEvents id choice = events at he hcontributes
  cases hcontributes with
  | nothing => cases he
  | @visit _ p phase _ _ _ step store moved =>
    obtain ⟨e', he', heq⟩ := List.mem_map.1 he
    cases heq
    have hclosed := h.closed_of_isOpening moved.before
    rw [store]
    refine ⟨rfl, Visit.says_of_step step hclosed ?_ he'⟩
    rintro c rfl k hk
    exact h.draft_of_closed (hclosed rfl) hk

/-- **A task whose attempt fails raises the fault**, and leaves the pool closed, with nothing tracked
and nobody opening it. -/
theorem Sound.fails_of_step (h : s.Sound) (hstep : s.step id choice = some s') {f : Fault}
    (hf : (other, .fails f) ∈ s.openingEvents id choice) :
    (∃ e, s'.result? other = some (.error e) ∧ e.cause? = some f) ∧
      s'.world.store.pool.current = none ∧ s'.world.store.pool.tracked = [] ∧
      ∀ id, Visiting.isOpening (s'.visits id) = false := by
  have hcontributes := contributes_of_step h hstep
  generalize s.openingEvents id choice = events at hf hcontributes
  cases hcontributes with
  | nothing => cases hf
  | @visit _ p phase t _ next step store moved raises =>
    obtain ⟨e', he', heq⟩ := List.mem_map.1 hf
    cases heq
    have hclosed := h.closed_of_isOpening moved.before
    have hmove : Visit.Moves id p s.world.store phase t next := Visit.moves_of_step step
    obtain ⟨hended, hcurrent⟩ := hmove.of_fails hclosed he'
    have hnobody : ∀ x, Visiting.isOpening (s'.visits x) = false := by
      intro x
      by_cases hx : x = id
      · have hidle := moved.after
        rw [hended] at hidle
        rw [hx]
        exact Visiting.yields_of_isIdle (f := @Phase.isOpening) (fun _ => rfl) hidle
      · cases hopening : Visiting.isOpening (s'.visits x) with
        | false => rfl
        | true =>
          rw [moved.others x hx] at hopening
          rw [(h.lineUp_of_other step moved.before hopening (Ne.symm hx)).1] at he'
          cases he'
    rw [← store] at hcurrent
    exact ⟨raises f hended, hcurrent, (h.step hstep).store.openings.shut hcurrent hnobody, hnobody⟩

/-! ### Connections of an open pool -/

/-- The connections in the hands of the tasks. -/
def lent (s : System) : List Nat :=
  (List.range s.tasks.length).flatMap fun id => Visiting.held? (s.visits id)

theorem mem_lent {c : Nat} : c ∈ s.lent ↔ ∃ id, c ∈ Visiting.held? (s.visits id) := by
  simp only [lent, List.mem_flatMap, List.mem_range]
  refine ⟨fun ⟨id, _, hc⟩ => ⟨id, hc⟩, ?_⟩
  rintro ⟨id, hc⟩
  refine ⟨id, ?_, hc⟩
  by_contra hid
  rw [visits, List.getElem?_eq_none (Nat.le_of_not_lt hid)] at hc
  cases hc

/-- **Every connection of an open pool is in its queue or in the hands of one task.** -/
theorem Sound.perm_tracked (h : s.Sound) (honce : TracksOnce s.world.store) {q : Nat}
    (hopen : s.world.store.pool.current = some q) :
    (s.world.store.pool.queue q ++ s.lent).Perm s.world.store.pool.tracked := by
  have hslots := h.store.slots
  have hatHand : ∀ c, (s.world.store.pool.queue q).count c ≤ s.world.store.pool.atHand.count c := by
    intro c
    unfold Pool.queue Pool.atHand
    cases hq : s.world.store.pool.queues[q]? with
    | none => exact Nat.zero_le _
    | some cs =>
      exact (List.sublist_flatten_of_mem (List.mem_of_getElem? hq)).count_le c
  have hlent : s.lent.Nodup := by
    refine List.nodup_flatMap.2 ⟨fun id _ => List.nodup_iff_count.2 fun c => ?_, ?_⟩
    · have := hslots.once id c
      omega
    · refine List.nodup_range.imp fun hne c hc hc' => hne ?_
      exact hslots.alone _ _ c hc hc'
  have hqueue : (s.world.store.pool.queue q).Nodup := by
    refine List.nodup_iff_count.2 fun c => ?_
    have := hatHand c
    have := hslots.once 0 c
    omega
  refine (List.perm_ext_iff_of_nodup (List.nodup_append.2 ⟨hqueue, hlent, ?_⟩) honce.nodup).2 ?_
  · rintro c hc _ hc' rfl
    obtain ⟨id, hheld⟩ := mem_lent.1 hc'
    exact hslots.not_mem_atHand hheld (Pool.mem_atHand_of_mem_queue hc)
  · intro c
    rw [List.mem_append, mem_lent, h.store.openings.lent q hopen c]

/-! ### Tasks that only open the pool -/

/-- What a task that only opens the pool has ended with: the pool is open, or it was the task's own
attempt that has failed. -/
inductive Answers (s : System) (history : List (Nat × OpeningEvent)) (id : Nat) :
    Except Error Reply → Prop
  | opened (isOpen : s.world.store.pool.current ≠ none) : Answers s history id (.ok .done)
  | failed {f : Fault} (own : (id, .fails f) ∈ history) : Answers s history id (.error (.fault f))

/-- An open pool stays open. -/
theorem Sound.current_of_step (h : s.Sound) (hstep : s.step id choice = some s') {q : Nat}
    (hopen : s.world.store.pool.current = some q) : s'.world.store.pool.current = some q := by
  have hcontributes := contributes_of_step h hstep
  generalize s.openingEvents id choice = events at hcontributes
  cases hcontributes with
  | nothing store =>
    rw [store]
    exact hopen
  | @visit _ p phase _ _ _ step store moved =>
    rw [store]
    exact (Visit.moves_of_step step).current_of_open hopen (h.isOpening_of_open moved.before hopen)

/-- Whoever only opens the pool comes to no queue. -/
theorem queue?_of_openPool (herrand : Visiting.OnErrand (s.visits id))
    {phase : Phase (Purpose.Answer .openPool)} (hvisit : s.visits id = some ⟨.openPool, phase⟩) :
    phase.queue? = none := by
  by_contra hne
  exact herrand .openPool phase hvisit hne rfl

/-- A step of a task that only opens the pool is one of its visit, if it ends the task. -/
theorem Sound.exists_opening_step (h : s.Sound) (herrand : Visiting.OnErrand (s.visits id))
    {t : Task} (ht : s.tasks[id]? = some t) (hcall : t.call = .openPool)
    (hstep : s.step id choice = some s') {r : Except Error Reply} (hdone : s'.result? id = some r) :
    ∃ (phase : Phase (Purpose.Answer .openPool)) (st : Storage.Step (Purpose.Answer .openPool))
      (result : Purpose.Result .openPool),
      s.visits id = some ⟨.openPool, phase⟩ ∧ phase.queue? = none ∧
      Visit.step id .openPool choice phase s.world.store = some st ∧
      s'.world.store = st.store ∧ st.progress = .ended result ∧
      r = (Task.visited .openPool result).2 := by
  obtain ⟨t₁, t', ht₁, hr, ht', -⟩ := exists_task_step hstep
  rw [ht, Option.some.injEq] at ht₁
  subst ht₁
  obtain ⟨u, hu, hstage⟩ := result?_eq_some_iff.1 hdone
  rw [ht', Option.some.injEq] at hu
  subst hu
  have hmove := (Task.moves_of_step hr).2
  rw [hstage] at hmove
  obtain ⟨phase, hphase⟩ := Task.visiting_of_done hmove hcall (h.fits id t ht)
  have hvisit : s.visits id = some ⟨.openPool, phase⟩ := by
    rw [visits, ht, Option.bind_some, hphase]
    rfl
  have hqueue := queue?_of_openPool herrand hvisit
  obtain ⟨st, hst, hstore, hafter⟩ := Task.stage_of_visiting hr hphase
  rw [hstage] at hafter
  cases hprogress : st.progress with
  | going next =>
    rw [hprogress] at hafter
    cases hafter
  | ended result =>
    rw [hprogress] at hafter
    exact ⟨phase, st, result, hvisit, hqueue, hst, hstore, hprogress, Stage.done.inj hafter⟩

/-- **A task that only opens the pool ends when the pool is open, or with its own attempt.** -/
theorem Sound.answers_of_step (h : s.Sound) (herrand : Visiting.OnErrand (s.visits id)) {t : Task}
    (ht : s.tasks[id]? = some t) (hcall : t.call = .openPool) (hstep : s.step id choice = some s')
    {r : Except Error Reply} (hdone : s'.result? id = some r) :
    s'.Answers (s.openingEvents id choice) id r := by
  obtain ⟨phase, st, result, hvisit, hqueue, hst, hstore, hprogress, rfl⟩ :=
    h.exists_opening_step herrand ht hcall hstep hdone
  cases result with
  | ok a =>
    refine .opened ?_
    have hmove := Visit.moves_of_step hst
    rw [hprogress] at hmove
    rw [hstore]
    exact hmove.isOpen_of_ended hqueue
  | error failure =>
    obtain ⟨f, rfl, hevent⟩ := Visit.fails_of_step hst hqueue hprogress
    obtain ⟨st', hst', -, hevents⟩ := exists_visit_step hvisit hstep
    rw [hst, Option.some.injEq] at hst'
    subst hst'
    refine .failed (f := f) ?_
    rw [hevents]
    exact List.mem_map_of_mem hevent

/-- **A task that comes to an open pool, or waits for it to be opened, returns**, and makes no
connection. -/
theorem Sound.returns_of_open (h : s.Sound) (herrand : Visiting.OnErrand (s.visits id)) {q : Nat}
    (hopen : s.world.store.pool.current = some q) {phase : Phase (Purpose.Answer .openPool)}
    (hvisit : s.visits id = some ⟨.openPool, phase⟩) (hstep : s.step id choice = some s') :
    s'.result? id = some (.ok .done) ∧
      s'.world.store.connections = s.world.store.connections ∧
      s'.world.store.pool.tracked = s.world.store.pool.tracked := by
  have hphase := h.isOpening_of_open hvisit hopen
  have hqueue := queue?_of_openPool herrand hvisit
  obtain ⟨t, t', ht, hr, ht', -⟩ := exists_task_step hstep
  have hstage : t.stage = .visiting .openPool phase := by
    rw [visits, ht, Option.bind_some] at hvisit
    cases hs : t.stage with
    | visiting =>
      rw [hs] at hvisit
      cases hvisit
      rfl
    | _ =>
      rw [hs] at hvisit
      cases hvisit
  obtain ⟨st, hst, hstore, hafter⟩ := Task.stage_of_visiting hr hstage
  obtain ⟨hended, hsame⟩ := Visit.step_of_open hst hopen hphase hqueue
  rw [hended] at hafter
  refine ⟨result?_eq_some_iff.2 ⟨t', ht', hafter⟩, ?_⟩
  have hstore' : s'.world.store = st.store := hstore
  rw [hstore']
  obtain hsame | hsame := hsame
  · rw [hsame]
    exact ⟨rfl, rfl⟩
  · rw [hsame]
    exact ⟨rfl, rfl⟩

/-! ### Histories -/

/-- The system is in order, and its history tells of a row of attempts, the first connection of
which has the number `n`, and of whatever a task that only opens the pool has failed with. -/
structure Recorded (s : System) (n : Nat) (history : List (Nat × OpeningEvent)) : Prop where
  sound : s.Sound
  once : TracksOnce s.world.store
  onErrand : ∀ id, Visiting.OnErrand (s.visits id)
  attempts : ∃ attempts, s.Attempted n attempts ∧ historyOf attempts = history
  answers : ∀ id r, s.calls[id]? = some .openPool → s.result? id = some r →
    s.Answers history id r

theorem tracksOnce_of_step (h : s.Sound) (honce : TracksOnce s.world.store)
    (hstep : s.step id choice = some s') : TracksOnce s'.world.store := by
  have hcontributes := contributes_of_step h hstep
  generalize s.openingEvents id choice = events at hcontributes
  cases hcontributes with
  | nothing store =>
    rw [store]
    exact honce
  | visit step store =>
    rw [store]
    exact (Visit.moves_of_step step).tracksOnce honce

/-- What a task has ended with stays explained in a step. -/
theorem Answers.step {history more : List (Nat × OpeningEvent)} {r : Except Error Reply}
    (h : s.Answers history other r) (hsound : s.Sound) (hstep : s.step id choice = some s') :
    s'.Answers (history ++ more) other r := by
  cases h with
  | opened isOpen =>
    obtain ⟨q, hq⟩ := Option.ne_none_iff_exists'.1 isOpen
    exact .opened (by rw [hsound.current_of_step hstep hq]; nofun)
  | failed own => exact .failed (List.mem_append_left _ own)

/-- **A step is recorded.** -/
theorem Recorded.step {n : Nat} {history : List (Nat × OpeningEvent)} (h : s.Recorded n history)
    (hstep : s.step id choice = some s') :
    s'.Recorded n (history ++ s.openingEvents id choice) := by
  have hsound := h.sound
  refine ⟨hsound.step hstep, tracksOnce_of_step hsound h.once hstep, ?_, ?_, ?_⟩
  · exact visits_of_step_induct hsound (fun _ => Visiting.onErrand_of_isIdle)
      (h.onErrand id).moves hstep h.onErrand
  · obtain ⟨attempts, hattempts, rfl⟩ := h.attempts
    exact hattempts.step hsound h.once hstep
  · intro other r hcall hdone
    rw [calls_of_step hstep] at hcall
    cases hbefore : s.result? other with
    | some r' =>
      have hsame := result?_of_step hstep hbefore
      rw [hdone, Option.some.injEq] at hsame
      subst hsame
      exact (h.answers other r hcall hbefore).step hsound hstep
    | none =>
      obtain rfl := eq_of_ends hstep hbefore hdone
      obtain ⟨u, hu, hopens⟩ := getElem?_calls_eq_some_iff.1 hcall
      cases hsound.answers_of_step (h.onErrand other) hu hopens hstep hdone with
      | opened isOpen => exact .opened isOpen
      | failed own => exact .failed (List.mem_append_right _ own)

theorem Recorded.forgetLocks {n : Nat} {history : List (Nat × OpeningEvent)}
    (h : s.Recorded n history) : s.forgetLocks.Recorded n history := by
  obtain ⟨attempts, hattempts, hhistory⟩ := h.attempts
  refine ⟨h.sound.forgetLocks, h.once, h.onErrand, ⟨attempts, hattempts.forgetLocks, hhistory⟩, ?_⟩
  intro id r hcall hdone
  cases h.answers id r hcall hdone with
  | opened isOpen => exact .opened isOpen
  | failed own => exact .failed own

/-- Tasks that have not begun have nothing to record. -/
theorem recorded_start {w : World} {calls : List Call} (hrest : w.AtRest)
    (hclosed : w.store.pool.current = none) (hstays : ∀ call, call ∈ calls → call ≠ .closePool) :
    (start w calls).Recorded w.store.connections.length [] := by
  have hempty : w.store.pool.tracked = [] := hrest.store.shut hclosed
  have honce : TracksOnce w.store := by
    constructor
    · rw [hempty]
      exact List.nodup_nil
    · rw [hempty]
      exact List.forall_mem_nil _
  have hattempted : (start w calls).Attempted w.store.connections.length [] := by
    refine .closed (m := 0) (List.forall_mem_nil _) rfl rfl hclosed hempty fun id => ?_
    rw [visits_start]
    rfl
  refine ⟨sound_start hrest hstays, honce, fun id => ?_, ⟨[], hattempted, rfl⟩, ?_⟩
  · rw [visits_start]
    exact Visiting.onErrand_of_isIdle (.inl rfl)
  · intro id r _ hdone
    obtain ⟨t, ht, hstage⟩ := result?_eq_some_iff.1 hdone
    rw [(stage_of_start ht).2] at hstage
    cases hstage

end System

/-- What these steps of the tasks of a system contribute to opening the pool. -/
def System.openingEventsOn (s : System) : List (Nat × Choice) → List (Nat × OpeningEvent)
  | [] => []
  | (id, choice) :: steps =>
    match s.step id choice with
    | none => []
    | some next => s.openingEvents id choice ++ next.openingEventsOn steps

/-- Steps that can be taken make a run, with what they contribute. -/
theorem OpeningRun.of_follow {steps : List (Nat × Choice)} {s₀ s s' : System}
    {es es' : List Event} {history : List (Nat × OpeningEvent)} (h : OpeningRun s₀ es history s)
    (hfollow : s.follow steps = some (es', s')) :
    OpeningRun s₀ (es ++ es') (history ++ s.openingEventsOn steps) s' := by
  induction steps generalizing s es es' history with
  | nil =>
    cases hfollow
    simpa [System.openingEventsOn] using h
  | cons first steps ih =>
    obtain ⟨id, choice⟩ := first
    simp only [System.follow] at hfollow
    cases hstep : s.step id choice with
    | none =>
      rw [hstep] at hfollow
      cases hfollow
    | some next =>
      rw [hstep] at hfollow
      simp only [Option.map_eq_some_iff] at hfollow
      obtain ⟨⟨rest, last⟩, hrest, heq⟩ := hfollow
      cases heq
      have hrun := ih (h.step hstep) hrest
      simpa [System.openingEventsOn, hstep] using hrun

namespace OpeningRun

variable {w : World} {calls : List Call} {es : List Event} {history : List (Nat × OpeningEvent)}
  {s₀ s : System}

theorem recorded {n : Nat} (h : OpeningRun s₀ es history s) (hstart : s₀.Recorded n []) :
    s.Recorded n history := by
  induction h with
  | start => exact hstart
  | step _ step ih => exact ih.step step
  | forget _ ih => exact ih.forgetLocks

/-- **One attempt to open the pool goes on at a time, and a failed one can be made again.**  In every
state of every run from a closed pool that nobody closes, however many tasks want it open:

The history is that of a row of attempts, one after the other, of which all but the last have
failed: each of these has closed what it had made and its task has raised the fault.  What the
history says is true of the stores.  No two tasks open the pool at the same time, and whoever does
can go on.

While the pool is closed and nobody opens it, it tracks no connection and all that were made are
closed, and the first in line can begin an attempt, and does so with its next step.

Once the pool is open, it has as many connections as places, each in its queue or in the hands of
one task.  The first in line can leave it, and a task that only opens the pool returns without
connecting again.

A task that only opens the pool has returned when the pool is open, or with its own failure. -/
theorem single_flight (hrest : w.AtRest) (hclosed : w.store.pool.current = none)
    (hstays : ∀ call, call ∈ calls → call ≠ .closePool)
    (hrun : OpeningRun (System.start w calls) es history s) :
    (∃ attempts, s.Attempted w.store.connections.length attempts ∧ historyOf attempts = history) ∧
    (∀ id choice s', s.step id choice = some s' → ∀ other e,
      (other, e) ∈ s.openingEvents id choice → other = id ∧ e.Says s.world.store s'.world.store) ∧
    (∀ id choice s', s.step id choice = some s' → ∀ other f,
      (other, .fails f) ∈ s.openingEvents id choice →
      (∃ e, s'.result? other = some (.error e) ∧ e.cause? = some f) ∧
        s'.world.store.pool.current = none ∧ s'.world.store.pool.tracked = [] ∧
        ∀ id, Visiting.isOpening (s'.visits id) = false) ∧
    (∀ id, Visiting.isOpening (s.visits id) = true →
      (∃ s', s.step id .go = some s') ∧
        ∀ other, Visiting.isOpening (s.visits other) = true → id = other) ∧
    (s.world.store.pool.current = none →
      (∀ id, Visiting.isOpening (s.visits id) = false) →
      s.world.store.pool.tracked = [] ∧
      (∀ c, w.store.connections.length ≤ c → s.world.store.isOpen c = false) ∧
      ∀ id, s.world.store.pool.opening.head? = some id →
        (∃ s', s.step id .go = some s') ∧ ∀ choice s', s.step id choice = some s' →
          (s.openingEvents id choice).head? = some (id, .begins)) ∧
    (∀ q, s.world.store.pool.current = some q →
      s.world.store.pool.tracked.length = w.store.pool.size.toNat ∧
      (s.world.store.pool.queue q ++ s.lent).Perm s.world.store.pool.tracked ∧
      (∀ id, s.world.store.pool.opening.head? = some id → ∃ s', s.step id .go = some s' ∧
        s'.world.store = s.world.store.withPool s.world.store.pool.leave) ∧
      ∀ id choice s', ∀ phase : Phase (Purpose.Answer .openPool),
        s.visits id = some ⟨.openPool, phase⟩ → s.step id choice = some s' →
        s'.result? id = some (.ok .done) ∧
          s'.world.store.connections = s.world.store.connections ∧
          s'.world.store.pool.tracked = s.world.store.pool.tracked) ∧
    ∀ id r, calls[id]? = some .openPool → s.result? id = some r → s.Answers history id r := by
  have hrecorded := hrun.recorded (System.recorded_start hrest hclosed hstays)
  have hsound := hrecorded.sound
  have hopenings := hsound.store.openings
  refine ⟨hrecorded.attempts, ?_, ?_, ?_, ?_, ?_, ?_⟩
  · exact fun id choice s' hstep other e he => hsound.says_of_step hstep he
  · exact fun id choice s' hstep other f hf => hsound.fails_of_step hstep hf
  · exact fun id hopening => ⟨hsound.exists_step_of_isOpening hopening,
      fun other hother => hopenings.opener_unique hopening hother⟩
  · intro hshut hnobody
    refine ⟨hopenings.shut hshut hnobody, ?_, fun id => hsound.begins_of_first hshut hnobody⟩
    obtain ⟨attempts, hattempts, -⟩ := hrecorded.attempts
    exact hattempts.isOpen_of_closed hshut hnobody
  · intro q hopen
    have hsize : s.world.store.pool.size = w.store.pool.size := hrun.run.size
    obtain ⟨attempts, hattempts, -⟩ := hrecorded.attempts
    refine ⟨?_, hsound.perm_tracked hrecorded.once hopen, fun id => hsound.leaves_of_first hopen, ?_⟩
    · rw [← hsize]
      exact hattempts.length_tracked hopen
    · intro id choice s' phase hvisit hstep
      exact hsound.returns_of_open (hrecorded.onErrand id) hopen hvisit hstep
  · intro id r hcall hdone
    refine hrecorded.answers id r ?_ hdone
    rw [hrun.run.calls, System.calls_start]
    exact hcall

/-- A pool of two connections.  The first attempt fails at the second connection, and the task `1`,
which has waited, makes the next.  The task `2` has waited as well, and returns. -/
theorem single_flight_of_three :
    ∃ es s, OpeningRun (System.start (World.withRow (.blank "c" "u") 2 (.script 0 []))
        [.openPool, .borrow (.ask .count), .openPool]) es
        [(0, .begins), (0, .connects 0), (0, .setsUp 0), (0, .closes 0), (0, .fails .locked),
          (1, .begins), (1, .connects 1), (1, .setsUp 1), (1, .connects 2), (1, .opens 0)] s ∧
      (∃ attempts, s.Attempted 0 attempts ∧ historyOf attempts =
        [(0, .begins), (0, .connects 0), (0, .setsUp 0), (0, .closes 0), (0, .fails .locked),
          (1, .begins), (1, .connects 1), (1, .setsUp 1), (1, .connects 2), (1, .opens 0)]) ∧
      s.world.store.pool.tracked.length = 2 ∧
      (s.world.store.pool.queue 0 ++ s.lent).Perm s.world.store.pool.tracked := by
  let calls : List Call := [.openPool, .borrow (.ask .count), .openPool]
  let s₀ := System.start (World.withRow (.blank "c" "u") 2 (.script 0 [])) calls
  let steps : List (Nat × Choice) := [(0, .go), (0, .go), (1, .go), (1, .go), (2, .go), (2, .go),
    (0, .go), (0, .go), (0, .fail .locked), (0, .go), (0, .go), (1, .go), (1, .go), (1, .go),
    (1, .go), (2, .go)]
  have hhistory : s₀.openingEventsOn steps =
      [(0, .begins), (0, .connects 0), (0, .setsUp 0), (0, .closes 0), (0, .fails .locked),
        (1, .begins), (1, .connects 1), (1, .setsUp 1), (1, .connects 2), (1, .opens 0)] := by
    decide +kernel
  have hview : (s₀.follow steps).map (fun r => r.2.world.store.pool.current) = some (some 0) := by
    decide +kernel
  obtain ⟨⟨es, s⟩, hfollow, hopen⟩ := Option.map_eq_some_iff.1 hview
  have hrun : OpeningRun s₀ ([] ++ es) ([] ++ s₀.openingEventsOn steps) s :=
    OpeningRun.start.of_follow hfollow
  rw [hhistory] at hrun
  obtain ⟨hattempts, -, -, -, -, hopened, -⟩ :=
    single_flight (World.atRest_world ..) rfl (by simp [calls]) hrun
  obtain ⟨hlength, hperm, -⟩ := hopened 0 hopen
  exact ⟨_, s, hrun, hattempts, hlength, hperm⟩

end OpeningRun

end Ledger

end CharacterLedger
