import CharacterLedger.Proofs.Ledger.Conservation

/-!
# What closing the pool leaves behind

Closing the pool closes every tracked connection, and a pool that is closed and left alone tracks
nothing and has nothing open, but for replacements: a visit that replaces a connection while the
pool is closed leaves the new one tracked, and a visit that replaces a connection that is still open
loses track of the old one.

* `Replaces` — a step in which a visit puts one connection in the place of another;
* `CameLate`, `LeftOpen` — the two kinds of connections that such a step leaves behind;
* `Leftovers` — what is tracked in a closed pool, and what is open and out of reach, is of those;
* `Leftovers.step` — a step of any task leaves nothing else behind;
* `Run.leaves_only_replacements` — it is so in every state of every run;
* `Run.not_closes_all` — and there is a run that leaves an open connection behind.
-/

namespace CharacterLedger.Ledger

open CharacterLedger.Storage CharacterLedger.Table

namespace System

/-- The connection that a task is closing, by the number of the task. -/
def closing (s : System) (id : Nat) : Option Nat := s.tasks[id]?.bind fun t => t.stage.closing?

/-- A step of the task `id` in which its visit puts the connection `new` in the place of `old`. -/
def Replaces (id old new : Nat) (s s' : System) : Prop :=
  ∃ p q, s.visits id = some ⟨p, .replacing q old⟩ ∧ s'.visits id = some ⟨p, .working q new⟩

/-- On the way from `s₀` to `s` the connection was put in the place of another, in a closed pool. -/
def CameLate (s₀ : System) (es : List Event) (s : System) (c : Nat) : Prop :=
  ∃ id s₁ s₂ old, Passes s₀ es s id s₁ s₂ ∧ Replaces id old c s₁ s₂ ∧
    s₁.world.store.pool.current = none

/-- On the way from `s₀` to `s` another connection was put in the place of this one, which was
open. -/
def LeftOpen (s₀ : System) (es : List Event) (s : System) (c : Nat) : Prop :=
  ∃ id s₁ s₂ new, Passes s₀ es s id s₁ s₂ ∧ Replaces id c new s₁ s₂ ∧
    s₁.world.store.isOpen c = true

/-- What the run from `s₀` to `s` has left behind. -/
structure Leftovers (s₀ : System) (es : List Event) (s : System) : Prop where
  /-- What a closed pool tracks, which nobody opens, has come there while it was closed. -/
  tracked : s.world.store.pool.current = none →
    (∀ id, Visiting.isOpening (s.visits id) = false) → ∀ c, c ∈ s.world.store.pool.tracked →
    CameLate s₀ es s c
  /-- What is open is tracked or about to be closed, or was open when it was replaced. -/
  isOpen : ∀ c, s.world.store.isOpen c = true → c ∈ s.world.store.pool.tracked ∨
    (∃ id, s.closing id = some c) ∨ LeftOpen s₀ es s c

variable {s₀ s s' : System} {es : List Event} {id : Nat}

theorem closing_of_step {t t' : Task} (ht : s.tasks[id]? = some t)
    (hset : s'.tasks = s.tasks.set id t') :
    s.closing id = t.stage.closing? ∧ s'.closing id = t'.stage.closing? ∧
      ∀ other, other ≠ id → s'.closing other = s.closing other := by
  obtain ⟨hself, hothers⟩ := tasks_of_set ht hset
  refine ⟨by rw [closing, ht]; rfl, by rw [closing, hself]; rfl, ?_⟩
  intro other hother
  rw [closing, hothers other hother]
  rfl

/-- A step of a task that does not close the pool leaves all closing as it is. -/
theorem closing_of_idle {t t' : Task} (ht : s.tasks[id]? = some t)
    (hset : s'.tasks = s.tasks.set id t')
    (hidle : t.stage.closing? = none ∧ t'.stage.closing? = none) : s'.closing = s.closing := by
  obtain ⟨hbefore, hafter, hothers⟩ := closing_of_step ht hset
  funext other
  by_cases hother : other = id
  · rw [hother, hbefore, hafter, hidle.1, hidle.2]
  · exact hothers other hother

theorem CameLate.step {choice : Choice} {c : Nat} (h : CameLate s₀ es s c)
    (hstep : s.step id choice = some s') : CameLate s₀ (es ++ s.events s' id) s' c := by
  obtain ⟨other, s₁, s₂, old, hpasses, hreplaces⟩ := h
  exact ⟨other, s₁, s₂, old, hpasses.step hstep, hreplaces⟩

theorem CameLate.forget {c : Nat} (h : CameLate s₀ es s c) : CameLate s₀ es s.forgetLocks c := by
  obtain ⟨other, s₁, s₂, old, hpasses, hreplaces⟩ := h
  exact ⟨other, s₁, s₂, old, hpasses.forget, hreplaces⟩

theorem LeftOpen.step {choice : Choice} {c : Nat} (h : LeftOpen s₀ es s c)
    (hstep : s.step id choice = some s') : LeftOpen s₀ (es ++ s.events s' id) s' c := by
  obtain ⟨other, s₁, s₂, new, hpasses, hreplaces⟩ := h
  exact ⟨other, s₁, s₂, new, hpasses.step hstep, hreplaces⟩

theorem LeftOpen.forget {c : Nat} (h : LeftOpen s₀ es s c) : LeftOpen s₀ es s.forgetLocks c := by
  obtain ⟨other, s₁, s₂, new, hpasses, hreplaces⟩ := h
  exact ⟨other, s₁, s₂, new, hpasses.forget, hreplaces⟩

/-! ### What a step leaves behind -/

section Moves

variable {p : Purpose} {phase : Phase p.Answer} {next : Progress p.Answer}

theorem replaces_of_moved (hmoved : Visiting.Moved id phase next s.visits s'.visits)
    {q old new : Nat} (hphase : phase = .replacing q old) (hnext : next = .going (.working q new)) :
    Replaces id old new s s' := by
  subst hphase hnext
  exact ⟨p, q, hmoved.before, hmoved.after⟩

/-- Nobody has been opening the pool when nobody opens it after a move that leaves it closed, or
nothing is tracked after it. -/
theorem nobody_opening (hmove : Visit.Moves id p s.world.store phase s'.world.store next)
    (hmoved : Visiting.Moved id phase next s.visits s'.visits)
    (hclosed : s'.world.store.pool.current = none)
    (hno : ∀ other, Visiting.isOpening (s'.visits other) = false) :
    (∀ other, Visiting.isOpening (s.visits other) = false) ∨
      s'.world.store.pool.tracked = [] := by
  have hme : Visiting.isOpening (s'.visits id) = next.isOpening := (hmoved.yields fun _ => rfl).2
  cases hopening : phase.isOpening with
  | true =>
    obtain hgoing | hopen | hnone := hmove.of_isOpening hopening
    · rw [← hme, hno id] at hgoing
      cases hgoing
    · exact absurd hclosed hopen
    · exact .inr hnone
  | false =>
    refine .inl fun other => ?_
    by_cases hother : other = id
    · rw [hother, hmoved.before]
      exact hopening
    · rw [← hmoved.others other hother]
      exact hno other

/-- What a closed pool tracks after a move has come late, or the move has just put it there. -/
theorem Leftovers.tracked_of_move (h : Leftovers s₀ es s)
    (hmove : Visit.Moves id p s.world.store phase s'.world.store next)
    (hmoved : Visiting.Moved id phase next s.visits s'.visits)
    (hclosed : s'.world.store.pool.current = none)
    (hno : ∀ other, Visiting.isOpening (s'.visits other) = false) {c : Nat}
    (hc : c ∈ s'.world.store.pool.tracked) :
    CameLate s₀ es s c ∨
      s.world.store.pool.current = none ∧ ∃ old, Replaces id old c s s' := by
  have hwasClosed := hmove.closed hclosed
  obtain hnobody | hempty := nobody_opening hmove hmoved hclosed hno
  · obtain htracked | hopening | ⟨q, old, hphase, hnext⟩ := hmove.of_mem_tracked hc
    · exact .inl (h.tracked hwasClosed hnobody c htracked)
    · have := hnobody id
      rw [hmoved.before] at this
      cases hopening.symm.trans this
    · exact .inr ⟨hwasClosed, old, replaces_of_moved hmoved hphase hnext⟩
  · rw [hempty] at hc
    cases hc

/-- What is open after a move is tracked, or being closed, or was left open, or the move has just
put another in its place. -/
theorem Leftovers.isOpen_of_move (h : Leftovers s₀ es s)
    (hmove : Visit.Moves id p s.world.store phase s'.world.store next)
    (hmoved : Visiting.Moved id phase next s.visits s'.visits) {c : Nat}
    (hc : s'.world.store.isOpen c = true) :
    c ∈ s'.world.store.pool.tracked ∨ (∃ other, s.closing other = some c) ∨ LeftOpen s₀ es s c ∨
      s.world.store.isOpen c = true ∧ ∃ new, Replaces id c new s s' := by
  obtain htracked | ⟨hwas, huntracked | ⟨q, new, hphase, hnext⟩⟩ := hmove.tracked_of_isOpen hc
  · exact .inl htracked
  · obtain htracked | hclosing | hleft := h.isOpen c hwas
    · exact absurd htracked huntracked
    · exact .inr (.inl hclosing)
    · exact .inr (.inr (.inl hleft))
  · exact .inr (.inr (.inr ⟨hwas, new, replaces_of_moved hmoved hphase hnext⟩))

end Moves

/-- What is open after a step of closing is tracked, or being closed, or was left open. -/
theorem Leftovers.isOpen_of_closes (h : Leftovers s₀ es s) {t t' : Task}
    (ht : s.tasks[id]? = some t) (hset : s'.tasks = s.tasks.set id t')
    (hcloses : Closes (s.world.store.closeTaken t.stage.closing?) s'.world.store t'.stage.closing?)
    {c : Nat} (hc : s'.world.store.isOpen c = true) :
    c ∈ s'.world.store.pool.tracked ∨ (∃ other, s'.closing other = some c) ∨
      LeftOpen s₀ es s c := by
  obtain ⟨hbefore, hafter, hothers⟩ := closing_of_step ht hset
  obtain htracked | hnext | ⟨hwas, huntracked, htaken⟩ := hcloses.tracked_of_isOpen hc
  · exact .inl htracked
  · exact .inr (.inl ⟨id, hafter.trans hnext⟩)
  · obtain htracked | ⟨other, hclosing⟩ | hleft := h.isOpen c hwas
    · exact absurd htracked huntracked
    · -- another task is closing it, for this one has just closed what it had taken
      have hother : other ≠ id := by
        rintro rfl
        exact htaken (hbefore.symm.trans hclosing)
      exact .inr (.inl ⟨other, (hothers other hother).trans hclosing⟩)
    · exact .inr (.inr hleft)

/-- **A step leaves nothing else behind.** -/
theorem Leftovers.step (h : Leftovers s₀ es s) (hrun : Run s₀ es s) {choice : Choice}
    (hstep : s.step id choice = some s') : Leftovers s₀ (es ++ s.events s' id) s' := by
  obtain ⟨t, t', ht, hset, -, hmove⟩ := moves_of_step hstep
  cases turn_of_move ht hset hmove with
  | none store began idle =>
    have hopening : ∀ id, Visiting.isOpening (s'.visits id) = Visiting.isOpening (s.visits id) :=
      Visiting.Began.yields (fun _ => rfl) began
    refine ⟨?_, ?_⟩
    · intro hclosed hno c hc
      rw [store] at hclosed hc
      exact (h.tracked hclosed (fun id => (hopening id).symm.trans (hno id)) c hc).step hstep
    · intro c hc
      rw [store] at hc ⊢
      rw [closing_of_idle ht hset idle]
      exact (h.isOpen c hc).imp_right (.imp_right fun hleft => hleft.step hstep)
  | moves _ move moved _ idle =>
    refine ⟨?_, ?_⟩
    · intro hclosed hno c hc
      obtain hlate | ⟨hwasClosed, old, hreplaces⟩ := h.tracked_of_move move moved hclosed hno hc
      · exact hlate.step hstep
      · exact ⟨id, s, s', old, .last hrun hstep, hreplaces, hwasClosed⟩
    · intro c hc
      rw [closing_of_idle ht hset idle]
      obtain htracked | hclosing | hleft | ⟨hwas, new, hreplaces⟩ :=
        h.isOpen_of_move move moved hc
      · exact .inl htracked
      · exact .inr (.inl hclosing)
      · exact .inr (.inr (hleft.step hstep))
      · exact .inr (.inr ⟨id, s, s', new, .last hrun hstep, hreplaces, hwas⟩)
  | closes _ visits closes =>
    refine ⟨?_, ?_⟩
    · intro hclosed hno c hc
      obtain ⟨last, -, -, -, hcurrent⟩ | ⟨-, hnone⟩ := closes.tracked
      · rw [visits] at hno
        exact (h.tracked (hcurrent.symm.trans hclosed) hno c (closes.of_mem_tracked hc)).step hstep
      · rw [hnone] at hc
        cases hc
    · intro c hc
      exact (h.isOpen_of_closes ht hset closes hc).imp_right (.imp_right fun hleft =>
        hleft.step hstep)

/-- Before anything is connected nothing is left behind. -/
theorem leftovers_start (disk : Disk) (location : Location) (size : Int) (entropy : Dice.Entropy)
    (calls : List Call) :
    Leftovers (start (Session.world disk location size entropy) calls) []
      (start (Session.world disk location size entropy) calls) :=
  ⟨nofun, nofun⟩

/-- All tasks have come to their ends. -/
def AllDone (s : System) : Prop := s.tasks.all (fun t => t.result?.isSome) = true

instance (s : System) : Decidable s.AllDone := inferInstanceAs (Decidable (_ = _))

/-- Nobody visits a pool or closes it when all tasks have come to their ends. -/
theorem AllDone.idle (h : s.AllDone) (id : Nat) : s.visits id = none ∧ s.closing id = none := by
  rw [visits, closing]
  cases ht : s.tasks[id]? with
  | none => exact ⟨rfl, rfl⟩
  | some t =>
    have hdone := List.all_eq_true.1 h t (List.mem_of_getElem? ht)
    rw [Option.bind_some, Option.bind_some]
    cases hs : t.stage with
    | done => exact ⟨rfl, rfl⟩
    | _ =>
      rw [Task.result?, hs] at hdone
      cases hdone

end System

namespace Run

variable {s₀ s : System} {es : List Event}

theorem leftovers (h : Run s₀ es s) (hstart : System.Leftovers s₀ [] s₀) :
    System.Leftovers s₀ es s := by
  induction h with
  | start => exact hstart
  | step run step ih => exact ih.step run step
  | forget _ ih =>
    refine ⟨?_, ?_⟩
    · intro hclosed hno c hc
      exact (ih.tracked hclosed hno c hc).forget
    · intro c hc
      exact (ih.isOpen c hc).imp_right (.imp_right fun hleft => hleft.forget)

/-- **A closed pool that nobody opens or closes has left nothing behind but replacements.**  What it
tracks was put in the place of another connection while the pool was closed.  What is open is
tracked, or it was still open when another connection was put in its place.  So if the run has
replaced no connection, then nothing is tracked and nothing is open. -/
theorem leaves_only_replacements {disk : Disk} {location : Location} {size : Int}
    {entropy : Dice.Entropy} {calls : List Call}
    (hrun : Run (System.start (Session.world disk location size entropy) calls) es s)
    (hclosed : s.world.store.pool.current = none)
    (hopening : ∀ id, Visiting.isOpening (s.visits id) = false)
    (hclosing : ∀ id, s.closing id = none) :
    (∀ c, c ∈ s.world.store.pool.tracked → ∃ id s₁ s₂ old,
      Passes (System.start (Session.world disk location size entropy) calls) es s id s₁ s₂ ∧
        System.Replaces id old c s₁ s₂ ∧ s₁.world.store.pool.current = none) ∧
    (∀ c, s.world.store.isOpen c = true → c ∈ s.world.store.pool.tracked ∨ ∃ id s₁ s₂ new,
      Passes (System.start (Session.world disk location size entropy) calls) es s id s₁ s₂ ∧
        System.Replaces id c new s₁ s₂ ∧ s₁.world.store.isOpen c = true) ∧
    ((∀ id s₁ s₂ old new,
        Passes (System.start (Session.world disk location size entropy) calls) es s id s₁ s₂ →
        ¬ System.Replaces id old new s₁ s₂) →
      s.world.store.pool.tracked = [] ∧ ∀ c, s.world.store.isOpen c = false) := by
  have hleft := hrun.leftovers (System.leftovers_start disk location size entropy calls)
  have htracked := hleft.tracked hclosed hopening
  have hopen : ∀ c, s.world.store.isOpen c = true → c ∈ s.world.store.pool.tracked ∨
      ∃ id s₁ s₂ new,
        Passes (System.start (Session.world disk location size entropy) calls) es s id s₁ s₂ ∧
          System.Replaces id c new s₁ s₂ ∧ s₁.world.store.isOpen c = true := by
    intro c hc
    refine (hleft.isOpen c hc).imp_right fun hout => hout.resolve_left ?_
    rintro ⟨id, hid⟩
    rw [hclosing id] at hid
    cases hid
  refine ⟨htracked, hopen, ?_⟩
  intro hnone
  have hempty : s.world.store.pool.tracked = [] := by
    refine List.eq_nil_iff_forall_not_mem.2 fun c hc => ?_
    obtain ⟨id, s₁, s₂, old, hpasses, hreplaces, -⟩ := htracked c hc
    exact hnone id s₁ s₂ old c hpasses hreplaces
  refine ⟨hempty, fun c => ?_⟩
  cases hc : s.world.store.isOpen c with
  | false => rfl
  | true =>
    obtain htracked | ⟨id, s₁, s₂, new, hpasses, hreplaces, -⟩ := hopen c hc
    · rw [hempty] at htracked
      cases htracked
    · exact absurd hreplaces (hnone id s₁ s₂ c new hpasses)

/-- A pool with one place: its connection is broken off, and while a task replaces it, another
closes the pool. -/
def lateReplacement : Option (List Event × System) :=
  (System.start (World.withRow (.blank "c" "u") 1 (.script 0 []))
    [.borrow .breakConnection, .borrow (.ask .count), .closePool]).follow
      (List.replicate 7 (0, .go) ++ List.replicate 4 (1, .go) ++ List.replicate 2 (2, .go) ++
        List.replicate 3 (1, .go))

/-- The connection that was made last is still open and tracked when all is over, and it was put in
the place of another after the pool had been closed. -/
theorem leaves_only_replacements_of_late :
    ∃ es s, lateReplacement = some (es, s) ∧ s.AllDone ∧
      s.world.store.pool.current = none ∧ s.world.store.pool.tracked = [1] ∧
      s.world.store.isOpen 1 = true ∧ ∃ id s₁ s₂ old,
        Passes (System.start (World.withRow (.blank "c" "u") 1 (.script 0 []))
          [.borrow .breakConnection, .borrow (.ask .count), .closePool]) es s id s₁ s₂ ∧
        System.Replaces id old 1 s₁ s₂ ∧ s₁.world.store.pool.current = none := by
  have hview : lateReplacement.map (fun r => (decide r.2.AllDone, r.2.world.store.pool.current,
      r.2.world.store.pool.tracked, r.2.world.store.isOpen 1)) =
      some (true, none, [1], true) := by decide +kernel
  obtain ⟨⟨es, s⟩, hfollow, hview⟩ := Option.map_eq_some_iff.1 hview
  simp only [Prod.mk.injEq, decide_eq_true_eq] at hview
  obtain ⟨hdone, hclosed, htracked, hopen⟩ := hview
  obtain ⟨hlate, -, -⟩ := leaves_only_replacements (Run.start.of_follow hfollow) hclosed
    (fun id => by rw [(hdone.idle id).1]; rfl) fun id => (hdone.idle id).2
  exact ⟨es, s, hfollow, hdone, hclosed, htracked, hopen, hlate 1 (by simp [htracked])⟩

/-- **Closing does not close everything**: not every pool on a file tracks nothing, and has nothing
open, once it is closed and all tasks have come to their ends. -/
theorem not_closes_all :
    ¬ ∀ (disk : Disk) (path : String) (size : Int) (entropy : Dice.Entropy) (calls : List Call)
      (es : List Event) (s : System),
      Run (System.start (Session.world disk (.file path) size entropy) calls) es s →
      s.world.store.pool.current = none → s.AllDone →
      s.world.store.pool.tracked = [] ∧ ∀ c, s.world.store.isOpen c = false := by
  intro hall
  have hview : lateReplacement.map (fun r => (decide r.2.AllDone, r.2.world.store.pool.current,
      r.2.world.store.isOpen 1)) = some (true, none, true) := by decide +kernel
  obtain ⟨⟨es, s⟩, hfollow, hview⟩ := Option.map_eq_some_iff.1 hview
  simp only [Prod.mk.injEq, decide_eq_true_eq] at hview
  obtain ⟨hdone, hclosed, hopen⟩ := hview
  have hrun := Run.start.of_follow hfollow
  rw [(hall _ _ _ _ _ _ s hrun hclosed hdone).2 1] at hopen
  cases hopen

end Run

end CharacterLedger.Ledger
