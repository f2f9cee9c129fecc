import CharacterLedger.Proofs.Storage.Slots

/-!
# Opening and lending

One visit at a time opens the pool, and those that want it open stand in line behind.  While the
pool is being opened, the tracked connections are those that its visit has made so far.  Once it is
open, every tracked connection is at hand or lent to a visit.

* `Openings` — the line, the connections of an unfinished opening, and those of an open pool;
* `Openings.stay` to `Openings.replace` — one lemma for each thing that a move does to the pool;
* `Openings.moves` — a move of any visit keeps it so.

This holds as long as nobody closes the pool.
-/

namespace CharacterLedger.Storage

namespace Visiting

/-- Whether a visit opens the pool or stands in line to open it. -/
def isInLine (v : Option Visiting) : Bool := yields @Phase.isInLine false v

/-- Whether a visit opens the pool. -/
def isOpening (v : Option Visiting) : Bool := yields @Phase.isOpening false v

/-- The connections that a visit that opens the pool has made so far. -/
def made? (v : Option Visiting) : Option (List Nat) := yields @Phase.made? none v

/-- The queue that a visit waits at, or gives its connection back to. -/
def queue? (v : Option Visiting) : Option Nat := yields @Phase.queue? none v

/-- The visits with another one of the task `me`. -/
def replaced (visits : Nat → Option Visiting) (me : Nat) (v : Visiting) : Nat → Option Visiting :=
  fun id => if id = me then some v else visits id

theorem isInLine_of_isOpening {v : Option Visiting} (h : isOpening v = true) :
    isInLine v = true := by
  cases v with
  | none => cases h
  | some v =>
    obtain ⟨p, phase⟩ := v
    cases phase <;> first | rfl | cases h

theorem isOpening_of_made? {v : Option Visiting} {m : List Nat} (h : made? v = some m) :
    isOpening v = true := by
  cases v with
  | none => cases h
  | some v =>
    obtain ⟨p, phase⟩ := v
    cases phase <;> first | rfl | cases h

theorem queue?_of_isOpening {v : Option Visiting} (h : isOpening v = true) :
    queue? v = none := by
  cases v with
  | none => rfl
  | some v =>
    obtain ⟨p, phase⟩ := v
    cases phase <;> first | rfl | cases h

/-- A visit with connections in its hands opens the pool or has a queue to give them back to. -/
theorem isOpening_or_queue? {v : Option Visiting} {c : Nat} (h : c ∈ held? v) :
    isOpening v = true ∨ ∃ q, queue? v = some q := by
  cases v with
  | none => cases h
  | some v =>
    obtain ⟨p, phase⟩ := v
    cases phase <;> first | exact .inl rfl | exact .inr ⟨_, rfl⟩ | cases h

end Visiting

namespace Progress

variable {α : Type}

/-- Whether a visit that goes on stands in line. -/
def isInLine (next : Progress α) : Bool := next.yields @Phase.isInLine false

/-- Whether a visit that goes on opens the pool. -/
def isOpening (next : Progress α) : Bool := next.yields @Phase.isOpening false

/-- The connections that a visit that goes on opening the pool has made so far. -/
def made? (next : Progress α) : Option (List Nat) := next.yields @Phase.made? none

/-- The queue of a visit that goes on. -/
def queue? (next : Progress α) : Option Nat := next.yields @Phase.queue? none

end Progress

/-- The pool between the steps of its visits. -/
structure Openings (pool : Pool) (visits : Nat → Option Visiting) : Prop where
  line : ∀ id, id ∈ pool.opening ↔ Visiting.isInLine (visits id) = true
  nodup : pool.opening.Nodup
  /-- Only the first in line opens the pool, and only when it is closed. -/
  turn : ∀ id, Visiting.isOpening (visits id) = true →
    pool.opening.head? = some id ∧ pool.current = none
  made : ∀ id m, Visiting.made? (visits id) = some m → pool.tracked = m
  /-- A pool that is closed has no connections, unless it is being opened. -/
  shut : pool.current = none → (∀ id, Visiting.isOpening (visits id) = false) → pool.tracked = []
  queue : ∀ id q, Visiting.queue? (visits id) = some q → pool.current = some q
  installed : ∀ q, pool.current = some q → q < pool.queues.length
  /-- Every connection of an open pool is at hand or lent. -/
  lent : ∀ q, pool.current = some q → ∀ c,
    c ∈ pool.tracked ↔ c ∈ pool.queue q ∨ ∃ id, c ∈ Visiting.held? (visits id)

namespace Openings

variable {me : Nat} {p : Purpose} {pool : Pool} {phase : Phase p.Answer}
  {next : Progress p.Answer} {visits visits' : Nat → Option Visiting}

/-- Two visits cannot both open the pool. -/
theorem opener_unique (h : Openings pool visits) {id other : Nat}
    (hid : Visiting.isOpening (visits id) = true)
    (hother : Visiting.isOpening (visits other) = true) : id = other := by
  have := (h.turn id hid).1
  rw [(h.turn other hother).1] at this
  exact (Option.some.inj this).symm

/-- Nobody opens an open pool. -/
theorem not_isOpening_of_current (h : Openings pool visits) {q : Nat}
    (hq : pool.current = some q) (id : Nat) : Visiting.isOpening (visits id) = false := by
  cases ho : Visiting.isOpening (visits id) with
  | false => rfl
  | true =>
    rw [(h.turn id ho).2] at hq
    cases hq

/-- Nothing is lent from a closed pool. -/
theorem held?_of_closed (h : Openings pool visits) (hclosed : pool.current = none) {id c : Nat}
    (hno : Visiting.isOpening (visits id) = false) : c ∉ Visiting.held? (visits id) := by
  intro hc
  obtain ho | ⟨q, hq⟩ := Visiting.isOpening_or_queue? hc
  · rw [hno] at ho
    cases ho
  · rw [h.queue id q hq] at hclosed
    cases hclosed

/-! ### What is said of the visits after a move -/

theorem isInLine_eq (hmoved : Visiting.Moved me phase next visits visits') (id : Nat) :
    Visiting.isInLine (visits' id) =
      if id = me then next.isInLine else Visiting.isInLine (visits id) :=
  hmoved.yields_eq (fun _ => rfl) id

theorem isOpening_eq (hmoved : Visiting.Moved me phase next visits visits') (id : Nat) :
    Visiting.isOpening (visits' id) =
      if id = me then next.isOpening else Visiting.isOpening (visits id) :=
  hmoved.yields_eq (fun _ => rfl) id

theorem made?_eq (hmoved : Visiting.Moved me phase next visits visits') (id : Nat) :
    Visiting.made? (visits' id) =
      if id = me then next.made? else Visiting.made? (visits id) :=
  hmoved.yields_eq (fun _ => rfl) id

theorem queue?_eq (hmoved : Visiting.Moved me phase next visits visits') (id : Nat) :
    Visiting.queue? (visits' id) =
      if id = me then next.queue? else Visiting.queue? (visits id) :=
  hmoved.yields_eq (fun _ => rfl) id

theorem held?_eq (hmoved : Visiting.Moved me phase next visits visits') (id : Nat) :
    Visiting.held? (visits' id) =
      if id = me then next.held else Visiting.held? (visits id) :=
  hmoved.yields_eq (fun _ => rfl) id

/-! ### The things that a move does to the pool -/

/-- A task that begins a visit does nothing to the pool yet. -/
theorem began (h : Openings pool visits) (hbegan : Visiting.Began me visits visits') :
    Openings pool visits' := by
  have hline : ∀ id, Visiting.isInLine (visits' id) = Visiting.isInLine (visits id) :=
    Visiting.Began.yields (fun _ => rfl) hbegan
  have hopening : ∀ id, Visiting.isOpening (visits' id) = Visiting.isOpening (visits id) :=
    Visiting.Began.yields (fun _ => rfl) hbegan
  have hmade : ∀ id, Visiting.made? (visits' id) = Visiting.made? (visits id) :=
    Visiting.Began.yields (fun _ => rfl) hbegan
  have hqueue : ∀ id, Visiting.queue? (visits' id) = Visiting.queue? (visits id) :=
    Visiting.Began.yields (fun _ => rfl) hbegan
  refine ⟨?_, h.nodup, ?_, ?_, ?_, ?_, h.installed, ?_⟩
  · intro id
    rw [hline]
    exact h.line id
  · intro id
    rw [hopening]
    exact h.turn id
  · intro id m
    rw [hmade]
    exact h.made id m
  · intro hclosed hno
    refine h.shut hclosed ?_
    intro id
    rw [← hopening]
    exact hno id
  · intro id q
    rw [hqueue]
    exact h.queue id q
  · intro q hq c
    rw [h.lent q hq c]
    simp only [hbegan.held?]

/-- The pool stays as it is. -/
theorem stay (h : Openings pool visits) (hmoved : Visiting.Moved me phase next visits visits')
    (hline : next.isInLine = phase.isInLine) (hopening : next.isOpening = phase.isOpening)
    (hmade : next.made? = none) (hqueue : ∀ q, next.queue? = some q → pool.current = some q)
    (hheld : next.held = phase.held ∨ pool.current = none) : Openings pool visits' := by
  have hlines : ∀ id, Visiting.isInLine (visits' id) = Visiting.isInLine (visits id) := by
    intro id
    rw [isInLine_eq hmoved]
    by_cases hid : id = me
    · rw [if_pos hid, hline, hid]
      exact (hmoved.yields fun _ => rfl).1.symm
    · rw [if_neg hid]
  have hopens : ∀ id, Visiting.isOpening (visits' id) = Visiting.isOpening (visits id) := by
    intro id
    rw [isOpening_eq hmoved]
    by_cases hid : id = me
    · rw [if_pos hid, hopening, hid]
      exact (hmoved.yields fun _ => rfl).1.symm
    · rw [if_neg hid]
  refine ⟨?_, h.nodup, ?_, ?_, ?_, ?_, h.installed, ?_⟩
  · intro id
    rw [hlines]
    exact h.line id
  · intro id
    rw [hopens]
    exact h.turn id
  · intro id m hm
    rw [made?_eq hmoved] at hm
    split at hm
    · rw [hmade] at hm
      cases hm
    · exact h.made id m hm
  · intro hclosed hno
    refine h.shut hclosed ?_
    intro id
    rw [← hopens]
    exact hno id
  · intro id q hq
    rw [queue?_eq hmoved] at hq
    split at hq
    · exact hqueue q hq
    · exact h.queue id q hq
  · intro q hq c
    have hsame : ∀ id, Visiting.held? (visits' id) = Visiting.held? (visits id) := by
      intro id
      rw [held?_eq hmoved]
      by_cases hid : id = me
      · obtain heq | hclosed := hheld
        · rw [if_pos hid, heq, hid, hmoved.held?.1]
        · rw [hclosed] at hq
          cases hq
      · rw [if_neg hid]
    rw [h.lent q hq c]
    simp only [hsame]

/-- The visit stands in line, behind others if there are any. -/
theorem lineUp (h : Openings pool visits)
    (hmoved : Visiting.Moved me phase (.going .awaitingOpening) visits visits')
    (hphase : phase = .entering) (hclosed : pool.current = none) :
    Openings (pool.join me) visits' := by
  subst hphase
  have hnot : me ∉ pool.opening := by
    rw [h.line]
    rw [show Visiting.isInLine (visits me) = false from (hmoved.yields fun _ => rfl).1]
    exact Bool.false_ne_true
  have hopens : ∀ id, Visiting.isOpening (visits' id) = Visiting.isOpening (visits id) := by
    intro id
    rw [isOpening_eq hmoved]
    by_cases hid : id = me
    · rw [if_pos hid, hid]
      exact (hmoved.yields (f := @Phase.isOpening) fun _ => rfl).1.symm
    · rw [if_neg hid]
  refine ⟨?_, ?_, ?_, ?_, ?_, ?_, h.installed, ?_⟩
  · intro id
    rw [isInLine_eq hmoved]
    show id ∈ pool.opening ++ [me] ↔ _
    rw [List.mem_append, List.mem_singleton, h.line]
    by_cases hid : id = me
    · rw [if_pos hid]
      exact ⟨fun _ => rfl, fun _ => .inr hid⟩
    · rw [if_neg hid]
      exact ⟨fun hor => hor.resolve_right hid, .inl⟩
  · show (pool.opening ++ [me]).Nodup
    rw [List.nodup_append]
    refine ⟨h.nodup, by simp, ?_⟩
    intro a ha b hb hab
    rw [List.mem_singleton.1 hb] at hab
    exact hnot (hab ▸ ha)
  · intro id hid
    rw [hopens] at hid
    obtain ⟨hhead, hcurrent⟩ := h.turn id hid
    refine ⟨?_, hcurrent⟩
    show (pool.opening ++ [me]).head? = some id
    rw [List.head?_append, hhead]
    rfl
  · intro id m hm
    rw [made?_eq hmoved] at hm
    split at hm
    · cases hm
    · exact h.made id m hm
  · intro _ hno
    refine h.shut hclosed ?_
    intro id
    rw [← hopens]
    exact hno id
  · intro id q hq
    rw [queue?_eq hmoved] at hq
    split at hq
    · cases hq
    · exact h.queue id q hq
  · intro q hq
    have : pool.current = some q := hq
    rw [hclosed] at this
    cases this

/-- The first in line leaves it, and has opened nothing. -/
theorem leave (h : Openings pool visits) (hmoved : Visiting.Moved me phase next visits visits')
    (hfirst : pool.opening.head? = some me) (hheld : phase.held = [])
    (hline : next.isInLine = false) (hopening : next.isOpening = false) (hmade : next.made? = none)
    (hqueue : ∀ q, next.queue? = some q → pool.current = some q) (hnext : next.held = [])
    (hshut : pool.current = none → pool.tracked = []) : Openings pool.leave visits' := by
  obtain ⟨rest, hrest⟩ : ∃ rest, pool.opening = me :: rest := List.head?_eq_some_iff.1 hfirst
  have hnodup := h.nodup
  rw [hrest, List.nodup_cons] at hnodup
  -- whoever opened the pool would be the first in line
  have hnobody : ∀ id, Visiting.isOpening (visits' id) = false := by
    intro id
    rw [isOpening_eq hmoved]
    by_cases hid : id = me
    · rw [if_pos hid, hopening]
    · rw [if_neg hid]
      cases ho : Visiting.isOpening (visits id) with
      | false => rfl
      | true =>
        rw [(h.turn id ho).1] at hfirst
        exact absurd (Option.some.inj hfirst) hid
  refine ⟨?_, ?_, ?_, ?_, ?_, ?_, h.installed, ?_⟩
  · intro id
    show id ∈ pool.opening.tail ↔ _
    rw [isInLine_eq hmoved, hrest, List.tail_cons]
    by_cases hid : id = me
    · rw [if_pos hid, hline, hid]
      exact ⟨fun hm => absurd hm hnodup.1, fun hm => by cases hm⟩
    · rw [if_neg hid, ← h.line, hrest, List.mem_cons]
      exact ⟨.inr, fun hm => hm.resolve_left hid⟩
  · show pool.opening.tail.Nodup
    rw [hrest]
    exact hnodup.2
  · intro id hid
    rw [hnobody] at hid
    cases hid
  · intro id m hm
    rw [made?_eq hmoved] at hm
    split at hm
    · rw [hmade] at hm
      cases hm
    · exact h.made id m hm
  · intro hclosed _
    exact hshut hclosed
  · intro id q hq
    rw [queue?_eq hmoved] at hq
    split at hq
    · exact hqueue q hq
    · exact h.queue id q hq
  · intro q hq c
    have hsame : ∀ id, Visiting.held? (visits' id) = Visiting.held? (visits id) := by
      intro id
      rw [held?_eq hmoved]
      by_cases hid : id = me
      · rw [if_pos hid, hnext, hid, hmoved.held?.1, hheld]
      · rw [if_neg hid]
    show c ∈ pool.tracked ↔ c ∈ pool.queue q ∨ _
    rw [h.lent q hq c]
    simp only [hsame]

/-- The first in line begins to open the pool. -/
theorem start (h : Openings pool visits)
    (hmoved : Visiting.Moved me phase (.going (.connecting [])) visits visits')
    (hphase : phase = .awaitingOpening) (hfirst : pool.opening.head? = some me)
    (hclosed : pool.current = none) (hnone : pool.tracked = []) : Openings pool visits' := by
  subst hphase
  refine ⟨?_, h.nodup, ?_, ?_, ?_, ?_, h.installed, ?_⟩
  · intro id
    rw [isInLine_eq hmoved, h.line]
    by_cases hid : id = me
    · rw [if_pos hid, hid]
      rw [show Visiting.isInLine (visits me) = true from (hmoved.yields fun _ => rfl).1]
      exact ⟨fun _ => rfl, fun _ => rfl⟩
    · rw [if_neg hid]
  · intro id hid
    rw [isOpening_eq hmoved] at hid
    split at hid
    · next hme => exact ⟨hme ▸ hfirst, hclosed⟩
    · exact h.turn id hid
  · intro id m hm
    rw [made?_eq hmoved] at hm
    split at hm
    · rw [hnone]
      exact Option.some.inj hm
    · exact h.made id m hm
  · intro _ _
    exact hnone
  · intro id q hq
    rw [queue?_eq hmoved] at hq
    split at hq
    · cases hq
    · exact h.queue id q hq
  · intro q hq
    rw [hclosed] at hq
    cases hq

/-- The visit that opens the pool goes on, with other connections. -/
theorem goOn (h : Openings pool visits) (hmoved : Visiting.Moved me phase next visits visits')
    (hphase : phase.isOpening = true) (hnext : next.isOpening = true) (tracked : List Nat)
    (hmade : ∀ m, next.made? = some m → tracked = m) :
    Openings { pool with tracked := tracked } visits' := by
  have hme : Visiting.isOpening (visits me) = true := (hmoved.yields fun _ => rfl).1.trans hphase
  have hme' : Visiting.isOpening (visits' me) = true := (hmoved.yields fun _ => rfl).2.trans hnext
  have hclosed := (h.turn me hme).2
  have hopens : ∀ id, Visiting.isOpening (visits' id) = Visiting.isOpening (visits id) := by
    intro id
    by_cases hid : id = me
    · rw [hid, hme, hme']
    · rw [hmoved.others id hid]
  refine ⟨?_, h.nodup, ?_, ?_, ?_, ?_, h.installed, ?_⟩
  · intro id
    show id ∈ pool.opening ↔ _
    rw [h.line]
    by_cases hid : id = me
    · rw [hid, Visiting.isInLine_of_isOpening hme, Visiting.isInLine_of_isOpening hme']
    · rw [hmoved.others id hid]
  · intro id hid
    rw [hopens] at hid
    exact h.turn id hid
  · intro id m hm
    rw [made?_eq hmoved] at hm
    split at hm
    · exact hmade m hm
    · next hid => exact absurd (h.opener_unique (Visiting.isOpening_of_made? hm) hme) hid
  · intro _ hno
    rw [hno] at hme'
    cases hme'
  · intro id q hq
    by_cases hid : id = me
    · rw [hid, Visiting.queue?_of_isOpening hme'] at hq
      cases hq
    · rw [hmoved.others id hid] at hq
      exact h.queue id q hq
  · intro q hq
    have : pool.current = some q := hq
    rw [hclosed] at this
    cases this

/-- A visit that arrives at an open pool waits at its queue, if it wants a connection, and has come to
its end otherwise. -/
theorem arrival_spec (p : Purpose) (q : Nat) :
    (Visit.arrival p q).isInLine = false ∧ (Visit.arrival p q).isOpening = false ∧
      (Visit.arrival p q).made? = none ∧ (Visit.arrival p q).held = [] ∧
      ∀ q', (Visit.arrival p q).queue? = some q' → q' = q := by
  cases p with
  | borrow e => exact ⟨rfl, rfl, rfl, rfl, fun q' hq' => (Option.some.inj hq').symm⟩
  | openPool => exact ⟨rfl, rfl, rfl, rfl, fun q' hq' => by cases hq'⟩

/-- The first in line installs the connections that have been made, and leaves the line. -/
theorem finish (h : Openings pool visits) (hmoved : Visiting.Moved me phase next visits visits')
    (hfirst : pool.opening.head? = some me) (hclosed : pool.current = none) (made : List Nat)
    (hnext : next = Visit.arrival p pool.queues.length) :
    Openings ({ pool with tracked := made }.install made).leave visits' := by
  obtain ⟨rest, hrest⟩ : ∃ rest, pool.opening = me :: rest := List.head?_eq_some_iff.1 hfirst
  have hnodup := h.nodup
  rw [hrest, List.nodup_cons] at hnodup
  obtain ⟨hline, hopening, hmade, hheld, hqueue⟩ := arrival_spec p pool.queues.length
  rw [← hnext] at hline hopening hmade hheld hqueue
  -- whoever else opened the pool would be the first in line
  have hothers : ∀ id, id ≠ me → Visiting.isOpening (visits id) = false := by
    intro id hid
    cases ho : Visiting.isOpening (visits id) with
    | false => rfl
    | true =>
      rw [(h.turn id ho).1] at hfirst
      exact absurd (Option.some.inj hfirst) hid
  have hnobody : ∀ id, Visiting.isOpening (visits' id) = false := by
    intro id
    rw [isOpening_eq hmoved]
    by_cases hid : id = me
    · rw [if_pos hid, hopening]
    · rw [if_neg hid, hothers id hid]
  refine ⟨?_, ?_, ?_, ?_, ?_, ?_, ?_, ?_⟩
  · intro id
    show id ∈ pool.opening.tail ↔ _
    rw [isInLine_eq hmoved, hrest, List.tail_cons]
    by_cases hid : id = me
    · rw [if_pos hid, hline, hid]
      exact ⟨fun hm => absurd hm hnodup.1, fun hm => by cases hm⟩
    · rw [if_neg hid, ← h.line, hrest, List.mem_cons]
      exact ⟨.inr, fun hm => hm.resolve_left hid⟩
  · show pool.opening.tail.Nodup
    rw [hrest]
    exact hnodup.2
  · intro id hid
    rw [hnobody] at hid
    cases hid
  · intro id m hm
    rw [made?_eq hmoved] at hm
    split at hm
    · rw [hmade] at hm
      cases hm
    · next hid =>
      have := Visiting.isOpening_of_made? hm
      rw [hothers id hid] at this
      cases this
  · intro hnone
    cases hnone
  · intro id q hq
    rw [queue?_eq hmoved] at hq
    split at hq
    · rw [hqueue q hq]
      rfl
    · have := h.queue id q hq
      rw [hclosed] at this
      cases this
  · intro q hq
    cases hq
    simp [Pool.install, Pool.leave]
  · intro q hq c
    cases hq
    have hnew : (({ pool with tracked := made }.install made).leave).queue pool.queues.length =
        made := Pool.queue_install_new { pool with tracked := made } made
    rw [hnew]
    refine ⟨.inl, ?_⟩
    rintro (hc | ⟨id, hc⟩)
    · exact hc
    · rw [held?_eq hmoved] at hc
      split at hc
      · rw [hheld] at hc
        cases hc
      · next hid => exact absurd hc (h.held?_of_closed hclosed (hothers id hid))

/-! ### Lending and giving back -/

section Lending

variable {q c : Nat}

/-- A move of a visit that is neither in line before nor after. -/
theorem ofQueue (h : Openings pool visits) (hmoved : Visiting.Moved me phase next visits visits')
    (hphase : phase.queue? = some q) (hnext : next.isInLine = false)
    (hqueue : ∀ q', next.queue? = some q' → q' = q) (pool' : Pool)
    (hopening : pool'.opening = pool.opening) (hcurrent : pool'.current = pool.current)
    (hlength : pool'.queues.length = pool.queues.length)
    (hlent : ∀ x, x ∈ pool'.tracked ↔
      x ∈ pool'.queue q ∨ ∃ id, x ∈ Visiting.held? (visits' id)) :
    Openings pool' visits' := by
  have hq : pool.current = some q := h.queue me q ((hmoved.yields fun _ => rfl).1.trans hphase)
  have hline : phase.isInLine = false := by cases phase <;> first | rfl | cases hphase
  have hmade : next.made? = none := by
    cases next with
    | ended => rfl
    | going phase' => cases phase' <;> first | rfl | cases hnext
  have hopens : next.isOpening = false := by
    cases next with
    | ended => rfl
    | going phase' => cases phase' <;> first | rfl | cases hnext
  have hnobody : ∀ id, Visiting.isOpening (visits' id) = false := by
    intro id
    rw [isOpening_eq hmoved]
    split
    · exact hopens
    · exact h.not_isOpening_of_current hq id
  refine ⟨?_, hopening ▸ h.nodup, ?_, ?_, ?_, ?_, ?_, ?_⟩
  · intro id
    rw [hopening, isInLine_eq hmoved, h.line]
    by_cases hid : id = me
    · rw [if_pos hid, hnext, hid]
      rw [show Visiting.isInLine (visits me) = phase.isInLine from (hmoved.yields fun _ => rfl).1,
        hline]
    · rw [if_neg hid]
  · intro id hid
    rw [hnobody] at hid
    cases hid
  · intro id m hm
    have := Visiting.isOpening_of_made? hm
    rw [hnobody] at this
    cases this
  · intro hclosed
    rw [hcurrent, hq] at hclosed
    cases hclosed
  · intro id q' hq'
    rw [queue?_eq hmoved] at hq'
    rw [hcurrent]
    split at hq'
    · rw [hqueue q' hq', hq]
    · exact h.queue id q' hq'
  · intro q' hq'
    rw [hlength]
    exact h.installed q' (hcurrent ▸ hq')
  · intro q' hq'
    rw [hcurrent, hq, Option.some.injEq] at hq'
    subst hq'
    exact hlent

/-- A visit that stays at its queue with what it holds leaves the pool as it is. -/
theorem keep (h : Openings pool visits) (hmoved : Visiting.Moved me phase next visits visits')
    (hphase : phase.queue? = some q) (hnext : next.isInLine = false)
    (hqueue : ∀ q', next.queue? = some q' → q' = q) (hheld : next.held = phase.held) :
    Openings pool visits' := by
  have hq : pool.current = some q := h.queue me q ((hmoved.yields fun _ => rfl).1.trans hphase)
  have hsame : ∀ id, Visiting.held? (visits' id) = Visiting.held? (visits id) := by
    intro id
    rw [held?_eq hmoved]
    by_cases hid : id = me
    · rw [if_pos hid, hheld, hid, hmoved.held?.1]
    · rw [if_neg hid]
  refine h.ofQueue hmoved hphase hnext hqueue pool rfl rfl rfl ?_
  intro x
  rw [h.lent q hq x]
  simp only [hsame]

/-- So does a visit that goes on at its queue. -/
theorem goOnAtQueue (h : Openings pool visits) {phase' : Phase p.Answer}
    (hmoved : Visiting.Moved me phase (.going phase') visits visits')
    (hphase : phase.queue? = some q) (hnext : phase'.queue? = some q)
    (hheld : phase'.held = phase.held) : Openings pool visits' := by
  have hline : phase'.isInLine = false := by cases phase' <;> first | rfl | cases hnext
  exact h.keep hmoved hphase hline (fun q' hq' => Option.some.inj (hq'.symm.trans hnext)) hheld

/-- A connection is lent. -/
theorem take (h : Openings pool visits) (hmoved : Visiting.Moved me phase next visits visits')
    {rest : List Nat} (hphase : phase = .awaiting q) (hatHand : pool.queue q = c :: rest)
    (hnext : next.isInLine = false) (hqueue : ∀ q', next.queue? = some q' → q' = q)
    (hheld : next.held = [c]) : Openings (pool.drop q) visits' := by
  subst hphase
  have hq : pool.current = some q := h.queue me q ((hmoved.yields fun _ => rfl).1.trans rfl)
  refine h.ofQueue hmoved rfl hnext hqueue _ rfl rfl (by simp) ?_
  intro x
  show x ∈ pool.tracked ↔ _
  rw [h.lent q hq x, Pool.queue_drop_self, hatHand, List.tail_cons, List.mem_cons]
  constructor
  · rintro ((rfl | hx) | ⟨id, hid⟩)
    · refine .inr ⟨me, ?_⟩
      rw [hmoved.held?.2, hheld]
      exact List.mem_singleton.2 rfl
    · exact .inl hx
    · refine .inr ⟨id, ?_⟩
      by_cases hme : id = me
      · rw [hme, hmoved.held?.1] at hid
        cases hid
      · rw [hmoved.others id hme]
        exact hid
  · rintro (hx | ⟨id, hid⟩)
    · exact .inl (.inr hx)
    · by_cases hme : id = me
      · rw [hme, hmoved.held?.2, hheld] at hid
        exact .inl (.inl (List.mem_singleton.1 hid))
      · rw [hmoved.others id hme] at hid
        exact .inr ⟨id, hid⟩

/-- A connection comes back. -/
theorem put (h : Openings pool visits) (hmoved : Visiting.Moved me phase next visits visits')
    (hphase : phase.queue? = some q) (hheld : phase.held = [c])
    (hnext : ∃ result, next = .ended result) : Openings (pool.put q c) visits' := by
  obtain ⟨result, rfl⟩ := hnext
  have hq : pool.current = some q := h.queue me q ((hmoved.yields fun _ => rfl).1.trans hphase)
  refine h.ofQueue hmoved hphase rfl (fun q' hq' => by cases hq') _ rfl rfl (by simp) ?_
  intro x
  show x ∈ pool.tracked ↔ _
  rw [h.lent q hq x, Pool.queue_put_self pool c (h.installed q hq), List.mem_append,
    List.mem_singleton]
  constructor
  · rintro (hx | ⟨id, hid⟩)
    · exact .inl (.inl hx)
    · by_cases hme : id = me
      · rw [hme, hmoved.held?.1, hheld] at hid
        exact .inl (.inr (List.mem_singleton.1 hid))
      · refine .inr ⟨id, ?_⟩
        rw [hmoved.others id hme]
        exact hid
  · rintro ((hx | rfl) | ⟨id, hid⟩)
    · exact .inl hx
    · refine .inr ⟨me, ?_⟩
      rw [hmoved.held?.1, hheld]
      exact List.mem_singleton.2 rfl
    · by_cases hme : id = me
      · rw [hme, hmoved.held?.2] at hid
        cases hid
      · rw [hmoved.others id hme] at hid
        exact .inr ⟨id, hid⟩

/-- A new connection takes the place of a lent one. -/
theorem replace (h : Openings pool visits) {new : Nat}
    (hmoved : Visiting.Moved me phase (.going (.working q new)) visits visits')
    (hphase : phase = .replacing q c) (hqueue : c ∉ pool.queue q)
    (hothers : ∀ id, id ≠ me → c ∉ Visiting.held? (visits id)) :
    Openings (pool.retrack c new) visits' := by
  subst hphase
  have hq : pool.current = some q := h.queue me q ((hmoved.yields fun _ => rfl).1.trans rfl)
  refine h.ofQueue hmoved rfl rfl (fun q' hq' => (Option.some.inj hq').symm) _ rfl rfl rfl ?_
  intro x
  show x ∈ (pool.tracked.filter fun c' => c' != c) ++ [new] ↔ x ∈ pool.queue q ∨ _
  rw [List.mem_append, List.mem_filter, List.mem_singleton, h.lent q hq x, bne_iff_ne]
  constructor
  · rintro (⟨hx | ⟨id, hid⟩, hne⟩ | rfl)
    · exact .inl hx
    · refine .inr ⟨id, ?_⟩
      by_cases hme : id = me
      · rw [hme, hmoved.held?.1] at hid
        exact absurd (List.mem_singleton.1 hid) hne
      · rw [hmoved.others id hme]
        exact hid
    · refine .inr ⟨me, ?_⟩
      rw [hmoved.held?.2]
      exact List.mem_singleton.2 rfl
  · rintro (hx | ⟨id, hid⟩)
    · refine .inl ⟨.inl hx, ?_⟩
      rintro rfl
      exact hqueue hx
    · by_cases hme : id = me
      · rw [hme, hmoved.held?.2] at hid
        exact .inr (List.mem_singleton.1 hid)
      · rw [hmoved.others id hme] at hid
        refine .inl ⟨.inr ⟨id, hid⟩, ?_⟩
        rintro rfl
        exact hothers id hme hid

end Lending

/-! ### All moves -/

section Moves

variable {s t : Store}

/-- The pool that the first in line finds closed has no connections. -/
theorem tracked_of_first (h : Openings pool visits) (hfirst : pool.opening.head? = some me)
    (hclosed : pool.current = none) (hno : Visiting.isOpening (visits me) = false) :
    pool.tracked = [] := by
  refine h.shut hclosed ?_
  intro id
  cases ho : Visiting.isOpening (visits id) with
  | false => rfl
  | true =>
    rw [(h.turn id ho).1] at hfirst
    rw [Option.some.inj hfirst, hno] at ho
    cases ho

theorem begins (h : Openings s.pool visits)
    (hmoved : Visiting.Moved (p := p) me .awaitingOpening next visits visits')
    (hfirst : s.pool.opening.head? = some me) (hclosed : s.pool.current = none)
    (hbegins : Visit.Begins p s t next) : Openings t.pool visits' := by
  have hnone : s.pool.tracked = [] :=
    h.tracked_of_first hfirst hclosed (hmoved.yields (f := @Phase.isOpening) fun _ => rfl).1
  cases hbegins with
  | refused made =>
    obtain ⟨hpool, -⟩ := Store.pool_makeDirectory made
    rw [Store.withPool, hpool]
    exact h.leave hmoved hfirst rfl rfl rfl rfl (fun q hq => by cases hq) rfl fun _ => hnone
  | empty made =>
    obtain ⟨hpool, -⟩ := Store.pool_makeDirectory made
    have := h.finish hmoved hfirst hclosed [] (by rw [hpool])
    rw [Store.withPool, hpool]
    rw [← hnone] at this ⊢
    exact this
  | going made =>
    obtain ⟨hpool, -⟩ := Store.pool_makeDirectory made
    rw [hpool]
    exact h.start hmoved rfl hfirst hclosed hnone

theorem countsIn (h : Openings pool visits) (hmoved : Visiting.Moved me phase next visits visits')
    (hphase : phase.isOpening = true) {made : List Nat} {c : Nat}
    (hpool : s.pool = { pool with tracked := made ++ [c] })
    (hcounts : Visit.CountsIn p s made c t next) : Openings t.pool visits' := by
  have hme : Visiting.isOpening (visits me) = true := (hmoved.yields fun _ => rfl).1.trans hphase
  obtain ⟨hfirst, hclosed⟩ := h.turn me hme
  cases hcounts with
  | last =>
    show Openings (s.pool.install (made ++ [c])).leave visits'
    rw [hpool] at hmoved ⊢
    exact h.finish hmoved hfirst hclosed _ rfl
  | more =>
    rw [hpool]
    exact h.goOn hmoved hphase rfl _ fun m hm => Option.some.inj hm

/-- The first connection of an opening counts once its database has been prepared. -/
theorem countsFirst (h : Openings pool visits) {c : Nat}
    (hmoved : Visiting.Moved me (.preparing c) next visits visits') (hpool : s.pool = pool)
    (hcounts : Visit.CountsIn p s [] c t next) : Openings t.pool visits' := by
  have hmade : pool.tracked = [c] := h.made me [c] (hmoved.yields fun _ => rfl).1
  refine h.countsIn hmoved rfl ?_ hcounts
  rw [hpool, List.nil_append, ← hmade]

/-- A visit that replaces its connection has been the only one to hold it. -/
theorem replaces (h : Openings s.pool visits) (hslots : Slots s visits) {q c new : Nat}
    (hmoved : Visiting.Moved (p := p) me (.replacing q c) (.going (.working q new)) visits visits')
    (hmade : s.connect = .ok (t, new)) : Openings (t.pool.retrack c new) visits' := by
  obtain ⟨-, hpool, -⟩ := Store.connect_eq_ok hmade
  have hheld : c ∈ Visiting.held? (visits me) := by
    rw [hmoved.held?.1]
    exact List.mem_singleton.2 rfl
  rw [hpool]
  refine h.replace hmoved rfl ?_ ?_
  · exact fun hc => hslots.not_mem_atHand hheld (Pool.mem_atHand_of_mem_queue hc)
  · exact fun id hid hc => hid (hslots.alone id me c hc hheld)

/-- A visit that begins to open the pool at once could as well have stood in line first. -/
theorem beginsFirst (h : Openings s.pool visits)
    (hmoved : Visiting.Moved (p := p) me .entering next visits visits')
    (hclosed : s.pool.current = none) (halone : s.pool.opening = [])
    (hbegins : Visit.Begins p (s.withPool (s.pool.join me)) t next) :
    Openings t.pool visits' := by
  let between := Visiting.replaced visits me ⟨p, .awaitingOpening⟩
  have hbetween : between me = some ⟨p, .awaitingOpening⟩ := if_pos rfl
  have hothers : ∀ id, id ≠ me → between id = visits id := fun id hid => if_neg hid
  have hin : Openings (s.pool.join me) between :=
    h.lineUp ⟨hmoved.before, hbetween, hothers⟩ rfl hclosed
  refine Openings.begins (s := s.withPool (s.pool.join me)) hin
    ⟨hbetween, hmoved.after, ?_⟩ ?_ hclosed hbegins
  · intro id hid
    rw [hmoved.others id hid, hothers id hid]
  · show (s.pool.opening ++ [me]).head? = some me
    rw [halone]
    rfl

/-- **A move of any visit keeps the openings in order.** -/
theorem moves (h : Openings s.pool visits) (hslots : Slots s visits)
    (hmove : Visit.Moves me p s phase t next)
    (hmoved : Visiting.Moved me phase next visits visits') : Openings t.pool visits' := by
  cases hmove with
  | @arrive q isOpen =>
    obtain ⟨hline, hopening, hmade, hheld, hqueue⟩ := arrival_spec p q
    exact h.stay hmoved hline hopening hmade (fun q' hq' => hqueue q' hq' ▸ isOpen) (.inl hheld)
  | lineUp isClosed => exact h.lineUp hmoved rfl isClosed
  | beginFirst isClosed alone begins => exact h.beginsFirst hmoved isClosed alone begins
  | turnAway => exact h.stay hmoved rfl rfl rfl (fun q hq => by cases hq) (.inl rfl)
  | @arriveLater q isOpen first =>
    obtain ⟨hline, hopening, hmade, hheld, hqueue⟩ := arrival_spec p q
    refine h.leave hmoved first rfl hline hopening hmade (fun q' hq' => hqueue q' hq' ▸ isOpen)
      hheld ?_
    intro hclosed
    rw [isOpen] at hclosed
    cases hclosed
  | beginLater isClosed first begins => exact h.begins hmoved first isClosed begins
  | turnAwayLater first =>
    refine h.leave hmoved first rfl rfl rfl rfl (fun q hq => by cases hq) rfl ?_
    intro hclosed
    exact h.tracked_of_first first hclosed (hmoved.yields (f := @Phase.isOpening) fun _ => rfl).1
  | connectFirst made =>
    obtain ⟨-, hpool, -⟩ := Store.connect_eq_ok made
    have hnone : s.pool.tracked = [] := h.made me [] (hmoved.yields fun _ => rfl).1
    have := h.goOn hmoved rfl rfl [_] fun m hm => Option.some.inj hm
    simpa [Visit.track, Store.withPool, hpool, hnone] using this
  | @connectNext made u _ c _ _ connected counts =>
    obtain ⟨-, hpool, -⟩ := Store.connect_eq_ok connected
    have hmade : s.pool.tracked = made := h.made me made (hmoved.yields fun _ => rfl).1
    exact h.countsIn hmoved rfl (by simp [Visit.track, Store.withPool, hpool, hmade]) counts
  | connectFails => exact h.goOn hmoved rfl rfl s.pool.tracked fun m hm => by cases hm
  | prepared alike counts => exact h.countsFirst hmoved alike.pool counts
  | setUp alike _ _ counts =>
    exact h.countsFirst hmoved ((Store.pool_write ..).trans alike.pool) counts
  | preparingFails alike =>
    rw [alike.pool]
    exact h.goOn hmoved rfl rfl s.pool.tracked fun m hm => by cases hm
  | abandonOne => exact h.goOn hmoved rfl rfl s.pool.tracked.dropLast fun m hm => by cases hm
  | abandoned none =>
    have hopening : Visiting.isOpening (visits me) = true := (hmoved.yields fun _ => rfl).1
    exact h.leave hmoved (h.turn me hopening).1 rfl rfl rfl rfl (fun q hq => by cases hq) rfl
      fun _ => none
  | takeInMemory _ atHand | takeToFile _ atHand =>
    exact h.take hmoved rfl atHand rfl (fun q hq => (Option.some.inj hq).symm) rfl
  | giveUp => exact h.stay hmoved rfl rfl rfl (fun q hq => by cases hq) (.inl rfl)
  | sound | unsound | keptOut | commitFails => exact h.goOnAtQueue hmoved rfl rfl rfl
  | replace made => exact h.replaces hslots hmoved made
  | replaceFails | letGo | commitLost | undoLost | giveBack | breakOff | undo =>
    exact h.put hmoved rfl rfl ⟨_, rfl⟩
  | answer alike =>
    rw [alike.pool]
    exact h.goOnAtQueue hmoved rfl rfl rfl
  | draft alike =>
    rw [Store.pool_setDraft, alike.pool]
    exact h.goOnAtQueue hmoved rfl rfl rfl
  | writeAtOnce alike =>
    rw [Store.pool_write, alike.pool]
    exact h.goOnAtQueue hmoved rfl rfl rfl
  | strike alike =>
    rw [Store.pool_beginTransaction, alike.pool]
    exact h.goOnAtQueue hmoved rfl rfl rfl
  | @refuse q c u _ alike =>
    show Openings (u.pool.put q c) visits'
    rw [alike.pool]
    exact h.put hmoved rfl rfl ⟨_, rfl⟩
  | @commit q c =>
    show Openings ((s.commit c).pool.put q c) visits'
    rw [Store.pool_commit]
    exact h.put hmoved rfl rfl ⟨_, rfl⟩

end Moves

end Openings

end CharacterLedger.Storage
