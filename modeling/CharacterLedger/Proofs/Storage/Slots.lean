import CharacterLedger.Proofs.Storage.Moves

/-!
# No connection is in two hands

A connection is in a queue, in the hands of one visit, or nowhere any more.  Moves are followed by
counting: how often a number stands in the queues and how often in the hands of the visit that
moves.

* `Moves.count_le` — a move makes no number more frequent, except for those of new connections;
* `Slots` — no number is twice in the queues and hands of all visits, and each is that of a
  connection that has been made;
* `Slots.moves` — a move of any visit keeps it so, whatever the others hold.
-/

namespace CharacterLedger.Storage

/-! ### Queues -/

namespace Pool

/-- The connections in all the queues. -/
def atHand (p : Pool) : List Nat := p.queues.flatten

theorem mem_atHand_of_mem_queue {p : Pool} {q c : Nat} (h : c ∈ p.queue q) : c ∈ p.atHand := by
  unfold queue at h
  cases hq : p.queues[q]? with
  | none => simp [hq] at h
  | some cs =>
    rw [hq, Option.getD_some] at h
    exact List.mem_flatten.2 ⟨cs, List.mem_of_getElem? hq, h⟩

theorem count_modify_append_le (queues : List (List Nat)) (q c d : Nat) :
    (queues.modify q fun cs => cs ++ [c]).flatten.count d ≤
      queues.flatten.count d + [c].count d := by
  induction queues generalizing q with
  | nil => simp
  | cons cs queues ih =>
    cases q with
    | zero =>
      simp only [List.modify_zero_cons, List.flatten_cons, List.count_append]
      omega
    | succ q =>
      have := ih q
      simp only [List.modify_succ_cons, List.flatten_cons, List.count_append]
      omega

theorem count_modify_tail (queues : List (List Nat)) {q c : Nat} {rest : List Nat}
    (h : queues[q]?.getD [] = c :: rest) (d : Nat) :
    (queues.modify q List.tail).flatten.count d + [c].count d = queues.flatten.count d := by
  induction queues generalizing q with
  | nil => simp at h
  | cons cs queues ih =>
    cases q with
    | zero =>
      have hcs : cs = c :: rest := by simpa using h
      subst hcs
      have hcons : (c :: rest).count d = [c].count d + rest.count d := by
        rw [← List.count_append, List.singleton_append]
      simp only [List.modify_zero_cons, List.tail_cons, List.flatten_cons, List.count_append]
      omega
    | succ q =>
      have := ih (q := q) (by simpa using h)
      simp only [List.modify_succ_cons, List.flatten_cons, List.count_append]
      omega

/-- A connection that is put into a queue is there once more, unless there is no such queue. -/
theorem count_put_le (p : Pool) (q c d : Nat) :
    (p.put q c).atHand.count d ≤ p.atHand.count d + [c].count d :=
  count_modify_append_le p.queues q c d

/-- A connection that is taken from a queue is there once less. -/
theorem count_drop (p : Pool) {q c : Nat} {rest : List Nat} (h : p.queue q = c :: rest) (d : Nat) :
    (p.drop q).atHand.count d + [c].count d = p.atHand.count d :=
  count_modify_tail p.queues h d

theorem count_install (p : Pool) (made : List Nat) (d : Nat) :
    (p.install made).atHand.count d = p.atHand.count d + made.count d := by
  simp [atHand, install]

@[simp] theorem atHand_leave (p : Pool) : p.leave.atHand = p.atHand := rfl

@[simp] theorem atHand_join (p : Pool) (me : Nat) : (p.join me).atHand = p.atHand := rfl

@[simp] theorem atHand_retrack (p : Pool) (old new : Nat) :
    (p.retrack old new).atHand = p.atHand := rfl

end Pool

namespace Visit

variable {me : Nat} {p : Purpose} {s t : Store} {next : Progress p.Answer}

@[simp] theorem held_arrival (p : Purpose) (q : Nat) : (arrival p q).held = [] := by
  cases p <;> rfl

theorem count_new (n d : Nat) : [n].count d = if n ≤ d ∧ d < n + 1 then 1 else 0 := by
  rw [List.count_singleton]
  by_cases h : n = d
  · rw [if_pos (by simpa using h), if_pos (by omega)]
  · rw [if_neg (by simpa using h), if_neg (by omega)]

theorem Begins.count_le (h : Begins p s t next) (d : Nat) :
    t.connections.length = s.connections.length ∧
      t.pool.atHand.count d + next.held.count d ≤ s.pool.atHand.count d := by
  cases h with
  | refused made =>
    obtain ⟨hpool, hconn⟩ := Store.pool_makeDirectory made
    simp [Store.withPool, hpool, hconn, Progress.held, Progress.yields]
  | empty made =>
    obtain ⟨hpool, hconn⟩ := Store.pool_makeDirectory made
    have := s.pool.count_install [] d
    simp [Store.withPool, hpool, hconn, this]
  | going made =>
    obtain ⟨hpool, hconn⟩ := Store.pool_makeDirectory made
    simp [hpool, hconn, Progress.held, Progress.yields, Phase.held]

theorem CountsIn.count_le {made : List Nat} {c : Nat} (h : CountsIn p s made c t next) (d : Nat) :
    t.connections.length = s.connections.length ∧
      t.pool.atHand.count d + next.held.count d =
        s.pool.atHand.count d + made.count d + [c].count d := by
  cases h with
  | last =>
    have := s.pool.count_install (made ++ [c]) d
    rw [List.count_append] at this
    refine ⟨rfl, ?_⟩
    simp only [Store.withPool, Pool.atHand_leave, held_arrival, List.count_nil, this]
    omega
  | more =>
    refine ⟨rfl, ?_⟩
    simp only [Progress.held, Progress.yields, Phase.held, List.count_append]
    omega

/-- A connection that is given back goes from the hands of its visit to a queue. -/
theorem count_giveBack {u : Store} (hlength : u.connections.length = s.connections.length)
    (hpool : u.pool = s.pool) (q c d : Nat) :
    s.connections.length ≤ (u.withPool (u.pool.put q c)).connections.length ∧
      (u.withPool (u.pool.put q c)).pool.atHand.count d + [].count d ≤
        s.pool.atHand.count d + [c].count d +
          if s.connections.length ≤ d ∧ d < (u.withPool (u.pool.put q c)).connections.length
          then 1 else 0 := by
  have := s.pool.count_put_le q c d
  simp only [Store.withPool, hlength, hpool, List.count_nil]
  omega

/-- **A move makes no number more frequent** in the queues and the hands of its visit, except that
the number of a new connection is there once. -/
theorem Moves.count_le {phase : Phase p.Answer} (h : Moves me p s phase t next) (d : Nat) :
    s.connections.length ≤ t.connections.length ∧
      t.pool.atHand.count d + next.held.count d ≤
        s.pool.atHand.count d + phase.held.count d +
          if s.connections.length ≤ d ∧ d < t.connections.length then 1 else 0 := by
  cases h with
  | arrive | arriveLater => simp [Phase.held, Store.withPool]
  | lineUp => simp [Progress.held, Progress.yields, Phase.held, Store.withPool]
  | beginFirst _ _ begins =>
    obtain ⟨hlength, hcount⟩ := begins.count_le d
    have hjoin : (s.withPool (s.pool.join me)).pool.atHand = s.pool.atHand := rfl
    have hsame : (s.withPool (s.pool.join me)).connections = s.connections := rfl
    rw [hjoin] at hcount
    rw [hsame] at hlength
    refine ⟨by omega, ?_⟩
    simp only [Phase.held, List.count_nil]
    omega
  | beginLater _ _ begins =>
    obtain ⟨hlength, hcount⟩ := begins.count_le d
    refine ⟨by omega, ?_⟩
    simp only [Phase.held, List.count_nil]
    omega
  | turnAway | turnAwayLater =>
    simp [Progress.held, Progress.yields, Phase.held, Store.withPool]
  | connectFirst made =>
    obtain ⟨hc, hpool, k, hconn, -, -⟩ := Store.connect_eq_ok made
    have := count_new s.connections.length d
    simp [track, Store.withPool, hpool, hconn, Progress.held, Progress.yields, Phase.held,
      Pool.atHand, hc, this]
  | connectNext _ connected counts =>
    obtain ⟨hc, hpool, k, hconn, -, -⟩ := Store.connect_eq_ok connected
    obtain ⟨hlength, hcount⟩ := counts.count_le d
    have := count_new s.connections.length d
    simp only [track, Store.withPool, hconn, List.length_append, List.length_singleton] at hlength
    simp only [track, Store.withPool, hpool, Pool.atHand, hc] at hcount
    rw [this] at hcount
    rw [hlength]
    refine ⟨by omega, ?_⟩
    simp only [Phase.held, Pool.atHand]
    omega
  | connectFails | giveUp | sound | unsound | commitFails | keptOut =>
    simp only [Progress.held, Progress.yields, Phase.held, List.count_nil]
    omega
  | prepared alike counts =>
    obtain ⟨hlength, hcount⟩ := counts.count_le d
    rw [alike.length] at hlength
    rw [alike.pool] at hcount
    refine ⟨by omega, ?_⟩
    simp only [Phase.held, List.count_nil] at hcount ⊢
    omega
  | @setUp c u _ written _ alike _ _ counts =>
    obtain ⟨hlength, hcount⟩ := counts.count_le d
    rw [Store.length_write, alike.length] at hlength
    rw [Store.pool_write, alike.pool] at hcount
    refine ⟨by omega, ?_⟩
    simp only [Phase.held, List.count_nil] at hcount ⊢
    omega
  | preparingFails alike =>
    simp only [Progress.held, Progress.yields, Phase.held, alike.length, alike.pool, List.count_nil]
    omega
  | @abandonOne f c last =>
    have := Store.length_close s c
    simp [Store.closeLast, Pool.untrackLast, Store.withPool, this, Pool.atHand, Progress.held,
      Progress.yields]
  | abandoned =>
    simp [Progress.held, Progress.yields, Phase.held, Store.withPool]
  | takeInMemory _ atHand =>
    have := s.pool.count_drop atHand d
    simp only [Store.withPool, Progress.held, Progress.yields, Phase.held, List.count_nil]
    omega
  | takeToFile _ atHand =>
    have := s.pool.count_drop atHand d
    simp only [Store.withPool, Progress.held, Progress.yields, Phase.held, List.count_nil]
    omega
  | replace made =>
    obtain ⟨hc, hpool, k, hconn, -, -⟩ := Store.connect_eq_ok made
    have := count_new s.connections.length d
    simp [Store.withPool, hpool, hconn, Progress.held, Progress.yields, Phase.held, hc, this]
  | @replaceFails q c | @letGo q c | @commitLost q c | @undoLost q c | @giveBack q c =>
    exact count_giveBack rfl rfl q c d
  | @refuse q c u f alike => exact count_giveBack alike.length alike.pool q c d
  | @breakOff q c => exact count_giveBack (Store.length_close s c) rfl q c d
  | @commit q c => exact count_giveBack (Store.length_commit s c) (Store.pool_commit s c) q c d
  | @undo q c =>
    exact count_giveBack (Store.length_setDraft s c none) (Store.pool_setDraft s c none) q c d
  | answer alike => simp [Progress.held, Progress.yields, Phase.held, alike.length, alike.pool]
  | draft alike =>
    simp [Progress.held, Progress.yields, Phase.held, alike.length, alike.pool]
  | writeAtOnce alike =>
    simp [Progress.held, Progress.yields, Phase.held, alike.length, alike.pool, Store.length_write]
  | strike alike =>
    simp [Progress.held, Progress.yields, Phase.held, alike.length, alike.pool,
      Store.length_beginTransaction, Store.pool_beginTransaction]

end Visit

/-! ### The visits of all tasks -/

/-- A visit: what it is for and how far it has got. -/
abbrev Visiting := (p : Purpose) × Phase p.Answer

namespace Visiting

/-- What can be said of the phase of a visit, and `d` if there is no visit. -/
def yields {β : Type} (f : (α : Type) → Phase α → β) (d : β) : Option Visiting → β
  | some v => f _ v.2
  | none => d

/-- The connections in the hands of a visit, if there is one. -/
def held? (v : Option Visiting) : List Nat := yields @Phase.held [] v

/-- The connection that a visit has begun a transaction on, if there is a visit. -/
def transaction? (v : Option Visiting) : Option Nat := yields @Phase.transaction? none v

/-- No visit, or one that is only about to begin. -/
def IsIdle (v : Option Visiting) : Prop := v = none ∨ ∃ p, v = some ⟨p, .entering⟩

/-- The visit of a task after a move: it goes on, or the task has no visit or a new one. -/
def Follows {p : Purpose} (next : Progress p.Answer) (v : Option Visiting) : Prop :=
  match next with
  | .going phase => v = some ⟨p, phase⟩
  | .ended _ => IsIdle v

/-- The visits of all tasks, before and after the visit of `me` makes a move. -/
structure Moved {p : Purpose} (me : Nat) (phase : Phase p.Answer) (next : Progress p.Answer)
    (visits visits' : Nat → Option Visiting) : Prop where
  before : visits me = some ⟨p, phase⟩
  after : Follows next (visits' me)
  others : ∀ other, other ≠ me → visits' other = visits other

/-- The visits of all tasks, before and after the task `me` may have begun a visit. -/
structure Began (me : Nat) (visits visits' : Nat → Option Visiting) : Prop where
  before : visits me = none
  after : IsIdle (visits' me)
  others : ∀ other, other ≠ me → visits' other = visits other

section Says

variable {β : Type} {f : (α : Type) → Phase α → β} {d : β}

/-- A visit that is about to begin is nothing to speak of. -/
theorem yields_of_isIdle (hf : ∀ α, f α .entering = d) {v : Option Visiting} (h : IsIdle v) :
    yields f d v = d := by
  obtain rfl | ⟨p, rfl⟩ := h
  · rfl
  · exact hf p.Answer

theorem yields_of_follows (hf : ∀ α, f α .entering = d) {p : Purpose} {next : Progress p.Answer}
    {v : Option Visiting} (h : Follows next v) : yields f d v = next.yields f d := by
  cases next with
  | going phase =>
    have hv : v = some ⟨p, phase⟩ := h
    rw [hv]
    rfl
  | ended r => exact yields_of_isIdle hf h

theorem Moved.yields (hf : ∀ α, f α .entering = d) {p : Purpose} {me : Nat}
    {phase : Phase p.Answer} {next : Progress p.Answer} {visits visits' : Nat → Option Visiting}
    (h : Moved me phase next visits visits') :
    Visiting.yields f d (visits me) = f _ phase ∧
      Visiting.yields f d (visits' me) = next.yields f d := by
  refine ⟨?_, yields_of_follows hf h.after⟩
  rw [h.before]
  rfl

theorem Moved.yields_eq (hf : ∀ α, f α .entering = d) {p : Purpose} {me : Nat}
    {phase : Phase p.Answer} {next : Progress p.Answer} {visits visits' : Nat → Option Visiting}
    (h : Moved me phase next visits visits') (id : Nat) :
    Visiting.yields f d (visits' id) =
      if id = me then next.yields f d else Visiting.yields f d (visits id) := by
  by_cases hid : id = me
  · rw [if_pos hid, hid]
    exact yields_of_follows hf h.after
  · rw [if_neg hid, h.others id hid]

theorem Began.yields (hf : ∀ α, f α .entering = d) {me : Nat}
    {visits visits' : Nat → Option Visiting} (h : Began me visits visits') (id : Nat) :
    Visiting.yields f d (visits' id) = Visiting.yields f d (visits id) := by
  by_cases hid : id = me
  · rw [hid, h.before, yields_of_isIdle hf h.after]
    rfl
  · rw [h.others id hid]

end Says

theorem Moved.held? {p : Purpose} {me : Nat} {phase : Phase p.Answer}
    {next : Progress p.Answer} {visits visits' : Nat → Option Visiting}
    (h : Moved me phase next visits visits') :
    Visiting.held? (visits me) = phase.held ∧ Visiting.held? (visits' me) = next.held :=
  h.yields fun _ => rfl

theorem Began.held? {me : Nat} {visits visits' : Nat → Option Visiting}
    (h : Began me visits visits') (id : Nat) :
    Visiting.held? (visits' id) = Visiting.held? (visits id) :=
  Began.yields (fun _ => rfl) h id

end Visiting

/-- No connection is in two places, and every one has been made.  The visits are those of all tasks,
by the numbers of the tasks. -/
structure Slots (s : Store) (visits : Nat → Option Visiting) : Prop where
  once : ∀ id c, s.pool.atHand.count c + (Visiting.held? (visits id)).count c ≤ 1
  alone : ∀ id other c, c ∈ Visiting.held? (visits id) → c ∈ Visiting.held? (visits other) →
    id = other
  made : ∀ id c, 0 < s.pool.atHand.count c + (Visiting.held? (visits id)).count c →
    c < s.connections.length

namespace Slots

variable {me : Nat} {p : Purpose} {s t : Store} {visits visits' : Nat → Option Visiting}

/-- A connection in the hands of a visit is in no queue. -/
theorem not_mem_atHand (h : Slots s visits) {id c : Nat} (hc : c ∈ Visiting.held? (visits id)) :
    c ∉ s.pool.atHand := by
  intro hq
  have := h.once id c
  have := List.count_pos_iff.2 hc
  have := List.count_pos_iff.2 hq
  omega

theorem lt_length_of_held (h : Slots s visits) {id c : Nat}
    (hc : c ∈ Visiting.held? (visits id)) : c < s.connections.length := by
  have := List.count_pos_iff.2 hc
  exact h.made id c (by omega)

/-- A task that begins a visit has nothing in its hands yet. -/
theorem began (h : Slots s visits) (hbegan : Visiting.Began me visits visits') :
    Slots s visits' := by
  refine ⟨?_, ?_, ?_⟩
  · intro id c
    rw [hbegan.held? id]
    exact h.once id c
  · intro id other c hc hc'
    rw [hbegan.held?] at hc hc'
    exact h.alone id other c hc hc'
  · intro id c hpos
    rw [hbegan.held? id] at hpos
    exact h.made id c hpos

/-- **No move puts a connection into two places.** -/
theorem moves (h : Slots s visits) {phase : Phase p.Answer} {next : Progress p.Answer}
    (hmove : Visit.Moves me p s phase t next)
    (hmoved : Visiting.Moved me phase next visits visits') : Slots t visits' := by
  obtain ⟨hnow, hafter⟩ := hmoved.held?
  have hothers := hmoved.others
  have hheld : ∀ c, (Visiting.held? (visits' me)).count c = next.held.count c := by
    intro c
    rw [hafter]
  -- a connection that another visit holds is not fresh, and is neither at hand nor held by `me`
  have hother : ∀ other c, other ≠ me → c ∈ Visiting.held? (visits other) →
      t.pool.atHand.count c + next.held.count c = 0 := by
    intro other c hne hc
    have hlt := h.lt_length_of_held hc
    have hq : s.pool.atHand.count c = 0 := List.count_eq_zero.2 (h.not_mem_atHand hc)
    have hp : phase.held.count c = 0 := by
      apply List.count_eq_zero.2
      intro hm
      exact hne (h.alone other me c hc (hnow ▸ hm))
    have := (hmove.count_le c).2
    have hold : ¬ (s.connections.length ≤ c ∧ c < t.connections.length) := by omega
    rw [if_neg hold] at this
    omega
  refine ⟨?_, ?_, ?_⟩
  · intro id c
    by_cases hid : id = me
    · subst hid
      have hle := hheld c
      have hstep := (hmove.count_le c).2
      have honce := h.once id c
      have hmade := h.made id c
      rw [hnow] at honce hmade
      split at hstep
      · omega
      · omega
    · rw [hothers id hid]
      by_cases hc : c ∈ Visiting.held? (visits id)
      · have := hother id c hid hc
        have := h.once id c
        omega
      · have hzero : (Visiting.held? (visits id)).count c = 0 := List.count_eq_zero.2 hc
        have hstep := (hmove.count_le c).2
        have honce := h.once me c
        have hmade := h.made me c
        rw [hnow] at honce hmade
        split at hstep
        · omega
        · omega
  · intro id other c hc hc'
    by_cases hid : id = me
    · by_cases hother' : other = me
      · rw [hid, hother']
      · rw [hothers other hother'] at hc'
        have := hother other c hother' hc'
        have := hheld c
        rw [hid] at hc
        have := List.count_pos_iff.2 hc
        omega
    · by_cases hother' : other = me
      · rw [hothers id hid] at hc
        have := hother id c hid hc
        have := hheld c
        rw [hother'] at hc'
        have := List.count_pos_iff.2 hc'
        omega
      · rw [hothers id hid] at hc
        rw [hothers other hother'] at hc'
        exact h.alone id other c hc hc'
  · intro id c hpos
    have hle := (hmove.count_le c).1
    have hstep := (hmove.count_le c).2
    by_cases hid : id = me
    · subst hid
      have := hheld c
      have hmade := h.made id c
      rw [hnow] at hmade
      split at hstep
      · omega
      · have := hmade (by omega)
        omega
    · rw [hothers id hid] at hpos
      by_cases hc : c ∈ Visiting.held? (visits id)
      · have := h.lt_length_of_held hc
        omega
      · have hzero : (Visiting.held? (visits id)).count c = 0 := List.count_eq_zero.2 hc
        have hmade := h.made me c
        rw [hnow] at hmade
        split at hstep
        · omega
        · have := hmade (by omega)
          omega

end Slots

end CharacterLedger.Storage
