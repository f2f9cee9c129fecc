import CharacterLedger.Proofs.Storage.Closing
import CharacterLedger.Proofs.Storage.Place

/-!
# Lending

A visit that has taken a connection from a queue owes that queue one.  The queue is the one that was
in use when the visit came, whatever became of the pool since.  What a move does to the queues and
to these debts is one of four things.

* `Phase.lender?` — the queue that a visit owes a connection;
* `Phase.IsPossible` — what the pool must be like for a visit to be at a phase;
* `Shifts`, `Moves.shifts` — the four things that a move can do;
* `Fitting` — every visit is at a possible phase, which every move keeps so;
* `Home` — a connection that belongs to a queue is put into no other.
-/

namespace CharacterLedger.Storage

/-! ### Debts -/

namespace Phase

variable {α : Type}

/-- The queue that a visit has taken a connection from and has not given one back to. -/
def lender? : Phase α → Option Nat
  | checking q _ | replacing q _ | working q _ | committing q _ | undoing q _ _
  | returning q _ _ => some q
  | entering | awaitingOpening | connecting _ | preparing _ | abandoning _ | awaiting _ => none

/-- Whether a visit to the pool can be at the phase: one that opens the pool has made fewer
connections than there are places, and the queue of one that borrows has been installed. -/
def IsPossible (pool : Pool) : Phase α → Prop
  | connecting made => (made.length : Int) < pool.size
  | preparing _ => 0 < pool.size
  | awaiting q | checking q _ | replacing q _ | working q _ | committing q _ | undoing q _ _
  | returning q _ _ => q < pool.queues.length
  | entering | awaitingOpening | abandoning _ => True

/-- A pool may get more queues. -/
theorem IsPossible.mono {pool pool' : Pool} {phase : Phase α} (h : phase.IsPossible pool)
    (hsize : pool'.size = pool.size) (hqueues : pool.queues.length ≤ pool'.queues.length) :
    phase.IsPossible pool' := by
  cases phase with
  | connecting | preparing =>
    rw [IsPossible, hsize]
    exact h
  | awaiting | checking | replacing | working | committing | undoing | returning =>
    exact Nat.lt_of_lt_of_le h hqueues
  | entering | awaitingOpening | abandoning => trivial

end Phase

namespace Progress

variable {α : Type}

/-- The queue that a visit owes a connection after a move. -/
def lender? (next : Progress α) : Option Nat := next.yields @Phase.lender? none

/-- Whether a visit can be where a move has taken it. -/
def IsPossible (pool : Pool) (next : Progress α) : Prop :=
  next.yields (fun _ phase => phase.IsPossible pool) True

end Progress

namespace Visiting

/-- The queue that a visit owes a connection, if there is a visit. -/
def lender? (v : Option Visiting) : Option Nat := yields @Phase.lender? none v

/-- Whether a visit, if there is one, can be where it is. -/
def IsPossible (pool : Pool) (v : Option Visiting) : Prop :=
  yields (fun _ phase => phase.IsPossible pool) True v

/-- A visit that owes a connection has one in its hands, and its queue is there. -/
theorem of_lender? {pool : Pool} {v : Option Visiting} {q : Nat} (h : lender? v = some q)
    (hpossible : IsPossible pool v) : q < pool.queues.length ∧ ∃ c, held? v = [c] := by
  cases v with
  | none => cases h
  | some v =>
    obtain ⟨p, phase⟩ := v
    cases phase with
    | checking _ c | replacing _ c | working _ c | committing _ c | undoing _ c | returning _ c =>
      cases h
      exact ⟨hpossible, c, rfl⟩
    | entering | awaitingOpening | connecting | preparing | abandoning | awaiting => cases h

end Visiting

/-! ### What moves do to the queues -/

namespace Visit

variable {me : Nat} {p : Purpose} {s t u : Store} {phase : Phase p.Answer}
  {next : Progress p.Answer}

/-- What a move does to the queues, and to what its visit has in its hands and owes. -/
inductive Shifts (s : Store) (phase : Phase p.Answer) (t : Store) (next : Progress p.Answer) : Prop
  /-- The queues and the debt stay, and no connection comes into the hands that is not new. -/
  | stays (queues : t.pool.queues = s.pool.queues) (current : t.pool.current = s.pool.current)
      (lender : next.lender? = phase.lender?)
      (held : ∀ c, c ∈ next.held → c ∈ phase.held ∨ s.connections.length ≤ c)
  /-- The first connection of a queue is taken. -/
  | takes {q c : Nat} {rest : List Nat} (atHand : s.pool.queue q = c :: rest)
      (pool : t.pool = s.pool.drop q) (before : phase.lender? = none)
      (after : next.lender? = some q) (held : next.held = [c])
  /-- A connection is given back to the queue that is owed one. -/
  | puts {q c : Nat} (pool : t.pool = s.pool.put q c) (before : phase.lender? = some q)
      (held : phase.held = [c]) (after : next.lender? = none) (empty : next.held = [])
  /-- A new queue is installed, with a connection for each place. -/
  | installs {made : List Nat} (queues : t.pool.queues = s.pool.queues ++ [made])
      (current : t.pool.current = some s.pool.queues.length)
      (full : made.length = s.pool.size.toNat) (before : phase.lender? = none)
      (after : next.lender? = none) (empty : next.held = [])
      (made : ∀ c, c ∈ made → c ∈ phase.held ∨ s.connections.length ≤ c)

@[simp] theorem lender?_arrival (p : Purpose) (q : Nat) : (arrival p q).lender? = none := by
  cases p <;> rfl

theorem isPossible_arrival (p : Purpose) {pool : Pool} {q : Nat} (h : q < pool.queues.length) :
    (arrival p q).IsPossible pool := by
  cases p with
  | borrow => exact h
  | openPool => trivial

/-- Beginning to open the pool installs no connection yet. -/
theorem Begins.shifts {pool : Pool} (h : Begins p (s.withPool pool) t next)
    (hqueues : pool.queues = s.pool.queues) (hcurrent : pool.current = s.pool.current)
    (hsize : pool.size = s.pool.size) (hlender : phase.lender? = none) :
    Shifts s phase t next ∧ next.IsPossible t.pool := by
  have hempty : ∀ c, c ∈ ([] : List Nat) → c ∈ phase.held ∨ s.connections.length ≤ c :=
    fun c hc => absurd hc List.not_mem_nil
  cases h with
  | refused made =>
    obtain ⟨hpool, -⟩ := Store.pool_makeDirectory made
    rw [hpool]
    exact ⟨.stays hqueues hcurrent hlender.symm hempty, trivial⟩
  | @empty u made small =>
    obtain ⟨hpool, -⟩ := Store.pool_makeDirectory made
    rw [hpool]
    rw [hpool] at small
    have hnew : (u.withPool (pool.install []).leave).pool.queues = s.pool.queues ++ [[]] := by
      simp [Store.withPool, Pool.install, Pool.leave, hqueues]
    refine ⟨.installs hnew ?_ ?_ hlender (lender?_arrival p _) (held_arrival p _) hempty,
      isPossible_arrival p ?_⟩
    · simp [Store.withPool, Pool.install, Pool.leave, hqueues]
    · have : s.pool.size ≤ 0 := hsize ▸ small
      rw [List.length_nil]
      omega
    · simp [Store.withPool, Pool.install, Pool.leave]
  | going made large =>
    obtain ⟨hpool, -⟩ := Store.pool_makeDirectory made
    refine ⟨.stays ?_ ?_ hlender.symm hempty, ?_⟩
    · rw [hpool]
      exact hqueues
    · rw [hpool]
      exact hcurrent
    · exact large

/-- Counting a connection in, which is in the hands of the visit or new. -/
theorem CountsIn.shifts {made : List Nat} {c : Nat} (h : CountsIn p u made c t next)
    (hqueues : u.pool.queues = s.pool.queues) (hcurrent : u.pool.current = s.pool.current)
    (hsize : u.pool.size = s.pool.size) (hroom : (made.length : Int) < s.pool.size)
    (hlender : phase.lender? = none)
    (hmade : ∀ d, d ∈ made ++ [c] → d ∈ phase.held ∨ s.connections.length ≤ d) :
    Shifts s phase t next ∧ next.IsPossible t.pool := by
  cases h with
  | last enough =>
    have hnew : (u.withPool (u.pool.install (made ++ [c])).leave).pool.queues =
        s.pool.queues ++ [made ++ [c]] := by
      simp [Store.withPool, Pool.install, Pool.leave, hqueues]
    refine ⟨.installs hnew ?_ ?_ hlender (lender?_arrival p _) (held_arrival p _) hmade,
      isPossible_arrival p ?_⟩
    · simp [Store.withPool, Pool.install, Pool.leave, hqueues]
    · rw [List.length_append, List.length_singleton]
      omega
    · simp [Store.withPool, Pool.install, Pool.leave]
  | more few =>
    refine ⟨.stays hqueues hcurrent hlender.symm hmade, ?_⟩
    show ((made ++ [c]).length : Int) < t.pool.size
    simpa using few

/-- A move that stays at its queue. -/
theorem shifts_same (hpool : t.pool = s.pool) (hlender : next.lender? = phase.lender?)
    (hheld : ∀ c, c ∈ next.held → c ∈ phase.held ∨ s.connections.length ≤ c)
    (hpossible : next.IsPossible s.pool) : Shifts s phase t next ∧ next.IsPossible t.pool := by
  rw [hpool]
  exact ⟨.stays (by rw [hpool]) (by rw [hpool]) hlender hheld, hpossible⟩

/-- A move that gives the connection back and ends the visit. -/
theorem shifts_put {q c : Nat} {r : Except Failure p.Answer} (hpool : u.pool = s.pool)
    (hlender : phase.lender? = some q) (hheld : phase.held = [c]) :
    Shifts s phase (u.withPool (u.pool.put q c)) (.ended r) ∧
      (Progress.ended r).IsPossible (u.withPool (u.pool.put q c)).pool := by
  rw [hpool]
  exact ⟨.puts rfl hlender hheld rfl rfl, trivial⟩

/-- **A move does one of four things to the queues**, and takes its visit where it can be. -/
theorem Moves.shifts (h : Moves me p s phase t next) (hphase : phase.IsPossible s.pool)
    (hcurrent : ∀ q, s.pool.current = some q → q < s.pool.queues.length) :
    Shifts s phase t next ∧ next.IsPossible t.pool := by
  cases h with
  | arrive isOpen | arriveLater isOpen =>
    refine ⟨.stays rfl rfl (lender?_arrival p _) ?_, isPossible_arrival p (hcurrent _ isOpen)⟩
    intro c hc
    rw [held_arrival] at hc
    cases hc
  | lineUp | turnAway | turnAwayLater | connectFails | abandonOne | abandoned | giveUp =>
    exact ⟨.stays rfl rfl rfl nofun, trivial⟩
  | beginFirst _ _ begins => exact begins.shifts rfl rfl rfl rfl
  | beginLater _ _ begins => exact begins.shifts rfl rfl rfl rfl
  | connectFirst made =>
    obtain ⟨hc, hpool, -⟩ := Store.connect_eq_ok made
    refine ⟨.stays ?_ ?_ rfl ?_, ?_⟩
    · simp [track, Store.withPool, hpool]
    · simp [track, Store.withPool, hpool]
    · intro d hd
      rw [List.mem_singleton.1 hd, hc]
      exact .inr (Nat.le_refl _)
    · show 0 < (track _ _).pool.size
      simp only [track, Store.withPool, hpool]
      exact hphase
  | @connectNext made u _ c _ _ connected counts =>
    obtain ⟨hc, hpool, -⟩ := Store.connect_eq_ok connected
    have hqueues : u.pool.queues = s.pool.queues := by rw [hpool]
    have hcurrent : u.pool.current = s.pool.current := by rw [hpool]
    have hsize : u.pool.size = s.pool.size := by rw [hpool]
    refine counts.shifts hqueues hcurrent hsize hphase rfl ?_
    intro d hd
    obtain hd | hd := List.mem_append.1 hd
    · exact .inl hd
    · rw [List.mem_singleton.1 hd, hc]
      exact .inr (Nat.le_refl _)
  | prepared alike counts =>
    refine counts.shifts ?_ ?_ ?_ hphase rfl fun d hd => .inl hd
    all_goals rw [alike.pool]
  | setUp alike _ _ counts =>
    refine counts.shifts ?_ ?_ ?_ hphase rfl fun d hd => .inl hd
    all_goals rw [Store.pool_write, alike.pool]
  | preparingFails alike => exact shifts_same alike.pool rfl nofun trivial
  | @takeInMemory q c _ _ atHand | @takeToFile q c _ _ atHand =>
    refine ⟨.takes atHand rfl rfl rfl rfl, ?_⟩
    show q < (s.pool.queues.modify q List.tail).length
    rw [List.length_modify]
    exact hphase
  | sound | unsound | keptOut | commitFails => exact shifts_same rfl rfl (fun _ => .inl) hphase
  | @replace q c new u made =>
    obtain ⟨hc, hpool, -⟩ := Store.connect_eq_ok made
    refine ⟨.stays ?_ ?_ rfl ?_, ?_⟩
    · simp [Store.withPool, Pool.retrack, hpool]
    · simp [Store.withPool, Pool.retrack, hpool]
    · intro d hd
      rw [List.mem_singleton.1 hd, hc]
      exact .inr (Nat.le_refl _)
    · show q < (u.pool.retrack c new).queues.length
      rw [hpool]
      exact hphase
  | replaceFails | letGo | commitLost | undoLost | giveBack => exact shifts_put rfl rfl rfl
  | answer alike => exact shifts_same alike.pool rfl (fun _ => .inl) hphase
  | draft alike => exact shifts_same alike.pool rfl (fun _ => .inl) hphase
  | writeAtOnce alike =>
    exact shifts_same ((Store.pool_write _ _ _).trans alike.pool) rfl (fun _ => .inl) hphase
  | strike alike =>
    exact shifts_same ((Store.pool_beginTransaction _ _).trans alike.pool) rfl (fun _ => .inl)
      hphase
  | refuse alike => exact shifts_put alike.pool rfl rfl
  | @breakOff q c => exact shifts_put (Store.close_pool s c) rfl rfl
  | commit => exact shifts_put (Store.pool_commit _ _) rfl rfl
  | @undo q c => exact shifts_put (Store.pool_setDraft s c none) rfl rfl

/-- No queue is ever removed. -/
theorem Shifts.length_le (h : Shifts s phase t next) :
    s.pool.queues.length ≤ t.pool.queues.length := by
  cases h with
  | stays queues => simp [queues]
  | takes _ pool => simp [pool]
  | puts pool => simp [pool]
  | installs queues => simp [queues]

/-- The queue in use is there after a move. -/
theorem Shifts.current (h : Shifts s phase t next)
    (hcurrent : ∀ q, s.pool.current = some q → q < s.pool.queues.length) {q : Nat}
    (hq : t.pool.current = some q) : q < t.pool.queues.length := by
  have hlength := h.length_le
  cases h with
  | stays _ current =>
    rw [current] at hq
    exact Nat.lt_of_lt_of_le (hcurrent q hq) hlength
  | takes _ pool | puts pool =>
    rw [pool] at hq
    exact Nat.lt_of_lt_of_le (hcurrent q hq) hlength
  | installs queues current =>
    rw [current] at hq
    cases hq
    simp [queues]

/-- **A queue has gained what the debts to it have lost.**  A queue that is new has a connection for
each place, and nobody owes it one. -/
theorem Shifts.balance (h : Shifts s phase t next) {q : Nat} (hq : q < t.pool.queues.length) :
    (q < s.pool.queues.length ∧
      (t.pool.queue q).length + (if next.lender? = some q then 1 else 0) =
        (s.pool.queue q).length + if phase.lender? = some q then 1 else 0) ∨
    q = s.pool.queues.length ∧ (t.pool.queue q).length = s.pool.size.toNat ∧
      next.lender? = none := by
  cases h with
  | stays queues _ lender =>
    refine .inl ⟨queues ▸ hq, ?_⟩
    rw [Pool.queue, queues, lender]
    rfl
  | @takes r c rest atHand pool before after =>
    refine .inl ⟨by simpa [pool] using hq, ?_⟩
    rw [before, after, pool]
    by_cases hr : q = r
    · simp [hr, atHand]
    · simp [hr, Ne.symm hr]
  | @puts r c pool before _ after =>
    have hlt : q < s.pool.queues.length := by simpa [pool] using hq
    refine .inl ⟨hlt, ?_⟩
    rw [before, after, pool]
    by_cases hr : q = r
    · simp [← hr, hlt]
    · simp [hr, Ne.symm hr]
  | @installs made queues _ full before after =>
    by_cases hlt : q < s.pool.queues.length
    · refine .inl ⟨hlt, ?_⟩
      rw [before, after, Pool.queue, queues, List.getElem?_append_left hlt]
      rfl
    · rw [queues, List.length_append, List.length_singleton] at hq
      have hnew : q = s.pool.queues.length := by omega
      refine .inr ⟨hnew, ?_, after⟩
      rw [Pool.queue, queues, hnew]
      simpa using full

end Visit

/-! ### Visits that are where they can be -/

/-- Every visit is at a phase that is possible with the pool, and the queue in use is there. -/
structure Fitting (pool : Pool) (visits : Nat → Option Visiting) : Prop where
  phases : ∀ id, Visiting.IsPossible pool (visits id)
  current : ∀ q, pool.current = some q → q < pool.queues.length

namespace Fitting

variable {me : Nat} {p : Purpose} {s t : Store} {phase : Phase p.Answer}
  {next : Progress p.Answer} {visits visits' : Nat → Option Visiting}

theorem began {pool : Pool} (h : Fitting pool visits)
    (hbegan : Visiting.Began me visits visits') : Fitting pool visits' := by
  refine ⟨?_, h.current⟩
  intro id
  have hsame : Visiting.IsPossible pool (visits' id) = Visiting.IsPossible pool (visits id) :=
    hbegan.yields (fun _ => rfl) id
  rw [hsame]
  exact h.phases id

theorem possible (h : Fitting s.pool visits)
    (hmoved : Visiting.Moved me phase next visits visits') : phase.IsPossible s.pool := by
  have := h.phases me
  rw [hmoved.before] at this
  exact this

theorem shifts (h : Fitting s.pool visits) (hmove : Visit.Moves me p s phase t next)
    (hmoved : Visiting.Moved me phase next visits visits') : Visit.Shifts s phase t next :=
  (hmove.shifts (h.possible hmoved) h.current).1

/-- A larger pool of as many places fits too. -/
theorem mono {pool pool' : Pool} {v : Option Visiting} (h : Visiting.IsPossible pool v)
    (hsize : pool'.size = pool.size) (hqueues : pool.queues.length ≤ pool'.queues.length) :
    Visiting.IsPossible pool' v := by
  cases v with
  | none => trivial
  | some v => exact Phase.IsPossible.mono h hsize hqueues

theorem moves (h : Fitting s.pool visits) (hmove : Visit.Moves me p s phase t next)
    (hmoved : Visiting.Moved me phase next visits visits') : Fitting t.pool visits' := by
  obtain ⟨hshifts, hpossible⟩ := hmove.shifts (h.possible hmoved) h.current
  refine ⟨?_, fun q hq => hshifts.current h.current hq⟩
  intro id
  have hvisit : Visiting.IsPossible t.pool (visits' id) =
      if id = me then next.IsPossible t.pool else Visiting.IsPossible t.pool (visits id) :=
    hmoved.yields_eq (fun _ => rfl) id
  rw [hvisit]
  split
  · exact hpossible
  · exact mono (h.phases id) hmove.tracking.2.1 hshifts.length_le

/-- Closing the pool leaves every visit where it can be. -/
theorem closes (h : Fitting s.pool visits) {taken closing : Option Nat}
    (hcloses : Closes (s.closeTaken taken) t closing) : Fitting t.pool visits := by
  obtain ⟨hqueues, hsize, -, hcurrent⟩ := hcloses.spec
  have hlength := Nat.le_of_eq (congrArg List.length hqueues.symm)
  refine ⟨fun id => mono (h.phases id) hsize hlength, ?_⟩
  intro q hq
  rw [hqueues]
  obtain hsame | hnone := hcurrent
  · exact h.current q (hsame ▸ hq)
  · rw [hnone] at hq
    cases hq

end Fitting

/-! ### Where connections belong -/

namespace Pool

/-- A connection is at hand in one queue at most. -/
theorem queue_unique {p : Pool} (h : p.atHand.Nodup) {q r c : Nat} (hq : c ∈ p.queue q)
    (hr : c ∈ p.queue r) : q = r := by
  have hlt : ∀ {q : Nat}, c ∈ p.queue q → ∃ hlt : q < p.queues.length, c ∈ p.queues[q] := by
    intro q hq
    unfold queue at hq
    cases hcs : p.queues[q]? with
    | none => simp [hcs] at hq
    | some cs =>
      obtain ⟨hlt, rfl⟩ := List.getElem?_eq_some_iff.1 hcs
      rw [hcs] at hq
      exact ⟨hlt, hq⟩
  obtain ⟨hltq, hq⟩ := hlt hq
  obtain ⟨hltr, hr⟩ := hlt hr
  have hdisjoint := List.pairwise_iff_getElem.1 (List.pairwise_flatten.1 h).2
  obtain hlt | heq | hlt := Nat.lt_trichotomy q r
  · exact absurd rfl (hdisjoint q r hltq hltr hlt c hq c hr)
  · exact heq
  · exact absurd rfl (hdisjoint r q hltr hltq hlt c hr c hq)

theorem mem_queue_of_drop {p : Pool} {q r c : Nat} (h : c ∈ (p.drop q).queue r) :
    c ∈ p.queue r := by
  by_cases hr : r = q
  · rw [hr, queue_drop_self] at h
    rw [hr]
    exact List.mem_of_mem_tail h
  · rwa [queue_drop_of_ne _ hr] at h

theorem mem_queue_of_put {p : Pool} {q r c d : Nat} (h : c ∈ (p.put q d).queue r) :
    c ∈ p.queue r ∨ r = q ∧ c = d := by
  by_cases hr : r = q
  · by_cases hlt : q < p.queues.length
    · rw [hr, queue_put_self _ _ hlt, List.mem_append, List.mem_singleton] at h
      rw [hr]
      exact h.imp_right fun hc => ⟨rfl, hc⟩
    · rw [queue, put, List.modify_eq_self (Nat.le_of_not_lt hlt)] at h
      exact .inl h
  · rw [queue_put_of_ne _ _ hr] at h
    exact .inl h

end Pool

/-- A connection that has been made belongs to the queue `q`: it is in no other, and whoever has it
in his hands owes it to `q`. -/
structure Home (s : Store) (visits : Nat → Option Visiting) (q c : Nat) : Prop where
  made : c < s.connections.length
  queue : ∀ r, c ∈ s.pool.queue r → r = q
  held : ∀ id, c ∈ Visiting.held? (visits id) → Visiting.lender? (visits id) = some q

namespace Home

variable {me : Nat} {p : Purpose} {s t : Store} {phase : Phase p.Answer}
  {next : Progress p.Answer} {visits visits' : Nat → Option Visiting} {q c : Nat}

theorem began (h : Home s visits q c) (hbegan : Visiting.Began me visits visits') :
    Home s visits' q c := by
  refine ⟨h.made, h.queue, ?_⟩
  intro id hc
  rw [hbegan.held?] at hc
  exact (hbegan.yields (fun _ => rfl) id).trans (h.held id hc)

/-- A move puts a connection into no queue but the one that it is owed to. -/
theorem queue_of_shifts (h : Home s visits q c) (hshifts : Visit.Shifts s phase t next)
    (howed : c ∈ phase.held → phase.lender? = some q) {r : Nat} (hc : c ∈ t.pool.queue r) :
    r = q := by
  cases hshifts with
  | stays queues =>
    rw [Pool.queue, queues] at hc
    exact h.queue r hc
  | takes _ pool =>
    rw [pool] at hc
    exact h.queue r (Pool.mem_queue_of_drop hc)
  | puts pool before held =>
    rw [pool] at hc
    obtain hc | ⟨rfl, rfl⟩ := Pool.mem_queue_of_put hc
    · exact h.queue r hc
    · have := howed (by rw [held]; exact List.mem_singleton.2 rfl)
      rw [before] at this
      exact Option.some.inj this
  | @installs made queues _ _ before _ _ new =>
    rw [Pool.queue, queues] at hc
    by_cases hr : r < s.pool.queues.length
    · rw [List.getElem?_append_left hr] at hc
      exact h.queue r hc
    · rw [List.getElem?_append_right (Nat.le_of_not_lt hr)] at hc
      have hc : c ∈ made := by
        cases hi : r - s.pool.queues.length with
        | zero => simpa [hi] using hc
        | succ i => simp [hi] at hc
      -- whoever opens the pool owes nothing, and what he makes now is new
      obtain hheld | hnew := new c hc
      · rw [before] at howed
        cases howed hheld
      · exact absurd h.made (Nat.not_lt.2 hnew)

/-- A visit that has a connection in its hands after a move owes it to the queue of that. -/
theorem lender_of_shifts (h : Home s visits q c) (hshifts : Visit.Shifts s phase t next)
    (howed : c ∈ phase.held → phase.lender? = some q) (hc : c ∈ next.held) :
    next.lender? = some q := by
  cases hshifts with
  | stays _ _ lender held =>
    rw [lender]
    obtain hheld | hnew := held c hc
    · exact howed hheld
    · exact absurd h.made (Nat.not_lt.2 hnew)
  | @takes r d rest atHand _ _ after held =>
    rw [held, List.mem_singleton] at hc
    rw [after, h.queue r (by rw [atHand, hc]; exact List.mem_cons_self)]
  | puts _ _ _ _ empty | installs _ _ _ _ _ empty =>
    rw [empty] at hc
    cases hc

/-- **A move leaves a connection to its queue.** -/
theorem moves (h : Home s visits q c) (hshifts : Visit.Shifts s phase t next)
    (hlength : s.connections.length ≤ t.connections.length)
    (hmoved : Visiting.Moved me phase next visits visits') : Home t visits' q c := by
  have howed : c ∈ phase.held → phase.lender? = some q := by
    intro hc
    have := h.held me
    rw [hmoved.before] at this
    exact this hc
  have hheld : ∀ id, Visiting.held? (visits' id) =
      if id = me then next.held else Visiting.held? (visits id) :=
    hmoved.yields_eq fun _ => rfl
  have hlender : ∀ id, Visiting.lender? (visits' id) =
      if id = me then next.lender? else Visiting.lender? (visits id) :=
    hmoved.yields_eq fun _ => rfl
  refine ⟨Nat.lt_of_lt_of_le h.made hlength, fun r => h.queue_of_shifts hshifts howed, ?_⟩
  intro id hc
  rw [hheld] at hc
  rw [hlender]
  split at hc
  · next hid => exact (if_pos hid).trans (h.lender_of_shifts hshifts howed hc)
  · next hid => exact (if_neg hid).trans (h.held id hc)

theorem closes (h : Home s visits q c) {taken closing : Option Nat}
    (hcloses : Closes (s.closeTaken taken) t closing) : Home t visits q c := by
  obtain ⟨hqueues, -, hlength, -⟩ := hcloses.spec
  refine ⟨hlength ▸ h.made, ?_, h.held⟩
  intro r hr
  rw [Pool.queue, hqueues] at hr
  exact h.queue r hr

end Home

/-- A connection at hand in a queue, or taken from it and in somebody's hands, belongs there. -/
theorem Slots.home {s : Store} {visits : Nat → Option Visiting} (h : Slots s visits) {q c : Nat}
    (hc : c ∈ s.pool.queue q ∨
      ∃ id, Visiting.lender? (visits id) = some q ∧ c ∈ Visiting.held? (visits id)) :
    Home s visits q c := by
  obtain hc | ⟨id, hlender, hheld⟩ := hc
  · have hatHand := Pool.mem_atHand_of_mem_queue hc
    have hpos := List.count_pos_iff.2 hatHand
    refine ⟨h.made 0 c (by omega), ?_, ?_⟩
    · intro r hr
      exact Pool.queue_unique (List.nodup_iff_count.2 fun d => by have := h.once 0 d; omega) hr hc
    · intro id hheld
      exact absurd hatHand (h.not_mem_atHand hheld)
  · refine ⟨h.lt_length_of_held hheld, ?_, ?_⟩
    · intro r hr
      exact absurd (Pool.mem_atHand_of_mem_queue hr) (h.not_mem_atHand hheld)
    · intro other hother
      rw [h.alone other id c hother hheld]
      exact hlender

end CharacterLedger.Storage
