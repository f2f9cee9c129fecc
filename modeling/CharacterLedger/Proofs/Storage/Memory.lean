import CharacterLedger.Proofs.Storage.Opened

/-!
# Stores in memory

A pool in memory has one connection, whatever size was asked for, and the database is gone when that
connection is.  It is therefore never replaced: as long as it is open, everybody is served from its
database, and once it has been closed behind the back of the pool nobody is answered any more.

* `Store.OneInMemory` — a pool in memory that is still closed, or is open and serves;
* `OneInMemory.enters`, `OneInMemory.answers`, `OneInMemory.saves` — its visits;
* `Store.Severed` — a pool in memory whose connection has been closed;
* `Severed.denies` — nobody is answered, and nothing changes.
-/

namespace CharacterLedger.Storage

open CharacterLedger.Table

namespace Store

variable {s t : Store} {file q c : Nat}

/-! ### The database of the one connection -/

/-- **A pool in memory that has been opened** serves from an empty table. -/
theorem serves_opened_memory (hs : s.IsClosed) (hlocation : s.pool.location = .memory) :
    let u := s.opened
      ((s.disk.addFile .empty).1.setContent s.disk.files.length Database.empty.setUp)
      [Visit.setUpOn (.new s.disk.files.length none true) .empty]
    u.Serves s.disk.files.length s.pool.queues.length ∧ u.rows = [] := by
  intro u
  let k := Visit.setUpOn (.new s.disk.files.length none true) .empty
  have hqueue : u.pool.queue s.pool.queues.length = [s.connections.length] := by
    simp [u, opened, Pool.queue, nextNumbers]
  have hk : u.connection? s.connections.length = some k := by
    simp [u, k, opened, connection?]
  have hfound : u.file? = some s.disk.files.length := by
    have htracked : u.pool.tracked.head? = some s.connections.length := by
      simp [u, opened, nextNumbers]
    have hl : u.pool.location = .memory := hlocation
    rw [file?, hl]
    simp only [htracked, Option.bind_some, hk, Option.map_some]
    rfl
  have hnamed : s.disk.files.length < (s.disk.addFile .empty).1.files.length := by
    simp [Disk.addFile]
  have hstored : (s.disk.addFile .empty).1.files[s.disk.files.length]? =
      some ⟨.empty, none, false⟩ := by
    simp [Disk.addFile]
  have hcontent : u.disk.content s.disk.files.length = Database.empty.setUp :=
    Disk.content_setContent_self _ _ _ hnamed
  refine ⟨⟨rfl, ?_, ?_, ?_, ?_, hfound, ?_, ?_, ?_, ?_⟩, ?_⟩
  · simp [u, opened]
  · rw [hqueue]
    exact List.cons_ne_nil _ _
  · intro c hc
    rw [hqueue, List.mem_singleton] at hc
    subst hc
    have hclear : u.obstacle? (.new s.disk.files.length none true) = none := by
      simp [obstacle?, isMoved, Connection.new]
    exact ⟨k, hk, rfl, rfl, rfl, (obstacle?_of_core (Visit.core_setUpOn ..) rfl).trans hclear⟩
  · intro c k' hk'
    have happend : (s.connections ++ [k])[c]? = some k' := hk'
    rw [List.getElem?_append] at happend
    split at happend
    · exact hs.drafts c k' happend
    · rw [List.mem_singleton.1 (List.mem_of_getElem? happend)]
      rfl
  · show _ < ((s.disk.addFile .empty).1.setContent _ _).files.length
    rw [Disk.length_setContent]
    exact hnamed
  · refine (Disk.isForeign_setContent ..).trans ?_
    simp [Disk.isForeign, hstored]
  · refine (Disk.hold?_setContent ..).trans ?_
    simp [Disk.hold?, hstored]
  · exact ⟨.empty, by rw [hcontent]; rfl, rfl⟩
  · rw [rows, database_of_file? hfound, hcontent]
    rfl

/-- A store whose pool is in memory. It has no connection yet, or is open with its only one. -/
inductive OneInMemory (s : Store) : Prop
  | unopened (isClosed : s.IsClosed) (location : s.pool.location = .memory)
      (size : s.pool.size = 1) (none : s.connections = [])
  | serving {file q : Nat} (serves : s.Serves file q) (location : s.pool.location = .memory)
      (size : s.pool.size = 1) (one : s.connections.length = 1) (tracked : s.pool.tracked = [0])

namespace OneInMemory

theorem size (h : s.OneInMemory) : s.pool.size = 1 := by
  cases h with
  | unopened _ _ size => exact size
  | serving _ _ size => exact size

/-- **There is one connection**, as soon as the pool is open. -/
theorem length (h : s.OneInMemory) :
    s.connections.length ≤ 1 ∧
      (s.pool.isOpen = true → s.connections.length = 1 ∧ s.pool.tracked = [0]) := by
  cases h with
  | unopened isClosed _ _ none =>
    rw [none]
    refine ⟨Nat.zero_le 1, fun hopen => ?_⟩
    rw [Pool.isOpen, isClosed.current] at hopen
    cases hopen
  | serving _ _ _ one tracked => exact ⟨Nat.le_of_eq one, fun _ => ⟨one, tracked⟩⟩

/-- A store that has been served stays one in memory. -/
theorem of_same {file' q' : Nat} (hs : s.Serves file q) (h : s.OneInMemory)
    (ht : t.Serves file' q') (hsame : s.SamePool t) : t.OneInMemory := by
  cases h with
  | unopened isClosed => cases isClosed.current.symm.trans hs.current
  | serving _ location size one tracked =>
    exact .serving ht (hsame.location.trans location) (hsame.size.trans size)
      (hsame.length.trans one) (hsame.tracked.trans tracked)

/-- **A visit finds the pool open, or opens it.** -/
theorem enters (h : s.OneInMemory) (P : Purpose) :
    ∃ n notes t file q, n ≤ 3 ∧ Visit.Runs P n s (.going .entering) notes t (Visit.arrival P q) ∧
      t.Serves file q ∧ t.OneInMemory ∧ t.rows = s.rows := by
  cases h with
  | unopened isClosed location size none =>
    obtain ⟨notes, hruns⟩ := Visit.runs_opening_memory (P := P) isClosed location size
    obtain ⟨hserves, hrows⟩ := serves_opened_memory isClosed location
    refine ⟨3, notes, _, _, _, Nat.le_refl 3, hruns, hserves, .serving hserves location size ?_ ?_,
      ?_⟩
    · simp [opened, none]
    · simp [opened, nextNumbers, none]
    · rw [hrows, rows, database, file?, location]
      simp [isClosed.tracked]
  | @serving file q serves location size one tracked =>
    exact ⟨1, [], s, file, q, by omega, .one (Visit.go_entering serves.current), serves,
      .serving serves location size one tracked, rfl⟩

/-- **A visit for a question is answered.** -/
theorem answers (h : s.OneInMemory) {question : Question}
    (hst : NeedsTable question.statement) (hbound : question.bound = .ok ())
    {a : question.Answer} (ha : ∀ d : Database, d.table.isSome = true → d.rows = s.rows →
      question.ask d = .ok a) :
    ∃ n notes t, n ≤ 7 ∧ Visit.Runs (.borrow (.ask question)) n s (.going .entering) notes t
      (.ended (.ok a)) ∧ t.OneInMemory ∧ t.rows = s.rows := by
  obtain ⟨m, _, t, file, q, hm, henters, hserves, hone, hrows⟩ := h.enters (.borrow (.ask question))
  obtain ⟨table, htable, -⟩ := hserves.table
  rw [← database_of_file? hserves.found] at htable
  have hanswer := ha t.database (by rw [htable]; rfl) hrows
  obtain ⟨n, u, hn, hasks, hserves', hrows', hsame⟩ := hserves.answers hst hbound hanswer
  exact ⟨m + n, _, u, by omega, henters.trans hasks, hone.of_same hserves hserves' hsame,
    hrows'.trans hrows⟩

/-- **A visit writes a record.** -/
theorem saves (h : s.OneInMemory) (character : Character) :
    ∃ n notes t, n ≤ 7 ∧ Visit.Runs (.borrow (.save character)) n s (.going .entering) notes t
      (.ended (.ok ())) ∧ t.OneInMemory ∧
      t.rows = CharacterTable.replaceRow (Row.ofCharacter character) s.rows := by
  obtain ⟨m, _, t, file, q, hm, henters, hserves, hone, hrows⟩ :=
    h.enters (.borrow (.save character))
  obtain ⟨n, u, hn, hsaves, hserves', hrows', hsame⟩ := hserves.saves character
  exact ⟨m + n, _, u, by omega, henters.trans hsaves, hone.of_same hserves hserves' hsame,
    by rw [hrows', hrows]⟩

end OneInMemory

/-! ### The connection has been closed -/

/-- Closing a connection leaves the rows of the pool as they are. -/
theorem rows_close (s : Store) (c : Nat) : (s.close c).rows = s.rows := by
  have hfile : (s.close c).file? = s.file? := by
    unfold file?
    rw [close_pool, close_disk]
    cases s.pool.location with
    | file path => rfl
    | memory =>
      cases s.pool.tracked.head? with
      | none => rfl
      | some i =>
        simp only [Option.bind_some, connection?_close]
        split
        · cases s.connection? i <;> rfl
        · rfl
  unfold rows database
  rw [hfile, close_disk]

/-- A store in memory with an open pool, of which the connections at hand have been closed. -/
structure Severed (s : Store) (q : Nat) : Prop where
  location : s.pool.location = .memory
  current : s.pool.current = some q
  installed : q < s.pool.queues.length
  atHand : s.pool.queue q ≠ []
  closed : ∀ c, c ∈ s.pool.queue q → s.isOpen c = false
  drafts : ∀ c k, s.connection? c = some k → k.draft = none

/-- **Closing the one connection** leaves nobody to be asked. -/
theorem OneInMemory.sever (h : s.OneInMemory) (hopen : s.pool.isOpen = true) :
    ∃ q, (s.close 0).Severed q := by
  cases h with
  | unopened isClosed =>
    rw [Pool.isOpen, isClosed.current] at hopen
    cases hopen
  | @serving file q serves location size one tracked =>
    refine ⟨q, location, serves.current, serves.installed, serves.atHand, ?_,
      drafts_close serves.drafts 0⟩
    intro c hc
    obtain ⟨k, hk, -⟩ := serves.sound c hc
    obtain ⟨hlt, -⟩ := List.getElem?_eq_some_iff.1 hk
    obtain rfl : c = 0 := by omega
    exact isOpen_close_self s 0

/-- No statement is made ready on a connection that is not open. -/
theorem ready_of_closed (h : s.isOpen c = false) (st : Statement) (bound : Except Fault Unit) :
    s.ready c st bound = (s, .error .inactive) := by
  unfold ready
  cases hk : s.connection? c with
  | none => rfl
  | some k =>
    have hopen : k.isOpen = false := by simpa [isOpen, hk] using h
    simp [hopen]

namespace Severed

/-- Another connection that is closed does not matter. -/
theorem close (h : s.Severed q) (c : Nat) : (s.close c).Severed q := by
  refine { h with closed := ?_, drafts := drafts_close h.drafts c }
  intro i hi
  by_cases hic : i = c
  · rw [hic]
    exact isOpen_close_self s c
  · rw [isOpen_close_of_ne s hic]
    exact h.closed i hi

/-- **Nobody is answered.** The store only puts its connection at the end of the queue. -/
theorem denies (h : s.Severed q) {e : Errand}
    (he : (∃ question, e = .ask question) ∨ ∃ c, e = .save c) :
    ∃ n notes t, n ≤ 4 ∧ Visit.Runs (.borrow e) n s (.going .entering) notes t
        (.ended (.error (.fault .inactive))) ∧ t.Severed q ∧ t.disk = s.disk ∧ t.rows = s.rows ∧
      s.SamePool t := by
  obtain ⟨c, rest, hq⟩ := List.exists_cons_of_ne_nil h.atHand
  let u := s.withPool (s.pool.drop q)
  have hclosed : u.isOpen c = false := h.closed c (by rw [hq]; exact List.mem_cons_self ..)
  obtain ⟨m, hm, htake⟩ := Visit.runs_take (e := e) hq (.inl h.location)
  have hwork : Visit.go 0 (.borrow e) u (.working q c) =
      some (Visit.giveBack u q c (.error (.fault .inactive))) := by
    obtain ⟨question, rfl⟩ | ⟨character, rfl⟩ := he
    · simp only [Visit.go, Visit.onErrand, Visit.work, ask, ready_of_closed hclosed]
    · have hbusy : u.isBusy c = false := isBusy_of_drafts h.drafts c
      simp only [Visit.go, Visit.onErrand, Visit.work, Visit.workOnSave, hbusy, alter,
        ready_of_closed hclosed, Bool.false_eq_true, if_false]
      rfl
  have hqueue : (u.pool.put q c).queue q = rest ++ [c] := by
    simp [u, withPool, h.installed, hq]
  refine ⟨1 + m + 1, _, _, by omega,
    ((Visit.Runs.one (Visit.go_entering h.current)).trans htake).trans (.one hwork), ?_, rfl, rfl,
    ⟨rfl, rfl, rfl, rfl⟩⟩
  refine ⟨h.location, h.current, ?_, ?_, ?_, h.drafts⟩
  · simpa [u, withPool] using h.installed
  · show (u.pool.put q c).queue q ≠ []
    rw [hqueue]
    exact List.append_ne_nil_of_right_ne_nil _ (List.cons_ne_nil c [])
  · intro i hi
    have hmem : i ∈ (u.pool.put q c).queue q := hi
    rw [hqueue, List.mem_append, List.mem_singleton, or_comm, ← List.mem_cons, ← hq] at hmem
    exact h.closed i hmem

end Severed

end Store

end CharacterLedger.Storage
