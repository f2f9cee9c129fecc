import CharacterLedger.Proofs.Storage.Rest

/-!
# Visits to a store that serves

A store serves when its pool is open with sound connections at hand, nobody keeps it out of its
file, and the table is there and refuses nothing.  A visit that has such a store to itself is never
held up and never fails, and the store serves on after it.

* `Store.Serves` — an open pool with sound connections and a table that refuses nothing;
* `ask_eq_ok`, `alter_eq_ok` — statements on a sound connection are carried out;
* `Visit.Runs` — some steps of a visit that has the store to itself, with what they note;
* `Store.Lent.asks`, `Store.Lent.saves` — the steps of a visit that has come to a sound connection;
* `Store.Serves.answers`, `Store.Serves.saves` — all the steps of a visit for a question and of one
  that writes a record.
-/

namespace CharacterLedger.Storage

open CharacterLedger.Table

/-! ### Statements on a sound connection -/

/-- A statement that needs the table and nothing else. -/
def NeedsTable (st : Statement) : Prop :=
  (∀ events, st.judge (some events) = .ok ()) ∧ st.judge none = .error .noTable

theorem needsTable_character : NeedsTable .character := ⟨fun _ => rfl, rfl⟩

theorem needsTable_save : NeedsTable .save := ⟨fun _ => rfl, rfl⟩

theorem needsTable_count : NeedsTable .count := ⟨fun _ => rfl, rfl⟩

/-- Where the table is seen, a statement that needs it is judged sound, whatever the connection
remembers. -/
theorem Connection.prepare_snd {st : Statement} (hst : NeedsTable st) (k : Connection)
    (events : List Event) : (k.prepare st (.ok (some events))).2 = .ok () := by
  unfold prepare
  split
  · rfl
  · have hsound : ∀ (k : Connection) events, (k.judge st (some events)).2 = .ok () := by
      intro k events
      rw [judge_snd, hst.1]
    cases k.shape with
    | none => exact hsound k events
    | some known =>
      cases known with
      | none =>
        -- What is remembered is out of date, and is looked at again.
        simp only [judge, hst.1, hst.2, Statement.isReconsidered, if_true]
      | some old =>
        simp only [judge, hst.1]

namespace Store

variable {s t : Store} {c : Nat} {k : Connection} {file q : Nat}

theorem readable_of_core {k k' : Connection} (h : k'.core = k.core) :
    s.readable k' = s.readable k := by
  obtain ⟨hfile, -⟩ := (core_eq_iff k' k).1 h
  simp only [readable, hfile, content_of_core s h]

theorem writable_of_core {k k' : Connection} (h : k'.core = k.core) :
    s.writable k' = s.writable k := by
  obtain ⟨hfile, -, hwrite, -⟩ := (core_eq_iff k' k).1 h
  simp only [writable, hfile, hwrite, content_of_core s h]

/-- What keeps a connection from changing its file is where it leads to. -/
theorem obstacle?_of_core {k k' : Connection} (h : k'.core = k.core)
    (hnodes : t.disk.nodes = s.disk.nodes) : t.obstacle? k' = s.obstacle? k := by
  obtain ⟨hfile, hpath, -⟩ := (core_eq_iff k' k).1 h
  unfold obstacle? isMoved Disk.node?
  rw [hfile, hpath, hnodes]

/-- A statement that needs the table is made ready where the table is seen. -/
theorem ready_eq_ok {st : Statement} {d : Database} {events : List Event} (hst : NeedsTable st)
    (hk : s.connection? c = some k) (hopen : k.isOpen = true) (hread : s.readable k = .ok d)
    (hshape : d.shape = some events) :
    ∃ k', s.ready c st (.ok ()) = (s.modify c fun _ => k', .ok k') ∧ k'.core = k.core := by
  have hsound := k.prepare_snd hst events
  have hcore := core_prepare k st (.ok (some events))
  refine ⟨(k.prepare st (.ok (some events))).1, ?_, hcore⟩
  unfold ready
  rw [hk]
  simp only [hopen, Bool.not_true, Bool.false_eq_true, if_false, hread, Except.map, hshape]
  rcases hp : k.prepare st (.ok (some events)) with ⟨k', r⟩
  rw [hp] at hsound
  cases hsound
  rfl

/-- **A question on a sound connection** is answered from what the connection reads. -/
theorem ask_eq_ok {α : Type} {st : Statement} {d : Database} {events : List Event}
    {question : Database → Except Fault α} {a : α} (hst : NeedsTable st)
    (hk : s.connection? c = some k) (hopen : k.isOpen = true) (hread : s.readable k = .ok d)
    (hshape : d.shape = some events) (ha : question d = .ok a) :
    (s.ask c st (.ok ()) question).2 = .ok a := by
  obtain ⟨k', hready, hcore⟩ := ready_eq_ok hst hk hopen hread hshape
  have hread' : (s.modify c fun _ => k').readable k' = .ok d := (readable_of_core hcore).trans hread
  simp only [ask, hready, hread', ha]

/-- **A change on a sound connection** is made of what the connection reads. -/
theorem alter_eq_ok (statement : Database → Except Fault Database) {st : Statement}
    {d e : Database} {events : List Event} (hst : NeedsTable st)
    (hk : s.connection? c = some k) (hopen : k.isOpen = true) (hread : s.readable k = .ok d)
    (hwrite : s.writable k = .ok d) (hobstacle : s.obstacle? k = none)
    (hshape : d.shape = some events) (he : statement d = .ok e) :
    (s.alter c st (.ok ()) statement).2 = .ok e := by
  obtain ⟨k', hready, hcore⟩ := ready_eq_ok hst hk hopen hread hshape
  have hwrite' : (s.modify c fun _ => k').writable k' = .ok d :=
    (writable_of_core hcore).trans hwrite
  have hobstacle' : ((s.modify c fun _ => k').learn c st d).obstacle? k' = none :=
    (obstacle?_of_core hcore rfl).trans hobstacle
  simp only [alter, hready, hwrite', he, hobstacle']

/-- A change that the database refuses is not made. -/
theorem alter_refused (statement : Database → Except Fault Database) {st : Statement}
    {d : Database} {f : Fault} {events : List Event} (hst : NeedsTable st)
    (hk : s.connection? c = some k) (hopen : k.isOpen = true) (hread : s.readable k = .ok d)
    (hwrite : s.writable k = .ok d) (hshape : d.shape = some events) (hf : statement d = .error f) :
    (s.alter c st (.ok ()) statement).2 = .error f := by
  obtain ⟨k', hready, hcore⟩ := ready_eq_ok hst hk hopen hread hshape
  have hwrite' : (s.modify c fun _ => k').writable k' = .ok d :=
    (writable_of_core hcore).trans hwrite
  simp only [alter, hready, hwrite', hf]

/-! ### Stores that serve -/

/-- A connection that the file of the pool can be read and written by. -/
structure SoundOn (s : Store) (file : Nat) (k : Connection) : Prop where
  isOpen : k.isOpen = true
  mayWrite : k.mayWrite = true
  file : k.file = file
  inPlace : s.obstacle? k = none

/-- A store with an open pool that has sound connections at hand, and with a table that refuses
nothing. -/
structure Serves (s : Store) (file q : Nat) : Prop where
  current : s.pool.current = some q
  installed : q < s.pool.queues.length
  atHand : s.pool.queue q ≠ []
  sound : ∀ c, c ∈ s.pool.queue q → ∃ k, s.connection? c = some k ∧ s.SoundOn file k
  drafts : ∀ c k, s.connection? c = some k → k.draft = none
  found : s.file? = some file
  named : file < s.disk.files.length
  native : s.disk.isForeign file = false
  free : s.disk.hold? file = none
  table : ∃ t, (s.disk.content file).table = some t ∧ t.triggers = []

theorem SoundOn.of_core {k k' : Connection} (h : s.SoundOn file k) (hcore : k'.core = k.core)
    (hnodes : t.disk.nodes = s.disk.nodes) : t.SoundOn file k' := by
  obtain ⟨hfile, -, hwrite, hopen, -⟩ := (core_eq_iff k' k).1 hcore
  exact ⟨hopen.trans h.isOpen, hwrite.trans h.mayWrite, hfile.trans h.file,
    (obstacle?_of_core hcore hnodes).trans h.inPlace⟩

/-- Nothing that connections remember decides which file the pool has. -/
theorem Alike.file? (h : Alike s t) : t.file? = s.file? := by
  unfold Store.file?
  rw [h.pool]
  cases s.pool.location with
  | file path => rw [h.disk]
  | memory =>
    cases s.pool.tracked.head? with
    | none => rfl
    | some c =>
      simp only [Option.bind_some]
      have hcore := h.core_connection? c
      cases ht : t.connection? c with
      | none =>
        rw [ht, Option.map_none, eq_comm, Option.map_eq_none_iff] at hcore
        rw [hcore]
      | some k =>
        obtain ⟨k₀, hk₀, he⟩ := h.exists_connection? ht
        rw [hk₀, Option.map_some, Option.map_some, ((core_eq_iff k k₀).1 he).1]

theorem Alike.serves (h : Alike s t) (hs : s.Serves file q) : t.Serves file q := by
  refine ⟨?_, ?_, ?_, ?_, ?_, h.file?.trans hs.found, ?_, ?_, ?_, ?_⟩
  · rw [h.pool]
    exact hs.current
  · rw [h.pool]
    exact hs.installed
  · rw [h.pool]
    exact hs.atHand
  · intro c hc
    rw [h.pool] at hc
    obtain ⟨k, hk, hsound⟩ := hs.sound c hc
    obtain ⟨k', hk', hcore⟩ := h.symm.exists_connection? hk
    exact ⟨k', hk', hsound.of_core hcore.symm (by rw [h.disk])⟩
  · intro c k hk
    obtain ⟨k₀, hk₀, hcore⟩ := h.exists_connection? hk
    exact ((core_eq_iff k k₀).1 hcore).2.2.2.2.trans (hs.drafts c k₀ hk₀)
  · rw [h.disk]
    exact hs.named
  · rw [h.disk]
    exact hs.native
  · rw [h.disk]
    exact hs.free
  · rw [h.disk]
    exact hs.table

namespace Serves

/-- A record can always be written. -/
theorem upsert (h : s.Serves file q) (character : Character) :
    ∃ e t, s.database.upsert character = .ok e ∧ e.table = some t ∧ t.triggers = [] := by
  obtain ⟨t, ht, htriggers⟩ := h.table
  rw [database_of_file? h.found]
  refine ⟨⟨(s.disk.content file).version,
      some { t with rows := CharacterTable.replaceRow (Row.ofCharacter character) t.rows }⟩,
    { t with rows := CharacterTable.replaceRow (Row.ofCharacter character) t.rows }, ?_, rfl,
    htriggers⟩
  simp [Database.upsert_eq, ht, CharacterTable.upsert, htriggers]

/-- The store serves on when a connection that was taken is given back. -/
theorem giveBack (h : s.Serves file q) {rest : List Nat} (hq : s.pool.queue q = c :: rest) :
    (s.withPool ((s.pool.drop q).put q c)).Serves file q := by
  have hqueue : ((s.pool.drop q).put q c).queue q = rest ++ [c] := by
    simp [h.installed, hq]
  refine ⟨h.current, ?_, ?_, ?_, h.drafts, h.found, h.named, h.native, h.free, h.table⟩
  · simpa [withPool] using h.installed
  · show ((s.pool.drop q).put q c).queue q ≠ []
    rw [hqueue]
    simp
  · intro d hd
    rw [show (s.withPool ((s.pool.drop q).put q c)).pool.queue q = rest ++ [c] from hqueue,
      List.mem_append, List.mem_singleton] at hd
    obtain ⟨k, hk, hsound⟩ := h.sound d (by rw [hq, List.mem_cons]; exact hd.symm)
    exact ⟨k, hk, hsound.of_core rfl rfl⟩

/-- The store serves on when its file has another table that refuses nothing. -/
theorem setContent (h : s.Serves file q) {e : Database} {t : CharacterTable}
    (he : e.table = some t) (ht : t.triggers = []) :
    ({ s with disk := s.disk.setContent file e } : Store).Serves file q ∧
      ({ s with disk := s.disk.setContent file e } : Store).database = e := by
  have hfound : ({ s with disk := s.disk.setContent file e } : Store).file? = some file := h.found
  have hcontent : (s.disk.setContent file e).content file = e :=
    Disk.content_setContent_self _ _ _ h.named
  refine ⟨⟨h.current, h.installed, h.atHand, ?_, h.drafts, hfound, ?_, ?_, ?_, ?_⟩, ?_⟩
  · intro d hd
    obtain ⟨k, hk, hsound⟩ := h.sound d hd
    exact ⟨k, hk, hsound.of_core rfl rfl⟩
  · show file < (s.disk.setContent file e).files.length
    rw [Disk.length_setContent]
    exact h.named
  · exact (Disk.isForeign_setContent ..).trans h.native
  · exact (Disk.hold?_setContent ..).trans h.free
  · exact ⟨t, by rw [hcontent]; exact he, ht⟩
  · rw [database_of_file? hfound]
    exact hcontent

end Serves

theorem Alike.database_eq (h : Alike s t) : t.database = s.database := by
  unfold database
  rw [h.file?, h.disk]

end Store

/-! ### Visits that have the store to themselves -/

namespace Visit

variable {p : Purpose}

/-- Some steps of a visit that has the store to itself, with what they note, and how far it gets.
Where it cannot go on its wait ends. -/
inductive Runs (p : Purpose) :
    Nat → Store → Progress p.Answer → List Log.Note → Store → Progress p.Answer → Prop
  | stay {s : Store} {progress : Progress p.Answer} : Runs p 0 s progress [] s progress
  | go {n : Nat} {s t u : Store} {phase : Phase p.Answer} {next last : Progress p.Answer}
      {notes more : List Log.Note} (step : Visit.go 0 p s phase = some ⟨t, notes, next⟩)
      (rest : Runs p n t next more u last) :
      Runs p (n + 1) s (.going phase) (notes ++ more) u last
  | wait {n : Nat} {s t u : Store} {phase : Phase p.Answer} {next last : Progress p.Answer}
      {notes more : List Log.Note} (stuck : Visit.go 0 p s phase = none)
      (step : expire p s phase = some ⟨t, notes, next⟩) (rest : Runs p n t next more u last) :
      Runs p (n + 1) s (.going phase) (notes ++ more) u last

theorem Runs.trans {m n : Nat} {s t u : Store} {now next last : Progress p.Answer}
    {notes more : List Log.Note} (h : Runs p m s now notes t next)
    (h' : Runs p n t next more u last) : Runs p (m + n) s now (notes ++ more) u last := by
  induction h with
  | stay =>
    rw [Nat.zero_add, List.nil_append]
    exact h'
  | go step _ ih =>
    rw [Nat.add_right_comm, List.append_assoc]
    exact .go step (ih h')
  | wait stuck step _ ih =>
    rw [Nat.add_right_comm, List.append_assoc]
    exact .wait stuck step (ih h')

theorem Runs.one {s t : Store} {phase : Phase p.Answer} {next : Progress p.Answer}
    {notes : List Log.Note} (step : Visit.go 0 p s phase = some ⟨t, notes, next⟩) :
    Runs p 1 s (.going phase) notes t next := by
  have := Runs.go step .stay
  rwa [List.append_nil] at this

/-- The note of whoever has got a connection. -/
def acquiredNote : Log.Note := note .debug "Acquired database connection from pool"

/-- The note of whoever gives a connection back. -/
def heldNote : Log.Note := note .debug "Database connection held for # seconds"

/-- The notes of whoever has borrowed a connection. -/
def loanNotes : List Log.Note := [acquiredNote, heldNote]

variable {s t : Store} {e : Errand} {q c : Nat} {rest : List Nat}

/-- A visit to an open pool waits for a connection, if it wants one. -/
theorem go_entering {P : Purpose} (hcurrent : s.pool.current = some q) :
    go 0 P s .entering = some ⟨s, [], arrival P q⟩ := by
  cases P <;> simp [go, enter, hcurrent, withOpenPool, goOn, arrival]

/-- **A visit that waits for a connection** gets the first one.  It is looked at if it leads to a
file, and has to be open then. -/
theorem runs_take (hq : s.pool.queue q = c :: rest)
    (hsound : s.pool.location = .memory ∨ s.isOpen c = true) :
    ∃ n, n ≤ 2 ∧ Runs (.borrow e) n s (.going (.awaiting q)) [acquiredNote]
      (s.withPool (s.pool.drop q)) (.going (.working q c)) := by
  cases hl : s.pool.location with
  | memory =>
    have htake : go 0 (.borrow e) s (.awaiting q) =
        some ⟨s.withPool (s.pool.drop q), [acquiredNote], .going (.working q c)⟩ := by
      simp [go, hq, hl, goOn, acquiredNote]
    exact ⟨1, by omega, .one htake⟩
  | file path =>
    have hopen : (s.withPool (s.pool.drop q)).isOpen c = true :=
      hsound.resolve_left (by simp [hl])
    have htake : go 0 (.borrow e) s (.awaiting q) =
        some ⟨s.withPool (s.pool.drop q), [acquiredNote], .going (.checking q c)⟩ := by
      simp [go, hq, hl, goOn, acquiredNote]
    have hcheck : go 0 (.borrow e) (s.withPool (s.pool.drop q)) (.checking q c) =
        some ⟨s.withPool (s.pool.drop q), [], .going (.working q c)⟩ := by
      simp [go, hopen, goOn]
    exact ⟨2, by omega, .go htake (.one hcheck)⟩

/-- **A question is asked**, and the connection given back whatever the answer. -/
theorem runs_ask {question : Question} {r : Except Fault question.Answer}
    (hask : s.ask c question.statement question.bound question.ask = (t, r)) :
    ∃ n, n ≤ 2 ∧ Runs (.borrow (.ask question)) n s (.going (.working q c)) [heldNote]
      (t.withPool (t.pool.put q c)) (.ended (r.mapError .fault)) := by
  cases r with
  | error f =>
    have hwork : go 0 (.borrow (.ask question)) s (.working q c) =
        some (giveBack t q c (.error (.fault f))) := by
      simp only [go, onErrand, work, hask]
    exact ⟨1, by omega, .one hwork⟩
  | ok a =>
    have hwork : go 0 (.borrow (.ask question)) s (.working q c) =
        some (goOn t (.returning q c a) []) := by
      simp only [go, onErrand, work, hask]
    have hreturn : go 0 (.borrow (.ask question)) t (.returning q c a) =
        some (giveBack t q c (.ok a)) := rfl
    exact ⟨2, by omega, .go hwork (.one hreturn)⟩

end Visit

namespace Store

variable {s t : Store} {file q c : Nat} {k : Connection}

/-- A store with as many connections and the same pool, but for who has which. -/
structure SamePool (s t : Store) : Prop where
  location : t.pool.location = s.pool.location
  size : t.pool.size = s.pool.size
  tracked : t.pool.tracked = s.pool.tracked
  length : t.connections.length = s.connections.length

theorem SamePool.trans {u : Store} (h : s.SamePool t) (h' : t.SamePool u) : s.SamePool u :=
  ⟨h'.location.trans h.location, h'.size.trans h.size, h'.tracked.trans h.tracked,
    h'.length.trans h.length⟩

/-- A store of which a visit has a sound connection in its hands, to a file that has the table. -/
structure Lent (s : Store) (file c : Nat) (k : Connection) : Prop where
  found : s.connection? c = some k
  sound : s.SoundOn file k
  drafts : ∀ c k, s.connection? c = some k → k.draft = none
  native : s.disk.isForeign file = false
  free : s.disk.hold? file = none
  table : (s.disk.content file).table.isSome = true

/-- Where there are no transactions nobody is kept out by one. -/
theorem isBusy_of_drafts (h : ∀ c k, s.connection? c = some k → k.draft = none) (c : Nat) :
    s.isBusy c = false := by
  cases hk : s.connection? c with
  | none => simp [isBusy, hk]
  | some k =>
    rw [isBusy_eq_false_iff hk]
    exact fun i other hi _ _ => h i other hi

/-- Closing a connection begins no transaction. -/
theorem drafts_close (h : ∀ c k, s.connection? c = some k → k.draft = none) (c : Nat) :
    ∀ i k, (s.close c).connection? i = some k → k.draft = none := by
  intro i k hk
  rw [connection?_close] at hk
  split at hk
  · obtain ⟨k₀, -, rfl⟩ := Option.map_eq_some_iff.1 hk
    rfl
  · exact h i k hk

/-- A draft that is written and is none any more has changed nothing but the file. -/
theorem alike_commit {e : Database} (h : Alike s t) (hk : s.connection? c = some k)
    (hno : k.draft = none) :
    Alike { s with disk := s.disk.setContent k.file e } ((t.setDraft c (some e)).commit c) := by
  obtain ⟨k', hk', hcore⟩ := h.symm.exists_connection? hk
  obtain ⟨hfile, -, -, -, hdraft⟩ := (core_eq_iff k k').1 hcore
  have hfound : (t.setDraft c (some e)).connection? c = some { k' with draft := some e } := by
    rw [connection?_setDraft, if_pos rfl, hk']
    rfl
  refine ⟨⟨?_, ?_⟩, ?_⟩
  · rw [disk_commit hfound rfl]
    show t.disk.setContent k'.file e = s.disk.setContent k.file e
    rw [h.disk, hfile]
  · rw [← h.cores]
    apply List.ext_getElem?
    intro i
    have hi := connection?_commit (t.setDraft c (some e)) c i
    rw [connection?_setDraft] at hi
    unfold connection? at hi hk'
    rw [List.getElem?_map, List.getElem?_map, hi]
    by_cases hic : i = c
    · rw [if_pos hic, if_pos hic, hic, hk']
      simp [Connection.core, ← hdraft, hno]
    · rw [if_neg hic, if_neg hic]
  · rw [pool_commit]
    exact h.pool

/-- A draft that is dropped has changed nothing. -/
theorem alike_undo (h : Alike s t) (hk : s.connection? c = some k) (hno : k.draft = none) :
    Alike s ((t.beginTransaction c).setDraft c none) := by
  obtain ⟨k', hk', hcore⟩ := h.symm.exists_connection? hk
  have hdraft := ((core_eq_iff k k').1 hcore).2.2.2.2
  refine ⟨⟨(disk_beginTransaction t c).trans h.disk, ?_⟩, (pool_beginTransaction t c).trans h.pool⟩
  rw [← h.cores]
  apply List.ext_getElem?
  intro i
  have hi := connection?_setDraft (t.beginTransaction c) c i none
  rw [connection?_beginTransaction] at hi
  unfold connection? at hi hk'
  rw [List.getElem?_map, List.getElem?_map, hi]
  by_cases hic : i = c
  · rw [if_pos hic, if_pos hic, hic, hk']
    cases ho : k'.isOpen <;> simp [Connection.core, ho, ← hdraft, hno]
  · rw [if_neg hic, if_neg hic]

namespace Lent

/-- The connection reads the database, and may write it. -/
theorem reads (h : s.Lent file c k) :
    s.readable k = .ok (s.disk.content file) ∧ s.writable k = .ok (s.disk.content file) := by
  have hcontent : s.content k = s.disk.content file := by
    rw [content, h.drafts c k h.found, h.sound.file]
    rfl
  refine ⟨?_, ?_⟩
  · simp [readable, h.sound.file, h.native, h.free, hcontent]
  · simp [writable, h.sound.file, h.sound.mayWrite, h.native, h.free, hcontent]

theorem shape (h : s.Lent file c k) : ∃ events, (s.disk.content file).shape = some events := by
  obtain ⟨t, ht⟩ := Option.isSome_iff_exists.1 h.table
  exact ⟨t.triggers, by rw [Database.shape, ht, Option.map_some]⟩

/-- **A question is answered** on a connection in one's hands. -/
theorem asks (h : s.Lent file c k) {question : Question} {a : question.Answer}
    (hst : NeedsTable question.statement) (hbound : question.bound = .ok ())
    (ha : question.ask (s.disk.content file) = .ok a) (q : Nat) :
    ∃ n t, n ≤ 2 ∧ Visit.Runs (.borrow (.ask question)) n s (.going (.working q c))
      [Visit.heldNote] (t.withPool (t.pool.put q c)) (.ended (.ok a)) ∧ Alike s t := by
  obtain ⟨events, hshape⟩ := h.shape
  have hanswer := ask_eq_ok hst h.found h.sound.isOpen h.reads.1 hshape ha
  obtain ⟨halike, -⟩ := ask_spec s c question.statement (.ok ()) question.ask
  rcases hask : s.ask c question.statement (.ok ()) question.ask with ⟨t, r⟩
  rw [hask] at hanswer halike
  cases hanswer
  rw [← hbound] at hask
  obtain ⟨n, hn, hruns⟩ := Visit.runs_ask (q := q) hask
  exact ⟨n, t, hn, hruns, halike⟩

variable {character : Character} {e : Database} {f : Fault}

/-- **A record is written** on a connection in one's hands. -/
theorem saves (h : s.Lent file c k) (hupsert : (s.disk.content file).upsert character = .ok e)
    (q : Nat) :
    ∃ t, Visit.Runs (.borrow (.save character)) 2 s (.going (.working q c)) [Visit.heldNote]
        (t.withPool (t.pool.put q c)) (.ended (.ok ())) ∧
      Alike { s with disk := s.disk.setContent file e } t := by
  obtain ⟨events, hshape⟩ := h.shape
  have halter := alter_eq_ok (fun d => d.upsert character) needsTable_save h.found h.sound.isOpen
    h.reads.1 h.reads.2 h.sound.inPlace hshape hupsert
  obtain ⟨halike, -⟩ := alter_spec s c .save (.ok ()) fun d => d.upsert character
  rcases hdone : s.alter c .save (.ok ()) (fun d => d.upsert character) with ⟨t, r⟩
  rw [hdone] at halter halike
  cases halter
  have hwork : Visit.go 0 (.borrow (.save character)) s (.working q c) =
      some ⟨t.setDraft c (some e), [], .going (.committing q c)⟩ := by
    simp [Visit.go, Visit.onErrand, Visit.work, Visit.workOnSave, isBusy_of_drafts h.drafts c,
      hdone, Visit.goOn]
  have hopen : (t.setDraft c (some e)).isOpen c = true := by
    obtain ⟨k', hk', hcore⟩ := halike.symm.exists_connection? h.found
    refine (isOpen_eq_true_iff _ c).2 ⟨{ k' with draft := some e }, ?_, ?_⟩
    · rw [connection?_setDraft, if_pos rfl, hk']
      rfl
    · exact (((core_eq_iff k k').1 hcore).2.2.2.1).symm.trans h.sound.isOpen
  have hend : Visit.go 0 (.borrow (.save character)) (t.setDraft c (some e)) (.committing q c) =
      some (Visit.giveBack ((t.setDraft c (some e)).commit c) q c (.ok ())) := by
    simp [Visit.go, Visit.onErrand, Visit.endTransaction, hopen]
  have hcommit := alike_commit (e := e) halike h.found (h.drafts c k h.found)
  rw [h.sound.file] at hcommit
  exact ⟨_, .go hwork (.one hend), hcommit⟩

/-- **A record that the table refuses is not written.** -/
theorem refuses (h : s.Lent file c k)
    (hupsert : (s.disk.content file).upsert character = .error f)
    (hf : f.isOfDatabase = true) (q : Nat) :
    ∃ t, Visit.Runs (.borrow (.save character)) 2 s (.going (.working q c)) [Visit.heldNote]
        (t.withPool (t.pool.put q c)) (.ended (.error (.fault f))) ∧ Alike s t := by
  obtain ⟨events, hshape⟩ := h.shape
  have halter := alter_refused (fun d => d.upsert character) needsTable_save h.found
    h.sound.isOpen h.reads.1 h.reads.2 hshape hupsert
  obtain ⟨halike, -⟩ := alter_spec s c .save (.ok ()) fun d => d.upsert character
  rcases hdone : s.alter c .save (.ok ()) (fun d => d.upsert character) with ⟨t, r⟩
  rw [hdone] at halter halike
  cases halter
  have hwork : Visit.go 0 (.borrow (.save character)) s (.working q c) =
      some ⟨t.beginTransaction c, [], .going (.undoing q c f)⟩ := by
    simp [Visit.go, Visit.onErrand, Visit.work, Visit.workOnSave, isBusy_of_drafts h.drafts c,
      hdone, hf, Visit.goOn]
  have hopen : (t.beginTransaction c).isOpen c = true := by
    obtain ⟨k', hk', hcore⟩ := halike.symm.exists_connection? h.found
    have hopen' : k'.isOpen = true :=
      (((core_eq_iff k k').1 hcore).2.2.2.1).symm.trans h.sound.isOpen
    refine (isOpen_eq_true_iff _ c).2 ⟨{ k' with draft := some (t.content k') }, ?_, hopen'⟩
    rw [connection?_beginTransaction, if_pos rfl, hk']
    simp [hopen']
  have hend : Visit.go 0 (.borrow (.save character)) (t.beginTransaction c) (.undoing q c f) =
      some (Visit.giveBack ((t.beginTransaction c).setDraft c none) q c (.error (.fault f))) := by
    simp [Visit.go, Visit.onErrand, Visit.undo, hopen]
  exact ⟨_, .go hwork (.one hend), alike_undo halike h.found (h.drafts c k h.found)⟩

end Lent

namespace Serves

/-- The first connection at hand is a sound one. -/
theorem lent (h : s.Serves file q) {rest : List Nat} (hq : s.pool.queue q = c :: rest) :
    ∃ k, (s.withPool (s.pool.drop q)).Lent file c k := by
  obtain ⟨k, hk, hsound⟩ := h.sound c (by rw [hq]; exact List.mem_cons_self ..)
  obtain ⟨t, ht, -⟩ := h.table
  exact ⟨k, hk, hsound.of_core rfl rfl, h.drafts, h.native, h.free, by
    show (s.disk.content file).table.isSome = true
    rw [ht, Option.isSome_some]⟩

/-- **A visit that waits for a connection** has one in two steps at most. -/
theorem takes (h : s.Serves file q) (e : Errand) :
    ∃ n c rest, n ≤ 2 ∧ s.pool.queue q = c :: rest ∧
      Visit.Runs (.borrow e) n s (.going (.awaiting q)) [Visit.acquiredNote]
        (s.withPool (s.pool.drop q)) (.going (.working q c)) := by
  obtain ⟨c, rest, hq⟩ := List.exists_cons_of_ne_nil h.atHand
  obtain ⟨k, hk, hsound⟩ := h.sound c (by rw [hq]; exact List.mem_cons_self ..)
  have hopen : s.isOpen c = true := (isOpen_eq_true_iff s c).2 ⟨k, hk, hsound.isOpen⟩
  obtain ⟨n, hn, htake⟩ := Visit.runs_take (e := e) hq (.inr hopen)
  exact ⟨n, c, rest, hn, hq, htake⟩

/-- A store like the one that the visit has left serves on. -/
theorem returns (h : s.Serves file q) {rest : List Nat} (hq : s.pool.queue q = c :: rest)
    (halike : Alike (s.withPool (s.pool.drop q)) t) :
    (t.withPool (t.pool.put q c)).Serves file q ∧
      (t.withPool (t.pool.put q c)).rows = s.rows ∧ s.SamePool (t.withPool (t.pool.put q c)) := by
  have hback : Alike (s.withPool ((s.pool.drop q).put q c)) (t.withPool (t.pool.put q c)) := by
    rw [halike.pool]
    exact ⟨⟨halike.disk, halike.cores⟩, rfl⟩
  refine ⟨hback.serves (h.giveBack hq), ?_, ?_⟩
  · rw [rows, hback.database_eq]
    rfl
  · refine ⟨?_, ?_, ?_, halike.length⟩ <;>
      · rw [hback.pool]
        rfl

/-- **A visit for a question is answered**, and the store serves on. -/
theorem answers (h : s.Serves file q) {question : Question} {a : question.Answer}
    (hst : NeedsTable question.statement) (hbound : question.bound = .ok ())
    (ha : question.ask s.database = .ok a) :
    ∃ n t, n ≤ 4 ∧ Visit.Runs (.borrow (.ask question)) n s (.going (.awaiting q)) Visit.loanNotes t
        (.ended (.ok a)) ∧ t.Serves file q ∧ t.rows = s.rows ∧ s.SamePool t := by
  obtain ⟨m, c, rest, hm, hq, htakes⟩ := h.takes (.ask question)
  obtain ⟨k, hlent⟩ := h.lent hq
  rw [database_of_file? h.found] at ha
  obtain ⟨n, t, hn, hasks, halike⟩ := hlent.asks hst hbound ha q
  exact ⟨m + n, _, by omega, htakes.trans hasks, h.returns hq halike⟩

/-- **A visit writes a record**, and the store serves on with the row in its place. -/
theorem saves (h : s.Serves file q) (character : Character) :
    ∃ n t, n ≤ 4 ∧ Visit.Runs (.borrow (.save character)) n s (.going (.awaiting q)) Visit.loanNotes
        t (.ended (.ok ())) ∧ t.Serves file q ∧
      t.rows = CharacterTable.replaceRow (Row.ofCharacter character) s.rows ∧ s.SamePool t := by
  obtain ⟨m, c, rest, hm, hq, htakes⟩ := h.takes (.save character)
  obtain ⟨k, hlent⟩ := h.lent hq
  obtain ⟨e, table, hupsert, htable, htriggers⟩ := h.upsert character
  obtain ⟨hserves, hdatabase⟩ := h.setContent htable htriggers
  have hupsert' := hupsert
  rw [database_of_file? h.found] at hupsert'
  obtain ⟨t, hsaves, halike⟩ := hlent.saves hupsert' q
  obtain ⟨hserves', hrows, hsame⟩ := hserves.returns hq halike
  refine ⟨m + 2, _, by omega, htakes.trans hsaves, hserves', hrows.trans ?_, ?_⟩
  · rw [rows, hdatabase]
    exact Database.rows_upsert hupsert
  · exact ⟨hsame.location, hsame.size, hsame.tracked, hsame.length⟩

end Serves

end Store

end CharacterLedger.Storage
