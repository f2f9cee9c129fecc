import CharacterLedger.Proofs.Storage.Drafts
import CharacterLedger.Proofs.Storage.Openings
import CharacterLedger.Proofs.Table.Rows

/-!
# The database of a pool

A pool keeps its tables in memory or in a file.  Where that is one database for all connections, it
can be told from the store alone what is in it: the file is the one that the location leads to, or
in memory the one of the only tracked connection.

* `Location.IsShared` — all connections to the location have the same database;
* `Store.file?`, `Store.database`, `Store.rows` — the file of the pool and what is in it;
* `Place` — every open connection leads to that file;
* `Place.moves` — a move of any visit keeps it so;
* `Place.rows_of_moves` — no move changes the rows but the end of a transaction.
-/

namespace CharacterLedger.Storage

open CharacterLedger.Table

namespace Location

/-- Whether all connections to a location have the same database.  A pool in memory has only one. -/
def IsShared : Location → Prop
  | memory => True
  | file path => ∀ a, (file path).address = .ok a → a.isPrivate = false

/-- The path that the file of a location is at. -/
def path? : Location → Option Path
  | memory => none
  | file path =>
    match (file path).address with
    | .ok a => some (Path.ofText a.path)
    | .error _ => none

end Location

namespace Phase

variable {α : Type}

/-- The connections that a visit has made that goes on making them. -/
def connecting? : Phase α → Option (List Nat)
  | connecting made => some made
  | _ => none

/-- Whether a visit has its answer and is to give its connection back. -/
def isReturning : Phase α → Bool
  | returning .. => true
  | _ => false

/-- Whether a visit looks at its connection before it uses it. -/
def isLooking : Phase α → Bool
  | checking .. | replacing .. => true
  | _ => false

end Phase

namespace Store

variable {s t : Store}

/-- The file that has the tables of the pool, if there is one by now. -/
def file? (s : Store) : Option Nat :=
  match s.pool.location with
  | .memory => s.pool.tracked.head?.bind fun c => (s.connection? c).map Connection.file
  | .file path => (Location.file path).path?.bind s.disk.fileAt?

/-- The database of the pool, without what unfinished transactions have made of it. -/
def database (s : Store) : Database :=
  match s.file? with
  | some id => s.disk.content id
  | none => .empty

/-- The rows of the table of the pool. -/
def rows (s : Store) : List Row := s.database.rows

/-- The pool has the file that it had, or a new one of which there was nothing. -/
def KeepsFile (s t : Store) : Prop :=
  t.file? = s.file? ∨ s.file? = none ∧ ∀ id, t.file? = some id → s.disk.content id = .empty

/-- The pool keeps its database where it keeps its file and nothing is written to that. -/
theorem KeepsFile.database_eq (h : KeepsFile s t)
    (hcontent : ∀ id, t.disk.content id = s.disk.content id) : t.database = s.database := by
  unfold database
  obtain heq | ⟨hnone, hempty⟩ := h
  · rw [heq]
    cases s.file? with
    | none => rfl
    | some id => exact hcontent id
  · rw [hnone]
    cases ht : t.file? with
    | none => rfl
    | some id => exact (hcontent id).trans (hempty id ht)

theorem database_of_file? {id : Nat} (h : s.file? = some id) : s.database = s.disk.content id := by
  unfold database
  rw [h]

end Store

/-! ### What moves leave alone -/

namespace Visit

variable {me : Nat} {p : Purpose} {s t : Store} {next : Progress p.Answer}

theorem Begins.location (h : Begins p s t next) :
    t.pool.location = s.pool.location ∧ t.pool.size = s.pool.size ∧
      t.pool.tracked = s.pool.tracked := by
  cases h with
  | refused made | empty made | going made =>
    obtain ⟨hpool, -⟩ := Store.pool_makeDirectory made
    rw [← hpool]
    exact ⟨rfl, rfl, rfl⟩

theorem CountsIn.location {made : List Nat} {c : Nat} (h : CountsIn p s made c t next) :
    t.pool.location = s.pool.location ∧ t.pool.size = s.pool.size ∧
      t.pool.tracked = s.pool.tracked := by
  cases h with
  | last | more => exact ⟨rfl, rfl, rfl⟩

/-- What becomes of the tracked connections in a move. -/
inductive Tracking (s : Store) (phase : Phase p.Answer) (t : Store) : Prop
  | same (tracked : t.pool.tracked = s.pool.tracked)
      (length : t.connections.length = s.connections.length)
  | grown {made : List Nat} {c : Nat} {u : Store} (phase : phase = .connecting made)
      (made : s.connect = .ok (u, c)) (same : u.Matches t)
      (tracked : t.pool.tracked = s.pool.tracked ++ [c])
  | shrunk {f : Fault} {c : Nat} (phase : phase = .abandoning f)
      (last : s.pool.tracked.getLast? = some c) (same : t = s.closeLast c)
  | changed {q c new : Nat} {u : Store} (phase : phase = .replacing q c)
      (made : s.connect = .ok (u, new)) (same : u.Matches t)
      (tracked : t.pool.tracked = (s.pool.retrack c new).tracked)

theorem Moves.tracking {phase : Phase p.Answer} (h : Moves me p s phase t next) :
    t.pool.location = s.pool.location ∧ t.pool.size = s.pool.size ∧ Tracking s phase t := by
  cases h with
  | arrive | lineUp | turnAway | arriveLater | turnAwayLater | connectFails | abandoned
  | takeInMemory | takeToFile | giveUp | sound | unsound | replaceFails | keptOut | letGo
  | commitLost | commitFails | undoLost | giveBack => exact ⟨rfl, rfl, .same rfl rfl⟩
  | beginFirst _ _ begins | beginLater _ _ begins =>
    obtain ⟨hl, hs, ht⟩ := begins.location
    exact ⟨hl, hs, .same ht (begins.count_le 0).1⟩
  | connectFirst made =>
    obtain ⟨-, hpool, -⟩ := Store.connect_eq_ok made
    rw [← hpool]
    exact ⟨rfl, rfl, .grown rfl made ⟨rfl, rfl⟩ (by rw [← hpool]; rfl)⟩
  | connectNext _ connected counts =>
    obtain ⟨-, hpool, -⟩ := Store.connect_eq_ok connected
    obtain ⟨hl, hs, ht⟩ := counts.location
    obtain ⟨hsame, -⟩ := counts.spec
    rw [← hpool]
    exact ⟨hl, hs, .grown rfl connected ⟨hsame.disk, hsame.cores⟩ (by rw [← hpool]; exact ht)⟩
  | prepared alike counts =>
    obtain ⟨hl, hs, ht⟩ := counts.location
    rw [← alike.pool]
    exact ⟨hl, hs, .same (by rw [← alike.pool]; exact ht)
      ((counts.count_le 0).1.trans alike.length)⟩
  | setUp alike _ _ counts =>
    obtain ⟨hl, hs, ht⟩ := counts.location
    rw [Store.pool_write] at hl hs ht
    rw [← alike.pool]
    exact ⟨hl, hs, .same (by rw [← alike.pool]; exact ht)
      ((counts.count_le 0).1.trans ((Store.length_write _ _ _).trans alike.length))⟩
  | preparingFails alike | answer alike =>
    rw [← alike.pool]
    exact ⟨rfl, rfl, .same (by rw [alike.pool]) alike.length⟩
  | abandonOne last => exact ⟨rfl, rfl, .shrunk rfl last rfl⟩
  | replace made =>
    obtain ⟨-, hpool, -⟩ := Store.connect_eq_ok made
    rw [← hpool]
    exact ⟨rfl, rfl, .changed rfl made ⟨rfl, rfl⟩ (by rw [← hpool]; rfl)⟩
  | draft alike =>
    rw [← alike.pool]
    exact ⟨rfl, rfl, .same (by rw [← alike.pool]; rfl)
      ((Store.length_setDraft _ _ _).trans alike.length)⟩
  | writeAtOnce alike =>
    rw [Store.pool_write, ← alike.pool]
    exact ⟨rfl, rfl, .same (by rw [Store.pool_write, alike.pool])
      ((Store.length_write _ _ _).trans alike.length)⟩
  | strike alike =>
    rw [Store.pool_beginTransaction, ← alike.pool]
    exact ⟨rfl, rfl, .same (by rw [Store.pool_beginTransaction, alike.pool])
      ((Store.length_beginTransaction _ _).trans alike.length)⟩
  | refuse alike =>
    rw [← alike.pool]
    exact ⟨rfl, rfl, .same (by rw [← alike.pool]; rfl) alike.length⟩
  | breakOff => exact ⟨rfl, rfl, .same rfl (Store.length_close _ _)⟩
  | commit =>
    rw [← Store.pool_commit s]
    exact ⟨rfl, rfl, .same (by rw [← Store.pool_commit s]; rfl) (Store.length_commit _ _)⟩
  | undo => exact ⟨rfl, rfl, .same rfl (Store.length_setDraft _ _ _)⟩

theorem Begins.closed (h : Begins p s t next) (hclosed : t.pool.current = none) :
    s.pool.current = none := by
  cases h with
  | empty => cases hclosed
  | refused made | going made =>
    obtain ⟨hpool, -⟩ := Store.pool_makeDirectory made
    rw [← hpool]
    exact hclosed

theorem CountsIn.closed {made : List Nat} {c : Nat} (h : CountsIn p s made c t next)
    (hclosed : t.pool.current = none) : s.pool.current = none := by
  cases h with
  | last => cases hclosed
  | more => exact hclosed

/-- No move closes the pool. -/
theorem Moves.closed {phase : Phase p.Answer} (h : Moves me p s phase t next)
    (hclosed : t.pool.current = none) : s.pool.current = none := by
  cases h with
  | arrive | lineUp | turnAway | arriveLater | turnAwayLater | connectFails | abandonOne | abandoned
  | takeInMemory | takeToFile | giveUp | sound | unsound | replaceFails | keptOut | letGo | breakOff
  | commitLost | commitFails | undo | undoLost | giveBack => exact hclosed
  | beginFirst _ _ begins => exact begins.closed hclosed
  | beginLater _ _ begins => exact begins.closed hclosed
  | connectFirst made =>
    obtain ⟨-, hpool, -⟩ := Store.connect_eq_ok made
    rw [← hpool]
    exact hclosed
  | connectNext _ connected counts =>
    obtain ⟨-, hpool, -⟩ := Store.connect_eq_ok connected
    rw [← hpool]
    exact counts.closed hclosed
  | prepared alike counts =>
    rw [← alike.pool]
    exact counts.closed hclosed
  | setUp alike _ _ counts =>
    rw [← alike.pool, ← Store.pool_write]
    exact counts.closed hclosed
  | replace made =>
    obtain ⟨-, hpool, -⟩ := Store.connect_eq_ok made
    rw [← hpool]
    exact hclosed
  | preparingFails alike | answer alike | draft alike | refuse alike =>
    rw [← alike.pool]
    exact hclosed
  | writeAtOnce alike =>
    rw [Store.pool_write, alike.pool] at hclosed
    exact hclosed
  | strike alike =>
    rw [Store.pool_beginTransaction, alike.pool] at hclosed
    exact hclosed
  | commit =>
    rw [← Store.pool_commit]
    exact hclosed

/-- A visit that goes on connecting has made fewer connections than there are places. -/
theorem Moves.few {phase : Phase p.Answer} {made : List Nat} (h : Moves me p s phase t next)
    (hnext : next.yields @Phase.connecting? none = some made) :
    made = [] ∨ (made.length : Int) < s.pool.size := by
  have harrival : ∀ q, (arrival p q).yields @Phase.connecting? none = none := by
    intro q
    cases p <;> rfl
  have hbegins : ∀ {s₀ : Store}, Begins p s₀ t next → made = [] := by
    intro s₀ hb
    cases hb with
    | refused => cases hnext
    | empty =>
      rw [harrival] at hnext
      cases hnext
    | going => exact (Option.some.inj hnext).symm
  have hcounts : ∀ {s₀ : Store} {m : List Nat} {c : Nat}, CountsIn p s₀ m c t next →
      (made.length : Int) < s₀.pool.size := by
    intro s₀ m c hc
    cases hc with
    | last =>
      rw [harrival] at hnext
      cases hnext
    | more few =>
      rw [← Option.some.inj hnext]
      simpa using few
  cases h with
  | arrive | arriveLater =>
    rw [harrival] at hnext
    cases hnext
  | beginFirst _ _ begins => exact .inl (hbegins begins)
  | beginLater _ _ begins => exact .inl (hbegins begins)
  | connectNext _ connected counts =>
    obtain ⟨-, hpool, -⟩ := Store.connect_eq_ok connected
    have hlt := hcounts counts
    rw [← hpool]
    exact .inr hlt
  | prepared alike counts =>
    rw [← alike.pool]
    exact .inr (hcounts counts)
  | setUp alike _ _ counts =>
    have := hcounts counts
    rw [Store.pool_write, alike.pool] at this
    exact .inr this
  | _ => cases hnext

/-- Only a connection to a file is looked at. -/
theorem Moves.looking {phase : Phase p.Answer} (h : Moves me p s phase t next)
    (hnext : next.yields @Phase.isLooking false = true) :
    phase.isLooking = true ∨ s.pool.location ≠ .memory := by
  have harrival : ∀ q, (arrival p q).yields @Phase.isLooking false = false := by
    intro q
    cases p <;> rfl
  cases h with
  | arrive | arriveLater =>
    rw [harrival] at hnext
    cases hnext
  | beginFirst _ _ begins | beginLater _ _ begins =>
    cases begins with
    | refused | going => cases hnext
    | empty =>
      rw [harrival] at hnext
      cases hnext
  | connectNext _ _ counts | prepared _ counts | setUp _ _ _ counts =>
    cases counts with
    | last =>
      rw [harrival] at hnext
      cases hnext
    | more => cases hnext
  | takeToFile toFile => exact .inr toFile
  | unsound => exact .inl rfl
  | _ => cases hnext

/-- Only a question or a change past the ledger has its answer before its connection is given back.
-/
theorem Moves.returning {phase : Phase p.Answer} (h : Moves me p s phase t next)
    (hnext : next.yields @Phase.isReturning false = true) :
    (∃ question, p = .borrow (.ask question)) ∨ p.IsChange := by
  have harrival : ∀ q, (arrival p q).yields @Phase.isReturning false = false := by
    intro q
    cases p <;> rfl
  cases h with
  | arrive | arriveLater =>
    rw [harrival] at hnext
    cases hnext
  | beginFirst _ _ begins | beginLater _ _ begins =>
    cases begins with
    | refused | going => cases hnext
    | empty =>
      rw [harrival] at hnext
      cases hnext
  | connectNext _ _ counts | prepared _ counts | setUp _ _ _ counts =>
    cases counts with
    | last =>
      rw [harrival] at hnext
      cases hnext
    | more => cases hnext
  | answer _ answers =>
    cases p with
    | borrow e =>
      cases e with
      | ask question => exact .inl ⟨question, rfl⟩
      | save | change | breakConnection | keep => exact answers.elim
    | openPool => exact answers.elim
  | writeAtOnce _ _ change => exact .inr change
  | _ => cases hnext

/-- Only a visit for a transaction begins one. -/
theorem Moves.transacting (h : Moves me p s phase t next)
    (hphase : phase.transaction? ≠ none → p.IsTransaction) (hnext : next.transaction? ≠ none) :
    p.IsTransaction := by
  cases h with
  | draft _ _ _ _ writes =>
    cases p with
    | borrow e =>
      cases e with
      | save | change => trivial
      | ask | breakConnection | keep => exact writes.elim
    | openPool => exact writes.elim
  | strike _ saving | keptOut saving => exact saving
  | commitFails => exact hphase nofun
  | arrive | arriveLater => exact absurd (transaction?_arrival p _) hnext
  | beginFirst _ _ begins | beginLater _ _ begins =>
    cases begins with
    | empty => exact absurd (transaction?_arrival p _) hnext
    | refused | going => exact absurd rfl hnext
  | connectNext _ _ counts | prepared _ counts | setUp _ _ _ counts =>
    exact absurd counts.spec.2 hnext
  | _ => exact absurd rfl hnext

/-- A visit for a question begins no transaction. -/
theorem Moves.asking {question : Question} {phase : Phase (Purpose.borrow (.ask question)).Answer}
    {next : Progress (Purpose.borrow (.ask question)).Answer}
    (h : Moves me (.borrow (.ask question)) s phase t next) (hno : phase.transaction? = none) :
    next.transaction? = none :=
  Classical.byContradiction fun hnext => h.transacting (absurd hno) hnext

/-- A transaction that has no answer before its end succeeds only by its end. -/
theorem Moves.committed {character : Character}
    {phase : Phase (Purpose.borrow (.save character)).Answer}
    {a : Unit} (h : Moves me (.borrow (.save character)) s phase t (.ended (.ok a)))
    (hno : phase.isReturning = false) : ∃ q c, phase = .committing q c := by
  cases h with
  | letGo idle | breakOff idle => exact idle.elim
  | commit => exact ⟨_, _, rfl⟩
  | giveBack => cases hno
  | beginFirst _ _ begins => cases begins
  | beginLater _ _ begins => cases begins
  | connectNext _ _ counts | prepared _ counts | setUp _ _ _ counts => cases counts

/-- The answer to a question is taken from a connection that is used for nothing else. -/
theorem Moves.answered {question : Question} {q c : Nat} {a : question.Answer}
    {phase : Phase (Purpose.borrow (.ask question)).Answer}
    (h : Moves me (.borrow (.ask question)) s phase t (.going (.returning q c a))) :
    phase = .working q c ∧ s.CarriedOut c question.ask a := by
  cases h with
  | answer _ answers => exact ⟨rfl, answers⟩
  | writeAtOnce _ _ change => exact change.elim
  | beginFirst _ _ begins => cases begins
  | beginLater _ _ begins => cases begins
  | connectNext _ _ counts | prepared _ counts | setUp _ _ _ counts => cases counts

/-- A visit for a question ends with the answer that it had before. -/
theorem Moves.given {question : Question} {a : question.Answer}
    {phase : Phase (Purpose.borrow (.ask question)).Answer}
    (h : Moves me (.borrow (.ask question)) s phase t (.ended (.ok a))) :
    ∃ q c, phase = .returning q c a := by
  cases h with
  | letGo idle | breakOff idle => exact idle.elim
  | commit _ saving => exact saving.elim
  | giveBack => exact ⟨_, _, rfl⟩
  | beginFirst _ _ begins => cases begins
  | beginLater _ _ begins => cases begins
  | connectNext _ _ counts | prepared _ counts | setUp _ _ _ counts => cases counts

/-- No file comes or goes but by a new connection. -/
theorem Effect.files {phase : Phase p.Answer} (h : Effect p s phase t next) :
    ((∀ path, t.disk.fileAt? path = s.disk.fileAt? path) ∧
      t.disk.files.length = s.disk.files.length) ∨
      ∃ u c, s.connect = .ok (u, c) ∧ u.Matches t := by
  -- writing to a file moves none
  have hwrite : ∀ c d, (∀ path, (s.write c d).disk.fileAt? path = s.disk.fileAt? path) ∧
      (s.write c d).disk.files.length = s.disk.files.length := by
    intro c d
    cases hk : s.connection? c with
    | none =>
      rw [show s.write c d = s by simp [Store.write, hk]]
      exact ⟨fun _ => rfl, rfl⟩
    | some k =>
      rw [Store.disk_write hk]
      exact ⟨fun _ => rfl, Disk.length_setContent _ _ _⟩
  cases h with
  | nothing same | closes same | drafts _ _ _ _ same | undoes same =>
    rw [same.disk]
    exact .inl ⟨fun _ => rfl, rfl⟩
  | begins same =>
    rw [same.disk, Store.disk_beginTransaction]
    exact .inl ⟨fun _ => rfl, rfl⟩
  | directories _ made same =>
    have hkeeps := Store.keepsFiles_makeDirectory made
    rw [same.disk]
    exact .inl ⟨hkeeps.fileAt?, congrArg List.length hkeeps.files⟩
  | connects made same => exact .inr ⟨_, _, made, same⟩
  | setsUp _ _ same | writes _ _ same =>
    rw [same.disk]
    exact .inl (hwrite _ _)
  | commits isOpen _ same =>
    obtain ⟨k, hk, -⟩ := (Store.isOpen_eq_true_iff _ _).1 isOpen
    rw [same.disk]
    cases hd : k.draft with
    | none =>
      rw [show s.commit _ = s by simp [Store.commit, hk, hd]]
      exact .inl ⟨fun _ => rfl, rfl⟩
    | some d =>
      rw [Store.disk_commit hk hd]
      exact .inl ⟨fun _ => rfl, Disk.length_setContent _ _ _⟩

end Visit

/-! ### Pools on a file -/

/-- A pool on a file.  Every open connection leads to the file that its location leads to. -/
structure OnFile (s : Store) (path : String) : Prop where
  location : s.pool.location = .file path
  shared : ∀ a, (Location.file path).address = .ok a → a.isPrivate = false
  named : ∀ id, s.file? = some id → id < s.disk.files.length
  connected : ∀ c k, s.connection? c = some k → k.isOpen = true → s.file? = some k.file

namespace OnFile

variable {me : Nat} {p : Purpose} {s t : Store} {path : String} {phase : Phase p.Answer}
  {next : Progress p.Answer}

theorem file?_eq (h : OnFile s path) :
    s.file? = (Location.file path).path?.bind s.disk.fileAt? := by
  unfold Store.file?
  rw [h.location]

/-- A new connection leads to the file of the pool, which is made if it was not there. -/
theorem connect (h : OnFile s path) {c : Nat} (hmade : s.connect = .ok (t, c)) :
    ∃ k, t.connection? c = some k ∧ t.file? = some k.file ∧ k.file < t.disk.files.length ∧
      (s.file? = some k.file ∧ t.disk = s.disk ∨
        s.file? = none ∧ k.file = s.disk.files.length) := by
  have hfile := h.file?_eq
  have hnumber : ∀ (disk : Disk) (k : Connection),
      ({ s with disk := disk }.addConnection k).1.connection? s.connections.length = some k := by
    intro disk k
    rw [Store.connection?_addConnection]
    exact if_pos rfl
  unfold Store.connect at hmade
  rw [h.location] at hmade
  cases ha : (Location.file path).address with
  | error f =>
    rw [ha] at hmade
    cases hmade
  | ok a =>
    have hpath : (Location.file path).path? = some (Path.ofText a.path) := by
      simp [Location.path?, ha]
    have hshared : a.isPrivate = false := h.shared a ha
    rw [hpath, Option.bind_some] at hfile
    rw [ha] at hmade
    simp only [hshared, Bool.false_eq_true, if_false] at hmade
    cases ho : s.disk.openFile a with
    | error f =>
      rw [ho] at hmade
      cases hmade
    | ok found =>
      obtain ⟨disk, q, id⟩ := found
      rw [ho] at hmade
      simp only [Except.ok.injEq] at hmade
      cases hmade
      obtain ⟨rfl, hor⟩ := Disk.openFile_eq_ok ho
      have hafter : ∀ u : Store, u.pool = s.pool →
          u.file? = u.disk.fileAt? (Path.ofText a.path) := by
        intro u hu
        unfold Store.file?
        rw [hu, h.location]
        simp only [hpath, Option.bind_some]
      refine ⟨_, hnumber disk _, ?_, ?_, ?_⟩
      · refine (hafter ({ s with disk := disk }.addConnection _).1 rfl).trans ?_
        show disk.fileAt? (Path.ofText a.path) = some id
        obtain ⟨rfl, hnode⟩ | ⟨hnode, rfl, rfl⟩ := hor
        · exact (Disk.fileAt?_eq_some_iff ..).2 hnode
        · exact Disk.fileAt?_withNewFile hnode
      · show id < disk.files.length
        obtain ⟨rfl, hnode⟩ | ⟨hnode, rfl, rfl⟩ := hor
        · exact h.named id (hfile.trans ((Disk.fileAt?_eq_some_iff ..).2 hnode))
        · rw [Disk.length_withNewFile]
          omega
      · obtain ⟨rfl, hnode⟩ | ⟨hnode, rfl, rfl⟩ := hor
        · exact .inl ⟨hfile.trans ((Disk.fileAt?_eq_some_iff ..).2 hnode), rfl⟩
        · refine .inr ⟨?_, rfl⟩
          rw [hfile]
          unfold Disk.fileAt?
          rw [hnode]

/-- A move leaves the file of the pool where it is, or a new connection has made it. -/
theorem keepsFile (h : OnFile s path) (hl : t.pool.location = s.pool.location)
    (heffect : Visit.Effect p s phase t next) :
    s.KeepsFile t ∧ ∀ id, t.file? = some id → id < t.disk.files.length := by
  have hfile : ∀ u : Store, u.pool.location = s.pool.location →
      u.file? = (Location.file path).path?.bind u.disk.fileAt? := by
    intro u hu
    unfold Store.file?
    rw [hu, h.location]
  obtain ⟨hsame, hlength⟩ | ⟨u, c, hmade, hmatches⟩ := heffect.files
  · have : t.file? = s.file? := by
      rw [hfile t hl, hfile s rfl, funext hsame]
    refine ⟨.inl this, ?_⟩
    intro id hid
    rw [hlength]
    exact h.named id (this ▸ hid)
  · obtain ⟨-, hpool, -⟩ := Store.connect_eq_ok hmade
    obtain ⟨k, -, hu, hlt, hor⟩ := h.connect hmade
    have : t.file? = u.file? := by
      rw [hfile t hl, hfile u (by rw [hpool]), hmatches.disk]
    refine ⟨?_, ?_⟩
    · refine hor.imp (fun hs => this.trans (hu.trans hs.1.symm)) ?_
      rintro ⟨hnone, hnew⟩
      refine ⟨hnone, ?_⟩
      intro id hid
      rw [this, hu, Option.some.injEq] at hid
      rw [← hid, hnew]
      simp [Disk.content]
    · intro id hid
      rw [this, hu, Option.some.injEq] at hid
      rw [hmatches.disk, ← hid]
      exact hlt

theorem moves (h : OnFile s path) (hmove : Visit.Moves me p s phase t next) : OnFile t path := by
  have hl := hmove.tracking.1
  have heffect := hmove.effect
  obtain ⟨hfile, hnamed⟩ := h.keepsFile hl heffect
  refine ⟨hl.trans h.location, h.shared, hnamed, ?_⟩
  intro c k' hk' hopen
  -- a connection of before leads to a file that was there before
  have hold : ∀ k, s.connection? c = some k → k'.file = k.file → k.isOpen = true →
      t.file? = some k'.file := by
    intro k hk hkk' hwas
    have hs := h.connected c k hk hwas
    rw [hkk', ← hs]
    refine hfile.resolve_right ?_
    rw [hs]
    exact fun hn => nomatch hn.1
  cases heffect.fate hk' with
  | kept found file isOpen => exact hold _ found file (isOpen ▸ hopen)
  | closed _ _ isClosed =>
    rw [hopen] at isClosed
    cases isClosed
  | begun found file wasOpen => exact hold _ found file wasOpen
  | settled found file isOpen => exact hold _ found file (isOpen ▸ hopen)
  | @new u k made same number found file =>
    obtain ⟨k₁, hk₁, hu, -⟩ := h.connect made
    obtain ⟨-, hpool, -⟩ := Store.connect_eq_ok made
    rw [found, Option.some.injEq] at hk₁
    rw [file, hk₁, ← hu, Store.file?, Store.file?, hpool, hl, h.location, same.disk]

end OnFile

/-! ### Pools in memory -/

/-- A pool in memory.  It has one connection at most, which is never replaced, and as long as it is
closed there is nothing in it. -/
structure InMemory (s : Store) (visits : Nat → Option Visiting) : Prop where
  location : s.pool.location = .memory
  size : s.pool.size = 1
  single : s.pool.tracked.length ≤ 1
  found : ∀ c, c ∈ s.pool.tracked → c < s.connections.length
  tracked : ∀ c k, s.connection? c = some k → k.isOpen = true → s.pool.tracked = [c]
  named : ∀ id, s.file? = some id → id < s.disk.files.length
  first : ∀ id m, Visiting.yields @Phase.connecting? none (visits id) = some m → m = []
  kept : ∀ id, Visiting.yields @Phase.isLooking false (visits id) = false
  blank : s.pool.current = none → s.rows = []

namespace InMemory

variable {me : Nat} {p : Purpose} {s t : Store} {visits visits' : Nat → Option Visiting}
  {phase : Phase p.Answer} {next : Progress p.Answer}

theorem file?_eq (h : InMemory s visits) :
    s.file? = s.pool.tracked.head?.bind fun c => (s.connection? c).map Connection.file := by
  unfold Store.file?
  rw [h.location]

theorem connected (h : InMemory s visits) {c : Nat} {k : Connection} (hk : s.connection? c = some k)
    (hopen : k.isOpen = true) : s.file? = some k.file := by
  rw [h.file?_eq, h.tracked c k hk hopen]
  simp [hk]

/-- A new connection has a database of its own. -/
theorem connect (h : InMemory s visits) {c : Nat} (hmade : s.connect = .ok (t, c)) :
    ∃ k, t.connection? c = some k ∧ k.file = s.disk.files.length ∧
      t.disk = (s.disk.addFile .empty).1 := by
  unfold Store.connect at hmade
  rw [h.location, Location.address_memory] at hmade
  simp only [Address.isPrivate_ofPath_memory, if_true] at hmade
  cases hmade
  exact ⟨_, (Store.connection?_addConnection _ _ _).trans (if_pos rfl), rfl, rfl⟩

/-- Opening the pool begins with the first connection, and no connection is ever replaced. -/
theorem tracking (h : InMemory s visits) (hopenings : Openings s.pool visits)
    (hmove : Visit.Moves me p s phase t next)
    (hmoved : Visiting.Moved me phase next visits visits') :
    (t.pool.tracked = s.pool.tracked ∧ t.connections.length = s.connections.length) ∨
    (∃ u c, s.connect = .ok (u, c) ∧ u.Matches t ∧ s.pool.tracked = [] ∧ t.pool.tracked = [c]) ∨
    (∃ c, s.pool.tracked = [c] ∧ s.pool.current = none ∧ t = s.closeLast c) := by
  cases hmove.tracking.2.2 with
  | same tracked length => exact .inl ⟨tracked, length⟩
  | @grown made c u hphase made' same tracked =>
    subst hphase
    have hnil : made = [] := h.first me made (hmoved.yields fun _ => rfl).1
    have hnone : s.pool.tracked = made := hopenings.made me made (hmoved.yields fun _ => rfl).1
    rw [hnil] at hnone
    rw [hnone] at tracked
    exact .inr (.inl ⟨u, c, made', same, hnone, tracked⟩)
  | @shrunk f c hphase last same =>
    subst hphase
    have hopening : Visiting.isOpening (visits me) = true := (hmoved.yields fun _ => rfl).1
    refine .inr (.inr ⟨c, ?_, (hopenings.turn me hopening).2, same⟩)
    have hsingle := h.single
    match htracked : s.pool.tracked with
    | [] =>
      rw [htracked] at last
      cases last
    | [first] =>
      rw [htracked, List.getLast?_singleton, Option.some.injEq] at last
      rw [last]
    | first :: second :: rest =>
      rw [htracked] at hsingle
      simp at hsingle
  | changed hphase =>
    subst hphase
    have hlooking : Visiting.yields @Phase.isLooking false (visits me) = true :=
      (hmoved.yields fun _ => rfl).1
    rw [h.kept me] at hlooking
    cases hlooking

theorem file?_of_tracked_eq_nil (hl : s.pool.location = .memory) (hnone : s.pool.tracked = []) :
    s.file? = none := by
  unfold Store.file?
  rw [hl, hnone]
  rfl

/-- What a connection of before is in a move. -/
theorem exists_of_lt (heffect : Visit.Effect p s phase t next) {c : Nat}
    (hlt : c < s.connections.length) (hlength : t.connections.length = s.connections.length) :
    ∃ k k', s.connection? c = some k ∧ t.connection? c = some k' ∧ k'.file = k.file := by
  obtain ⟨k', hk'⟩ := Store.connection?_isSome (s := t) (hlength ▸ hlt)
  cases heffect.fate hk' with
  | kept found file | closed found file | begun found file | settled found file =>
    exact ⟨_, k', found, hk', file⟩
  | new _ _ number => omega

/-- A move leaves the file of the pool where it is, or a new connection has made it, or the last
connection of a failed opening is closed and nothing is lost. -/
theorem keepsFile (h : InMemory s visits) (hopenings : Openings s.pool visits)
    (hmove : Visit.Moves me p s phase t next)
    (hmoved : Visiting.Moved me phase next visits visits') :
    (s.KeepsFile t ∨ s.rows = [] ∧ t.rows = [] ∧ phase.queue? = none) ∧
      ∀ id, t.file? = some id → id < t.disk.files.length := by
  have hl : t.pool.location = .memory := hmove.tracking.1.trans h.location
  have heffect := hmove.effect
  obtain ⟨htracked, hlength⟩ | ⟨u, c, hmade, hmatches, hnone, htracked⟩ | ⟨c, hone, hclosed, rfl⟩ :=
    h.tracking hopenings hmove hmoved
  · have hsame : t.file? = s.file? := by
      unfold Store.file?
      rw [hl, h.location]
      simp only
      rw [htracked]
      match hone : s.pool.tracked with
      | [] => rfl
      | c :: rest =>
        obtain ⟨k, k', hk, hk', hfile⟩ :=
          exists_of_lt heffect (h.found c (hone ▸ List.mem_cons_self ..)) hlength
        simp [hk, hk', hfile]
    refine ⟨.inl (.inl hsame), ?_⟩
    intro id hid
    have hlt := h.named id (hsame ▸ hid)
    obtain ⟨-, hfiles⟩ | ⟨u, c, hmade, hmatches⟩ := heffect.files
    · omega
    · obtain ⟨-, -, k, hconn, -⟩ := Store.connect_eq_ok hmade
      have := hmatches.length
      rw [hconn, List.length_append, List.length_singleton] at this
      omega
  · obtain ⟨k, hk, hfile, hdisk⟩ := h.connect hmade
    obtain ⟨k', hk'⟩ : ∃ k', t.connection? c = some k' := by
      apply Store.connection?_isSome
      rw [hmatches.length]
      exact Store.lt_length_of_connection? hk
    obtain ⟨k₁, hk₁, hcore⟩ := hmatches.exists_connection? hk'
    rw [hk, Option.some.injEq] at hk₁
    have hid : t.file? = some s.disk.files.length := by
      unfold Store.file?
      rw [hl, htracked, ← hfile, hk₁, ← ((Store.core_eq_iff k' k₁).1 hcore).1]
      simp [hk']
    refine ⟨.inl (.inr ⟨file?_of_tracked_eq_nil h.location hnone, ?_⟩), ?_⟩
    · intro id hid'
      rw [hid, Option.some.injEq] at hid'
      simp [← hid', Disk.content]
    · intro id hid'
      rw [hid, Option.some.injEq] at hid'
      rw [← hid', hmatches.disk, hdisk]
      simp [Disk.addFile]
  · have hnone : (s.closeLast c).file? = none := by
      refine file?_of_tracked_eq_nil hl ?_
      show s.pool.tracked.dropLast = []
      rw [hone]
      rfl
    refine ⟨.inr ⟨h.blank hclosed, ?_, ?_⟩, ?_⟩
    · rw [Store.rows, Store.database, hnone, Database.rows_empty]
    · cases hq : phase.queue? with
      | none => rfl
      | some q =>
        have := hopenings.queue me q ((hmoved.yields fun _ => rfl).1.trans hq)
        rw [hclosed] at this
        cases this
    · intro id hid
      rw [hnone] at hid
      cases hid

end InMemory

/-! ### One database for all connections -/

/-- All open connections of a store lead to the file of its pool. -/
inductive Place (s : Store) (visits : Nat → Option Visiting) : Prop
  | onFile {path : String} (filed : OnFile s path)
  | inMemory (kept : InMemory s visits)

namespace Place

variable {me : Nat} {p : Purpose} {s t : Store} {visits visits' : Nat → Option Visiting}
  {phase : Phase p.Answer} {next : Progress p.Answer}

theorem connected (h : Place s visits) {c : Nat} {k : Connection} (hk : s.connection? c = some k)
    (hopen : k.isOpen = true) : s.file? = some k.file := by
  cases h with
  | onFile h => exact h.connected c k hk hopen
  | inMemory h => exact h.connected hk hopen

theorem named (h : Place s visits) {id : Nat} (hid : s.file? = some id) :
    id < s.disk.files.length := by
  cases h with
  | onFile h => exact h.named id hid
  | inMemory h => exact h.named id hid

/-- What is on the disk behind an open connection is the database of the pool. -/
theorem content_eq (h : Place s visits) {c : Nat} {k : Connection} (hk : s.connection? c = some k)
    (hopen : k.isOpen = true) : s.disk.content k.file = s.database :=
  (Store.database_of_file? (h.connected hk hopen)).symm

theorem keepsFile (h : Place s visits) (hopenings : Openings s.pool visits)
    (hmove : Visit.Moves me p s phase t next)
    (hmoved : Visiting.Moved me phase next visits visits') :
    s.KeepsFile t ∨ s.rows = [] ∧ t.rows = [] ∧ phase.queue? = none := by
  cases h with
  | onFile h => exact .inl (h.keepsFile hmove.tracking.1 hmove.effect).1
  | inMemory h => exact (h.keepsFile hopenings hmove hmoved).1

/-- A visit that answers a question has asked the database of the pool. -/
theorem answer_eq (h : Place s visits) (hslots : Slots s visits) (hdrafts : Drafts s visits)
    {q : Question} {qu c : Nat} (hvisit : visits me = some ⟨.borrow (.ask q), .working qu c⟩)
    {a : q.Answer} (hanswers : s.CarriedOut c q.ask a) : q.ask s.database = .ok a := by
  obtain ⟨k, hk, hopen, hask⟩ := hanswers
  have hheld : c ∈ Visiting.held? (visits me) := by
    rw [hvisit]
    exact List.mem_singleton.2 rfl
  have hno : Visiting.transaction? (visits me) = none := by
    rw [hvisit]
    rfl
  rw [hdrafts.content_of_held hslots hheld hno hk, h.content_eq hk hopen] at hask
  exact hask

/-- Where the pool has an open connection, it has a file, which no move takes away. -/
theorem file?_of_connected (h : Place s visits) (hkeeps : s.KeepsFile t) {c : Nat} {k : Connection}
    (hk : s.connection? c = some k) (hopen : k.isOpen = true) : t.file? = some k.file := by
  have hs := h.connected hk hopen
  obtain heq | ⟨hnone, -⟩ := hkeeps
  · exact heq.trans hs
  · rw [hs] at hnone
    cases hnone

/-- **The end of a transaction** makes the database what the statement made of it. -/
theorem writes_of_commit (h : Place s visits) (hdrafts : Drafts s visits)
    (hopenings : Openings s.pool visits) {q c : Nat} {a : p.Answer}
    (hmove : Visit.Moves me p s (.committing q c) t (.ended (.ok a)))
    (hmoved : Visiting.Moved (p := p) me (.committing q c) (.ended (.ok a)) visits visits') :
    p.Writes s.database t.database := by
  have hkeeps : s.KeepsFile t := by
    refine (h.keepsFile hopenings hmove hmoved).resolve_right ?_
    exact fun hlost => nomatch hlost.2.2
  cases hmove with
  | commit isOpen =>
    obtain ⟨k, hk, hopen⟩ := (Store.isOpen_eq_true_iff s c).1 isOpen
    obtain ⟨d, hd, hwrites⟩ := hdrafts.meant me p c k ⟨⟨q, hmoved.before⟩, hk, hopen⟩
    rw [h.content_eq hk hopen] at hwrites
    rw [Store.database_of_file? (h.file?_of_connected hkeeps hk hopen)]
    show p.Writes s.database ((s.commit c).disk.content k.file)
    rw [Store.disk_commit hk hd,
      Disk.content_setContent_self _ _ _ (h.named (h.connected hk hopen))]
    exact hwrites

/-- **No move changes the rows but the end of a transaction.** -/
theorem rows_of_moves (h : Place s visits) (hslots : Slots s visits) (hdrafts : Drafts s visits)
    (hopenings : Openings s.pool visits) (hmove : Visit.Moves me p s phase t next)
    (hmoved : Visiting.Moved me phase next visits visits') (hchange : ¬ p.IsChange) :
    t.rows = s.rows ∨
      ∃ q c a, phase = .committing q c ∧ next = .ended (.ok a) ∧ p.IsTransaction := by
  obtain ⟨hs, ht, -⟩ | hkeeps := (h.keepsFile hopenings hmove hmoved).symm
  · exact .inl (ht.trans hs.symm)
  have hrows : (∀ id, t.disk.content id = s.disk.content id) → t.rows = s.rows := by
    intro hcontent
    rw [Store.rows, hkeeps.database_eq hcontent]
    rfl
  cases hmove.effect with
  | nothing same | closes same | drafts _ _ _ _ same | undoes same =>
    refine .inl (hrows ?_)
    rw [same.disk]
    exact fun _ => rfl
  | begins same =>
    refine .inl (hrows ?_)
    rw [same.disk, Store.disk_beginTransaction]
    exact fun _ => rfl
  | directories _ made same =>
    refine .inl (hrows ?_)
    rw [same.disk]
    exact (Store.keepsFiles_makeDirectory made).content
  | connects made same =>
    refine .inl (hrows ?_)
    rw [same.disk]
    exact Store.content_connect made
  | @setsUp c _ d _ _ carried same =>
    obtain ⟨k, hk, hopen, hsetUp⟩ := carried
    have hheld : c ∈ Visiting.held? (visits me) := by
      rw [hmoved.before]
      exact List.mem_singleton.2 rfl
    have hno : Visiting.transaction? (visits me) = none := by
      rw [hmoved.before]
      rfl
    rw [hdrafts.content_of_held hslots hheld hno hk, h.content_eq hk hopen,
      Except.ok.injEq] at hsetUp
    refine .inl ?_
    rw [Store.rows, Store.rows,
      Store.database_of_file? (h.file?_of_connected hkeeps hk hopen), same.disk,
      Store.disk_write hk, Disk.content_setContent_self _ _ _ (h.named (h.connected hk hopen)),
      ← hsetUp, Database.rows_setUp]
  | writes _ change => exact absurd change hchange
  | @commits q c _ a _ saving => exact .inr ⟨q, c, a, rfl, rfl, saving⟩

/-- **A move of any visit keeps every open connection on the file of the pool.** -/
theorem moves (h : Place s visits) (hslots : Slots s visits) (hdrafts : Drafts s visits)
    (hopenings : Openings s.pool visits) (hmove : Visit.Moves me p s phase t next)
    (hmoved : Visiting.Moved me phase next visits visits') (hchange : ¬ p.IsChange) :
    Place t visits' := by
  have hrows := h.rows_of_moves hslots hdrafts hopenings hmove hmoved hchange
  cases h with
  | onFile h => exact .onFile (h.moves hmove)
  | inMemory h =>
    obtain ⟨hlocation, hsize, -⟩ := hmove.tracking
    have hnamed := (h.keepsFile hopenings hmove hmoved).2
    have heffect := hmove.effect
    have hsame := h.tracking hopenings hmove hmoved
    refine .inMemory ⟨hlocation.trans h.location, hsize.trans h.size, ?_, ?_, ?_, hnamed, ?_, ?_,
      ?_⟩
    · obtain ⟨htracked, -⟩ | ⟨u, c, -, -, -, htracked⟩ | ⟨c, hone, -, rfl⟩ := hsame
      · rw [htracked]
        exact h.single
      · rw [htracked]
        exact Nat.le_refl 1
      · show s.pool.tracked.dropLast.length ≤ 1
        rw [hone]
        exact Nat.zero_le 1
    · intro c hc
      obtain ⟨htracked, hlength⟩ | ⟨u, c', hmade, hmatches, -, htracked⟩ | ⟨c', hone, -, rfl⟩ :=
        hsame
      · rw [hlength]
        exact h.found c (htracked ▸ hc)
      · obtain ⟨k, hk, -⟩ := h.connect hmade
        rw [htracked, List.mem_singleton] at hc
        rw [hc, hmatches.length]
        exact Store.lt_length_of_connection? hk
      · have : c ∈ s.pool.tracked.dropLast := hc
        rw [hone] at this
        cases this
    · intro c k' hk' hopen
      have hlt := Store.lt_length_of_connection? hk'
      -- an open connection of before is the tracked one, which is not the one that is closed
      have hold : ∀ k, s.connection? c = some k → k.isOpen = true → t.pool.tracked = [c] := by
        intro k hk hwas
        have hone := h.tracked c k hk hwas
        obtain ⟨htracked, -⟩ | ⟨-, -, -, -, hnone, -⟩ | ⟨c', hone', -, rfl⟩ := hsame
        · exact htracked.trans hone
        · rw [hone] at hnone
          cases hnone
        · obtain rfl : c' = c := by
            rw [hone] at hone'
            exact (List.singleton_inj.1 hone').symm
          have : (s.close c').connection? c' = some k' := hk'
          rw [Store.connection?_close, if_pos rfl, hk, Option.map_some, Option.some.injEq] at this
          rw [← this, Connection.isOpen_close] at hopen
          cases hopen
      cases heffect.fate hk' with
      | kept found _ isOpen => exact hold _ found (isOpen ▸ hopen)
      | closed _ _ isClosed =>
        rw [hopen] at isClosed
        cases isClosed
      | begun found _ wasOpen => exact hold _ found wasOpen
      | settled found _ isOpen => exact hold _ found (isOpen ▸ hopen)
      | new _ _ number =>
        obtain ⟨-, hlength⟩ | ⟨u, c', hmade, -, -, htracked⟩ | ⟨c', -, -, rfl⟩ := hsame
        · omega
        · obtain ⟨rfl, -⟩ := Store.connect_eq_ok hmade
          rw [htracked, number]
        · have : (s.closeLast c').connections.length = s.connections.length := s.length_close c'
          omega
    · intro id m hm
      rw [hmoved.yields_eq fun _ => rfl] at hm
      split at hm
      · obtain hnil | hlt := hmove.few hm
        · exact hnil
        · rw [h.size] at hlt
          exact List.eq_nil_of_length_eq_zero (by omega)
      · exact h.first id m hm
    · intro id
      rw [hmoved.yields_eq fun _ => rfl]
      split
      · cases hl : next.yields @Phase.isLooking false with
        | false => rfl
        | true =>
          obtain hlooking | hne := hmove.looking hl
          · have := h.kept me
            rw [hmoved.before] at this
            exact absurd this (by simpa [Visiting.yields] using hlooking)
          · exact absurd h.location hne
      · exact h.kept id
    · intro hclosed
      have hwas := hmove.closed hclosed
      obtain heq | ⟨q, c, a, rfl, -⟩ := hrows
      · rw [heq]
        exact h.blank hwas
      · rw [hopenings.queue me q (hmoved.yields fun _ => rfl).1] at hwas
        cases hwas

end Place

end CharacterLedger.Storage
