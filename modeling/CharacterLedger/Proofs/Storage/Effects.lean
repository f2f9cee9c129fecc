import CharacterLedger.Proofs.Storage.Moves
import CharacterLedger.Proofs.Table.Files

/-!
# What moves do to the disk and the connections

Most moves only change the pool, or nothing at all.  The others do one thing to the disk or to one
connection.  This module sorts the moves by that, and forgets the pool:

* `connection?_setDraft`, `connection?_close`, `connection?_write`, `connection?_commit` — the
  connections behind the numbers after an operation of the store;
* `Visit.Effect` — what a move can do to the disk and the connections, one rule each;
* `Visit.Moves.effect` — every move has one of these effects;
* `Visit.Fate`, `Visit.Effect.fate` — what becomes of a single connection;
* `Visit.Effect.content_eq` — the content of a file changes only where the move writes to it.
-/

namespace CharacterLedger.Storage

open CharacterLedger.Table

namespace Store

variable {s t : Store}

/-! ### Connections after an operation -/

theorem connection?_setDraft (s : Store) (c i : Nat) (draft : Option Database) :
    (s.setDraft c draft).connection? i =
      if i = c then (s.connection? i).map fun k => { k with draft := draft }
      else s.connection? i :=
  connection?_modify s c i _

theorem connection?_close (s : Store) (c i : Nat) :
    (s.close c).connection? i =
      if i = c then (s.connection? i).map Connection.close else s.connection? i :=
  connection?_modify s c i _

theorem connection?_write (s : Store) (c i : Nat) (d : Database) :
    (s.write c d).connection? i =
      if i = c then (s.connection? i).map fun k => { k with shape := some d.shape }
      else s.connection? i := by
  unfold write
  cases hk : s.connection? c with
  | none =>
    by_cases h : i = c
    · rw [if_pos h, h, hk]
      rfl
    · rw [if_neg h]
  | some k => exact connection?_modify s c i _

theorem connection?_beginTransaction (s : Store) (c i : Nat) :
    (s.beginTransaction c).connection? i =
      if i = c then (s.connection? i).map fun k =>
        if k.isOpen then { k with draft := some (s.content k) } else k
      else s.connection? i := by
  unfold beginTransaction
  cases hk : s.connection? c with
  | none =>
    by_cases h : i = c
    · rw [if_pos h, h, hk]
      rfl
    · rw [if_neg h]
  | some k =>
    by_cases ho : k.isOpen = true
    · simp only [if_pos ho]
      rw [connection?_setDraft]
      by_cases h : i = c
      · rw [if_pos h, if_pos h, h, hk]
        simp [ho]
      · rw [if_neg h, if_neg h]
    · simp only [if_neg ho]
      by_cases h : i = c
      · rw [if_pos h, h, hk]
        simp [ho]
      · rw [if_neg h]

theorem connection?_commit (s : Store) (c i : Nat) :
    (s.commit c).connection? i =
      if i = c then (s.connection? i).map fun k => { k with draft := none }
      else s.connection? i := by
  unfold commit
  cases hk : s.connection? c with
  | none =>
    by_cases h : i = c
    · rw [if_pos h, h, hk]
      rfl
    · rw [if_neg h]
  | some k =>
    simp only
    cases hd : k.draft with
    | none =>
      by_cases h : i = c
      · rw [if_pos h, h, hk, Option.map_some, ← hd]
      · rw [if_neg h]
    | some d => exact connection?_setDraft s c i none

theorem disk_write {c : Nat} {k : Connection} (hk : s.connection? c = some k) (d : Database) :
    (s.write c d).disk = s.disk.setContent k.file d := by
  simp [write, hk]

theorem disk_beginTransaction (s : Store) (c : Nat) : (s.beginTransaction c).disk = s.disk := by
  unfold beginTransaction
  split
  · rfl
  · split <;> rfl

theorem disk_commit {c : Nat} {k : Connection} {d : Database} (hk : s.connection? c = some k)
    (hd : k.draft = some d) : (s.commit c).disk = s.disk.setContent k.file d := by
  simp [commit, hk, hd]

/-- Making the directory of the pool keeps all files. -/
theorem keepsFiles_makeDirectory {r : Except Fault Unit} (h : Visit.makeDirectory s = (t, r)) :
    s.disk.KeepsFiles t.disk := by
  unfold Visit.makeDirectory at h
  split at h
  · cases h
    exact .refl _
  · split at h
    · cases h
      exact .refl _
    · cases h
      exact Disk.keepsFiles_makeDirectories s.disk _

/-- A new connection changes the content of no file. -/
theorem content_connect {c : Nat} (h : s.connect = .ok (t, c)) (id : Nat) :
    t.disk.content id = s.disk.content id := by
  unfold connect at h
  split at h
  · cases h
  · next a _ =>
    split at h
    · cases h
      exact Disk.content_addFile s.disk id
    · split at h
      · cases h
      · next disk path file hopen =>
        cases h
        obtain ⟨-, ⟨rfl, -⟩ | ⟨-, -, rfl⟩⟩ := Disk.openFile_eq_ok hopen
        · rfl
        · exact Disk.content_withNewFile s.disk path id

/-! ### Operations on matching stores -/

theorem Alike.withPool (h : Alike s t) (p : Pool) : Matches s (t.withPool p) :=
  ⟨h.disk, h.cores⟩

/-- An operation on the draft of a connection gives matching stores on matching ones. -/
theorem Matches.setDraft (h : Matches s t) (c : Nat) (draft : Option Database) :
    Matches (s.setDraft c draft) (t.setDraft c draft) := by
  refine ⟨h.disk, ?_⟩
  apply List.ext_getElem?
  intro i
  have hi := h.core_connection? i
  have hs := connection?_setDraft s c i draft
  have ht := connection?_setDraft t c i draft
  simp only [connection?] at hi hs ht
  rw [List.getElem?_map, List.getElem?_map, hs, ht]
  by_cases hc : i = c
  · rw [if_pos hc, if_pos hc, Option.map_map, Option.map_map]
    have := congrArg (Option.map fun k : Connection => { k with draft := draft }) hi
    rw [Option.map_map, Option.map_map] at this
    exact this
  · rw [if_neg hc, if_neg hc, hi]

theorem Matches.beginTransaction (h : Matches s t) (c : Nat) :
    Matches (s.beginTransaction c) (t.beginTransaction c) := by
  cases hk : t.connection? c with
  | none =>
    have hs : s.connection? c = none := by
      have := h.core_connection? c
      rw [hk] at this
      simpa using this.symm
    simpa [Store.beginTransaction, hk, hs] using h
  | some k =>
    obtain ⟨k₀, hk₀, hcore⟩ := h.exists_connection? hk
    have ho : k.isOpen = k₀.isOpen := ((core_eq_iff k k₀).1 hcore).2.2.2.1
    rw [Store.beginTransaction, Store.beginTransaction, hk, hk₀]
    simp only [ho]
    cases k₀.isOpen with
    | true =>
      simp only [if_true]
      rw [content_eq_of_matches h hcore]
      exact h.setDraft c _
    | false => simpa using h

/-- Writing through a connection gives matching stores on matching ones. -/
theorem Matches.write (h : Matches s t) (c : Nat) (d : Database) :
    Matches (s.write c d) (t.write c d) := by
  refine ⟨?_, ?_⟩
  · cases hk : t.connection? c with
    | none =>
      have hs : s.connection? c = none := by
        have := h.core_connection? c
        rw [hk] at this
        simpa using this.symm
      simpa [Store.write, hk, hs] using h.disk
    | some k =>
      obtain ⟨k₀, hk₀, hcore⟩ := h.exists_connection? hk
      rw [disk_write hk, disk_write hk₀, h.disk, ((core_eq_iff k k₀).1 hcore).1]
  · apply List.ext_getElem?
    intro i
    have hi := h.core_connection? i
    have hs := connection?_write s c i d
    have ht := connection?_write t c i d
    simp only [connection?] at hi hs ht
    rw [List.getElem?_map, List.getElem?_map, hs, ht]
    by_cases hc : i = c
    · rw [if_pos hc, if_pos hc, Option.map_map, Option.map_map]
      exact hi
    · rw [if_neg hc, if_neg hc, hi]

end Store

/-! ### Effects -/

namespace Visit

/-- What a move does to the disk and the connections.  A transaction goes on, or comes to an end
with its connection, unless the rule says otherwise. -/
inductive Effect (p : Purpose) (s : Store) : Phase p.Answer → Store → Progress p.Answer → Prop
  /-- Nothing changes. -/
  | nothing {phase : Phase p.Answer} {t : Store} {next : Progress p.Answer} (same : s.Matches t)
      (kept : ∀ c, phase.transaction? = some c →
        next.transaction? = some c ∨ s.isOpen c = false)
      (noCommit : ∀ q c, next ≠ .going (.committing q c)) : Effect p s phase t next
  /-- Directories are made. -/
  | directories {phase : Phase p.Answer} {t u : Store} {next : Progress p.Answer}
      {pool : Pool} {result : Except Fault Unit} (place : pool.location = s.pool.location)
      (made : makeDirectory (s.withPool pool) = (u, result)) (same : u.Matches t)
      (before : phase.transaction? = none) (after : next.transaction? = none) :
      Effect p s phase t next
  /-- A connection is made. -/
  | connects {phase : Phase p.Answer} {t u : Store} {c : Nat} {next : Progress p.Answer}
      (made : s.connect = .ok (u, c)) (same : u.Matches t)
      (before : phase.transaction? = none) (after : next.transaction? = none) :
      Effect p s phase t next
  /-- A database is set up. -/
  | setsUp {c : Nat} {t : Store} {d : Database} {next : Progress p.Answer}
      (free : s.isBusy c = false) (carried : s.CarriedOut c (fun d => .ok d.setUp) d)
      (same : (s.write c d).Matches t) (after : next.transaction? = none) :
      Effect p s (.preparing c) t next
  /-- A connection is closed, by the visit that holds it or by one that opens the pool. -/
  | closes {phase : Phase p.Answer} {c : Nat} {t : Store} {next : Progress p.Answer}
      (same : (s.close c).Matches t) (before : phase.transaction? = none)
      (after : next.transaction? = none) (reach : c ∈ phase.held ∨ phase.isOpening = true)
      (empty : next.held = []) : Effect p s phase t next
  /-- The statement of a transaction is carried out. -/
  | drafts {q c : Nat} {t : Store} {k : Connection} {d : Database} (free : s.isBusy c = false)
      (found : s.connection? c = some k) (isOpen : k.isOpen = true)
      (writes : p.Writes (s.content k) d) (same : (s.setDraft c (some d)).Matches t) :
      Effect p s (.working q c) t (.going (.committing q c))
  /-- A transaction is begun, and its statement fails. -/
  | begins {q c : Nat} {t : Store} {f : Fault} (same : (s.beginTransaction c).Matches t) :
      Effect p s (.working q c) t (.going (.undoing q c f))
  /-- A change past the ledger is made. -/
  | writes {q c : Nat} {t : Store} {d : Database} {a : p.Answer} (free : s.isBusy c = false)
      (change : p.IsChange) (same : (s.write c d).Matches t) :
      Effect p s (.working q c) t (.going (.returning q c a))
  /-- A transaction is ended. -/
  | commits {q c : Nat} {t : Store} {a : p.Answer} (isOpen : s.isOpen c = true)
      (saving : p.IsTransaction) (same : (s.commit c).Matches t) :
      Effect p s (.committing q c) t (.ended (.ok a))
  /-- A transaction is taken back. -/
  | undoes {q c : Nat} {t : Store} {f : Fault} (same : (s.setDraft c none).Matches t) :
      Effect p s (.undoing q c f) t (.ended (.error (.fault f)))

variable {me : Nat} {p : Purpose} {s t : Store} {next : Progress p.Answer}

@[simp] theorem transaction?_arrival (p : Purpose) (q : Nat) :
    (arrival p q).transaction? = none := by
  cases p <;> rfl

/-- A move of the pool alone, outside any transaction. -/
theorem Effect.ofMatches {phase : Phase p.Answer} (same : s.Matches t)
    (before : phase.transaction? = none) (after : next.transaction? = none) :
    Effect p s phase t next := by
  refine .nothing same ?_ ?_
  · intro c hc
    rw [before] at hc
    cases hc
  · rintro q c rfl
    cases after

theorem Begins.effect {phase : Phase p.Answer} {pool : Pool}
    (h : Begins p (s.withPool pool) t next) (place : pool.location = s.pool.location)
    (before : phase.transaction? = none) : Effect p s phase t next := by
  cases h with
  | refused made => exact .directories place made ⟨rfl, rfl⟩ before rfl
  | empty made => exact .directories place made ⟨rfl, rfl⟩ before (transaction?_arrival p _)
  | going made => exact .directories place made (.refl t) before rfl

theorem CountsIn.spec {made : List Nat} {c : Nat} (h : CountsIn p s made c t next) :
    s.Matches t ∧ next.transaction? = none := by
  cases h with
  | last => exact ⟨⟨rfl, rfl⟩, transaction?_arrival p _⟩
  | more => exact ⟨.refl s, rfl⟩

/-- **Every move has an effect.** -/
theorem Moves.effect {phase : Phase p.Answer} (h : Moves me p s phase t next) :
    Effect p s phase t next := by
  cases h with
  | arrive | arriveLater => exact .ofMatches ⟨rfl, rfl⟩ rfl (transaction?_arrival p _)
  | lineUp | turnAway | turnAwayLater | connectFails | abandoned | takeInMemory | takeToFile
  | giveUp | sound | unsound | replaceFails | letGo | giveBack =>
    exact .ofMatches ⟨rfl, rfl⟩ rfl rfl
  | beginFirst _ _ begins => exact begins.effect rfl rfl
  | beginLater _ _ begins => exact begins.effect rfl rfl
  | connectFirst made => exact .connects made ⟨rfl, rfl⟩ rfl rfl
  | connectNext _ connected counts =>
    obtain ⟨hsame, hnext⟩ := counts.spec
    exact .connects connected ⟨hsame.disk, hsame.cores⟩ rfl hnext
  | prepared alike counts =>
    obtain ⟨hsame, hnext⟩ := counts.spec
    exact .ofMatches (alike.toMatches.trans hsame) rfl hnext
  | setUp alike free carried counts =>
    obtain ⟨hsame, hnext⟩ := counts.spec
    exact .setsUp free carried ((alike.toMatches.write _ _).trans hsame) hnext
  | preparingFails alike => exact .ofMatches alike.toMatches rfl rfl
  | abandonOne => exact .closes ⟨rfl, rfl⟩ rfl rfl (.inr rfl) rfl
  | replace made => exact .connects made ⟨rfl, rfl⟩ rfl rfl
  | answer alike => exact .ofMatches alike.toMatches rfl rfl
  | draft alike free found isOpen writes =>
    exact .drafts free found isOpen writes (alike.toMatches.setDraft _ _)
  | writeAtOnce alike free change => exact .writes free change (alike.toMatches.write _ _)
  | strike alike => exact .begins (alike.toMatches.beginTransaction _)
  | keptOut =>
    refine .nothing (.refl s) ?_ ?_
    · intro c hc
      cases hc
    · intro q c hc
      cases hc
  | refuse alike => exact .ofMatches (alike.withPool _) rfl rfl
  | breakOff => exact .closes ⟨rfl, rfl⟩ rfl rfl (.inl (List.mem_singleton.2 rfl)) rfl
  | commit isOpen saving => exact .commits isOpen saving ⟨rfl, rfl⟩
  | commitLost isClosed | undoLost isClosed =>
    refine .nothing ⟨rfl, rfl⟩ ?_ ?_
    · intro c hc
      cases hc
      exact .inr isClosed
    · intro q c hc
      cases hc
  | commitFails =>
    refine .nothing (.refl s) ?_ ?_
    · intro c hc
      exact .inl hc
    · intro q c hc
      cases hc
  | undo => exact .undoes ⟨rfl, rfl⟩

/-! ### The fate of a connection -/

/-- What becomes of the connection `c` in a move; `k'` is the connection afterwards. -/
inductive Fate (p : Purpose) (s : Store) (phase : Phase p.Answer) (t : Store)
    (next : Progress p.Answer) (c : Nat) (k' : Connection) : Prop
  /-- Nothing, and a transaction of the move on it goes on unless it is closed. -/
  | kept {k : Connection} (found : s.connection? c = some k) (file : k'.file = k.file)
      (isOpen : k'.isOpen = k.isOpen) (draft : k'.draft = k.draft)
      (goesOn : phase.transaction? = some c → next.transaction? = some c ∨ k.isOpen = false)
  /-- It is closed. -/
  | closed {k : Connection} (found : s.connection? c = some k) (file : k'.file = k.file)
      (isClosed : k'.isOpen = false) (draft : k'.draft = none)
      (reach : c ∈ phase.held ∨ phase.isOpening = true) (empty : next.held = [])
  /-- It is new. -/
  | new {u : Store} {k : Connection} (made : s.connect = .ok (u, c)) (same : u.Matches t)
      (number : c = s.connections.length) (found : u.connection? c = some k)
      (file : k'.file = k.file) (isOpen : k'.isOpen = true) (draft : k'.draft = none)
  /-- A transaction has been begun on it. -/
  | begun {k : Connection} (found : s.connection? c = some k) (file : k'.file = k.file)
      (wasOpen : k.isOpen = true) (isOpen : k'.isOpen = true) (mine : phase.held = [c])
      (goesOn : next.transaction? = some c)
  /-- The transaction on it has come to an end. -/
  | settled {k : Connection} (found : s.connection? c = some k) (file : k'.file = k.file)
      (isOpen : k'.isOpen = k.isOpen) (draft : k'.draft = none) (mine : phase.held = [c])

/-- A connection that an operation has left alone, and that is not the connection of a transaction
of the move, is kept. -/
theorem Fate.ofUntouched {phase : Phase p.Answer} {c : Nat} {k' : Connection} {u : Store}
    (same : u.Matches t) (untouched : u.connection? c = s.connection? c)
    (hk' : t.connection? c = some k')
    (goesOn : phase.transaction? = some c → next.transaction? = some c ∨ s.isOpen c = false) :
    Fate p s phase t next c k' := by
  obtain ⟨k, hk, hcore⟩ := same.exists_connection? hk'
  obtain ⟨hfile, -, -, hopen, hdraft⟩ := (Store.core_eq_iff k' k).1 hcore
  rw [untouched] at hk
  refine .kept hk hfile hopen hdraft ?_
  intro hc
  refine (goesOn hc).imp_right ?_
  intro hclosed
  simpa [Store.isOpen, hk] using hclosed

/-- The connection that an operation has changed is that of before, changed. -/
theorem exists_changed {c : Nat} {k' : Connection} {u : Store} {f : Connection → Connection}
    (same : u.Matches t) (changed : u.connection? c = (s.connection? c).map f)
    (hk' : t.connection? c = some k') :
    ∃ k, s.connection? c = some k ∧ k'.file = (f k).file ∧ k'.isOpen = (f k).isOpen ∧
      k'.draft = (f k).draft := by
  obtain ⟨k₁, hk₁, hcore⟩ := same.exists_connection? hk'
  obtain ⟨hfile, -, -, hopen, hdraft⟩ := (Store.core_eq_iff k' k₁).1 hcore
  rw [changed, Option.map_eq_some_iff] at hk₁
  obtain ⟨k, hk, rfl⟩ := hk₁
  exact ⟨k, hk, hfile, hopen, hdraft⟩

/-- An operation that changes one connection at most leaves all others untouched. -/
theorem Fate.ofChanged {phase : Phase p.Answer} {c mine : Nat} {k' : Connection} {u : Store}
    {f : Connection → Connection} (same : u.Matches t)
    (changed : u.connection? c =
      if c = mine then (s.connection? c).map f else s.connection? c)
    (hk' : t.connection? c = some k')
    (others : c ≠ mine → phase.transaction? = some c →
      next.transaction? = some c ∨ s.isOpen c = false)
    (itself : c = mine → ∀ k, s.connection? c = some k → k'.file = (f k).file →
      k'.isOpen = (f k).isOpen → k'.draft = (f k).draft → Fate p s phase t next c k') :
    Fate p s phase t next c k' := by
  by_cases hc : c = mine
  · rw [if_pos hc] at changed
    obtain ⟨k, hk, hfile, hopen, hdraft⟩ := exists_changed same changed hk'
    exact itself hc k hk hfile hopen hdraft
  · rw [if_neg hc] at changed
    exact .ofUntouched same changed hk' (others hc)

/-- A new connection is that which has been made, and all others are untouched. -/
theorem Fate.ofConnected {phase : Phase p.Answer} {c new : Nat} {k' : Connection} {u : Store}
    (made : s.connect = .ok (u, new)) (same : u.Matches t) (before : phase.transaction? = none)
    (hk' : t.connection? c = some k') : Fate p s phase t next c k' := by
  obtain ⟨rfl, -, k, hconn, hopen, hdraft⟩ := Store.connect_eq_ok made
  have hu : u.connection? c =
      if c = s.connections.length then some k else s.connection? c := by
    rw [← Store.connection?_addConnection s k c, Store.connection?, hconn]
    rfl
  by_cases hc : c = s.connections.length
  · rw [if_pos hc] at hu
    subst hc
    obtain ⟨k₁, hk₁, hcore⟩ := same.exists_connection? hk'
    obtain ⟨hfile', -, -, hopen', hdraft'⟩ := (Store.core_eq_iff k' k₁).1 hcore
    rw [hu, Option.some.injEq] at hk₁
    subst hk₁
    exact .new made same rfl hu hfile' (hopen'.trans hopen) (hdraft'.trans hdraft)
  · rw [if_neg hc] at hu
    exact .ofUntouched same hu hk' (by simp [before])

/-- Making the directory of the pool touches no connection. -/
theorem Fate.ofDirectory {phase : Phase p.Answer} {c : Nat} {k' : Connection} {u : Store}
    {pool : Pool} {result : Except Fault Unit} (made : makeDirectory (s.withPool pool) = (u, result))
    (same : u.Matches t) (before : phase.transaction? = none) (hk' : t.connection? c = some k') :
    Fate p s phase t next c k' := by
  obtain ⟨-, hconn⟩ := Store.pool_makeDirectory made
  have huntouched : u.connection? c = s.connection? c := by
    rw [Store.connection?, hconn]
    rfl
  exact .ofUntouched same huntouched hk' (by simp [before])

/-- **What becomes of a connection** follows from the effect of a move. -/
theorem Effect.fate {phase : Phase p.Answer} (h : Effect p s phase t next) {c : Nat}
    {k' : Connection} (hk' : t.connection? c = some k') : Fate p s phase t next c k' := by
  cases h with
  | nothing same kept => exact .ofUntouched same rfl hk' (kept c)
  | directories place made same before => exact .ofDirectory made same before hk'
  | connects made same before => exact .ofConnected made same before hk'
  | @setsUp first _ d _ free carried same after =>
    refine .ofChanged same (Store.connection?_write s first c d) hk' (fun _ h => by cases h) ?_
    intro _ k hk hfile hopen hdraft
    exact .kept hk hfile hopen hdraft (fun h => by cases h)
  | @closes _ last _ _ same before after reach empty =>
    refine .ofChanged same (Store.connection?_close s last c) hk' (by simp [before]) ?_
    rintro rfl k hk hfile hopen hdraft
    exact .closed hk hfile hopen hdraft reach empty
  | @drafts q mine _ k d free found isOpen writes same =>
    refine .ofChanged same (Store.connection?_setDraft s mine c (some d)) hk'
      (fun _ h => by cases h) ?_
    rintro rfl k₁ hk₁ hfile hopen -
    obtain rfl : k = k₁ := Option.some.inj (found.symm.trans hk₁)
    exact .begun hk₁ hfile isOpen (hopen.trans isOpen) rfl rfl
  | @begins q mine _ f same =>
    refine .ofChanged same (Store.connection?_beginTransaction s mine c) hk'
      (fun _ h => by cases h) ?_
    rintro rfl k hk hfile hopen hdraft
    by_cases ho : k.isOpen = true
    · simp only [if_pos ho] at hfile hopen
      exact .begun hk hfile ho (hopen.trans ho) rfl rfl
    · simp only [if_neg ho] at hfile hopen hdraft
      exact .kept hk hfile hopen hdraft (fun h => by cases h)
  | @writes q mine _ d a free change same =>
    refine .ofChanged same (Store.connection?_write s mine c d) hk' (fun _ h => by cases h) ?_
    intro _ k hk hfile hopen hdraft
    exact .kept hk hfile hopen hdraft (fun h => by cases h)
  | @commits q mine _ a isOpen saving same =>
    refine .ofChanged same (Store.connection?_commit s mine c) hk'
      (fun hc h => absurd (Option.some.inj h).symm hc) ?_
    rintro rfl k hk hfile hopen hdraft
    exact .settled hk hfile hopen hdraft rfl
  | @undoes q mine _ f same =>
    refine .ofChanged same (Store.connection?_setDraft s mine c none) hk'
      (fun hc h => absurd (Option.some.inj h).symm hc) ?_
    rintro rfl k hk hfile hopen hdraft
    exact .settled hk hfile hopen hdraft rfl

/-! ### The contents of files -/

/-- Writing through a connection changes its own file at most. -/
theorem content_write (s : Store) (c id : Nat) (d : Database) :
    (s.write c d).disk.content id = s.disk.content id ∨
      ∃ k, s.connection? c = some k ∧ k.file = id := by
  cases hk : s.connection? c with
  | none => exact .inl (by simp [Store.write, hk])
  | some k =>
    by_cases hid : id = k.file
    · exact .inr ⟨k, rfl, hid.symm⟩
    · rw [Store.disk_write hk]
      exact .inl (Disk.content_setContent_of_ne s.disk d hid)

/-- Only a visit that has a connection to a file can change its content, and only when nobody else
has a transaction there or its own one comes to its end. -/
theorem Effect.content_eq {phase : Phase p.Answer} (h : Effect p s phase t next) (id : Nat) :
    t.disk.content id = s.disk.content id ∨ ∃ c k, phase.held = [c] ∧
      s.connection? c = some k ∧ k.file = id ∧
      (s.isBusy c = false ∨ ∃ q, phase = .committing q c ∧ k.isOpen = true) := by
  cases h with
  | nothing same | closes same | drafts _ _ _ _ same | undoes same =>
    rw [same.disk]
    exact .inl rfl
  | directories place made same =>
    rw [same.disk]
    exact .inl ((Store.keepsFiles_makeDirectory made).content id)
  | connects made same =>
    rw [same.disk]
    exact .inl (Store.content_connect made id)
  | begins same =>
    rw [same.disk, Store.disk_beginTransaction]
    exact .inl rfl
  | @setsUp c _ d _ free _ same | @writes _ c _ d _ free _ same =>
    rw [same.disk]
    refine (content_write s c id d).imp_right ?_
    rintro ⟨k, hk, hfile⟩
    exact ⟨c, k, rfl, hk, hfile, .inl free⟩
  | @commits q c _ _ isOpen _ same =>
    rw [same.disk]
    obtain ⟨k, hk, hopen⟩ := (Store.isOpen_eq_true_iff s c).1 isOpen
    cases hd : k.draft with
    | none => exact .inl (by simp [Store.commit, hk, hd])
    | some d =>
      rw [Store.disk_commit hk hd]
      by_cases hid : id = k.file
      · exact .inr ⟨c, k, rfl, hk, hid.symm, .inr ⟨q, rfl, hopen⟩⟩
      · exact .inl (Disk.content_setContent_of_ne s.disk d hid)

end Visit

end CharacterLedger.Storage
