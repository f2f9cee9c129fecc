import CharacterLedger.Proofs.Storage.Causes
import CharacterLedger.Proofs.Storage.Serving
import CharacterLedger.Proofs.Table.Directories

/-!
# Pools that are opened on a file

Where a file can be made or is there, and nothing is in the way, a visit that has a pool to itself
opens it.  It makes the directory, connects as often as the pool has places, and sets up the
database on the first connection.  Everything it does and notes is known beforehand: the disk that
it leaves, the connections, the pool, and each line of the log.

* `Admits` — a path at which a disk takes a database;
* `Store.opened`, `Visit.runs_opening` — the store after an opening, and the steps to it;
* `Visit.runs_opening_empty` — a pool without places opens without a connection;
* `Visit.runs_opening_memory` — a pool in memory opens with a database of its own;
* `Visit.ask_count_opened` — what the first connection counts.
-/

namespace CharacterLedger.Storage

open CharacterLedger.Table

/-! ### Where a database can be kept -/

/-- A path at which a disk takes a database.  The directory can be made, which gives the disk
`made`; a connection opens a file there, which gives the disk `found`, and from then on every
connection opens the same file, may write to it, and is kept out by nobody. -/
structure Admits (path : String) (d made found : Disk) (a : Address) (p : Path) (file : Nat) :
    Prop where
  directory : d.makeDirectories (Route.ofText path).parent = (made, .ok ())
  address : (Location.file path).address = .ok a
  shared : a.isPrivate = false
  mayWrite : a.mayWrite = true
  opens : made.openFile a = .ok (found, p, file)
  again : found.openFile a = .ok (found, p, file)
  named : file < found.files.length
  native : found.isForeign file = false
  free : found.hold? file = none
  changeable : Disk.isUnchangeable p = false

/-- The database that is at a path, or an empty one where there is none. -/
def databaseAt (d : Disk) (path : String) : Database :=
  match (Location.file path).path?.bind d.fileAt? with
  | some id => d.content id
  | none => .empty

namespace Admits

variable {path : String} {d made found : Disk} {a : Address} {p : Path} {file : Nat}

/-- At a path that is no address of another kind a file that was opened once is there the next
time. -/
theorem ofPlain (directory : d.makeDirectories (Route.ofText path).parent = (made, .ok ()))
    (clean : Location.hasZero path = false)
    (plain : Address.scheme.isPrefixOf path.toList = false)
    (shared : (Address.ofPath path).isPrivate = false)
    (opens : made.openFile (.ofPath path) = .ok (found, p, file))
    (named : file < found.files.length) (native : found.isForeign file = false)
    (free : found.hold? file = none) (changeable : Disk.isUnchangeable p = false) :
    Admits path d made found (.ofPath path) p file where
  directory := directory
  address := by simp [Location.address, clean, Address.ofText_of_not_scheme plain]
  shared := shared
  mayWrite := by simp [Address.mayWrite, Address.ofPath]
  opens := opens
  again := Disk.openFile_again directory opens
  named := named
  native := native
  free := free
  changeable := changeable

/-- The directory can be asked for. -/
theorem hasZero_parent (h : Admits path d made found a p file) :
    Location.hasZero (Route.ofText path).parent.toText = false := by
  cases hzero : Location.hasZero (Route.ofText path).parent.toText with
  | false => rfl
  | true =>
    have haddress := h.address
    rw [Location.address, if_pos (hasZero_of_parent hzero)] at haddress
    cases haddress

/-- The file is at the end of its path. -/
theorem node? (h : Admits path d made found a p file) : found.node? p = some (.file file) :=
  (Disk.openFile_eq_self_iff.1 h.again).2

theorem keepsDirectories (h : Admits path d made found a p file) :
    Disk.KeepsDirectories made found := by
  obtain ⟨-, ⟨rfl, -⟩ | ⟨hnone, -, rfl⟩⟩ := Disk.openFile_eq_ok h.opens
  · exact fun _ hq => hq
  · exact Disk.keepsDirectories_withNewFile hnone

/-- **What has been opened once** is there, with whatever has been written to it. -/
theorem setContent (h : Admits path d made found a p file) (content : Database) :
    Admits path (found.setContent file content) (found.setContent file content)
      (found.setContent file content) a p file where
  directory := Disk.makeDirectories_again h.directory
    (h.keepsDirectories.trans (Disk.keepsDirectories_setContent _ _ _))
  address := h.address
  shared := h.shared
  mayWrite := h.mayWrite
  opens := Disk.openFile_setContent content h.again
  again := Disk.openFile_setContent content h.again
  named := (Disk.length_setContent ..).symm ▸ h.named
  native := (Disk.isForeign_setContent ..).trans h.native
  free := (Disk.hold?_setContent ..).trans h.free
  changeable := h.changeable

/-- A directory that has been made is there, and nothing else has changed. -/
theorem afterDirectory (h : Admits path d made found a p file) :
    Admits path made made found a p file :=
  { h with directory := Disk.makeDirectories_again h.directory fun _ hp => hp }

/-- Nothing keeps a connection from changing the file. -/
theorem obstacle? (h : Admits path d made found a p file) {s : Store} {k : Connection}
    (hnodes : s.disk.nodes = found.nodes) (hfile : k.file = file) (hpath : k.path = some p) :
    s.obstacle? k = none := by
  have hnode : s.disk.node? p = some (.file file) := by
    rw [← h.node?]
    unfold Disk.node?
    rw [hnodes]
  have hmoved : s.isMoved k = false := by
    rw [Store.isMoved, hpath, hfile]
    simp [hnode]
  simp [Store.obstacle?, hmoved, hpath, h.changeable]

/-- The path does not stand for memory. -/
theorem location (h : Admits path d made found a p file) :
    Location.ofText path = .file path := by
  unfold Location.ofText
  split
  · next hpath =>
    have hprivate : a.isPrivate = true := by
      have haddress := h.address
      rw [hpath] at haddress
      cases haddress
      rfl
    rw [h.shared] at hprivate
    cases hprivate
  · rfl

/-- The file that is opened has what was at the path before. -/
theorem content (h : Admits path d made found a p file) :
    found.content file = databaseAt d path := by
  obtain ⟨hp, hor⟩ := Disk.openFile_eq_ok h.opens
  have hkeeps : Disk.KeepsFiles d made := by
    have hkept := Disk.keepsFiles_makeDirectories d (Route.ofText path).parent
    rw [h.directory] at hkept
    exact hkept
  have hpath : (Location.file path).path? = some p := by simp [Location.path?, h.address, hp]
  unfold databaseAt
  rw [hpath, Option.bind_some, ← hkeeps.fileAt?]
  obtain ⟨rfl, hnode⟩ | ⟨hnone, rfl, rfl⟩ := hor
  · rw [(Disk.fileAt?_eq_some_iff ..).2 hnode]
    exact hkeeps.content file
  · have hnowhere : made.fileAt? p = none := by
      unfold Disk.fileAt?
      rw [hnone]
    rw [hnowhere, Disk.content_withNewFile]
    unfold Disk.content
    rw [List.getElem?_eq_none (Nat.le_refl _)]
    rfl

end Admits

/-! ### The store while the pool is opened, and after -/

namespace Store

variable {s : Store}

/-- The numbers of the next `n` connections. -/
def nextNumbers (s : Store) (n : Nat) : List Nat := List.range' s.connections.length n

/-- The store with these connections made for the pool that is being opened. -/
def duringOpening (s : Store) (disk : Disk) (made : List Connection) : Store where
  disk := disk
  connections := s.connections ++ made
  pool := { s.pool with tracked := s.nextNumbers made.length, opening := [0] }

/-- The store with these connections in a pool that is open. -/
def opened (s : Store) (disk : Disk) (made : List Connection) : Store where
  disk := disk
  connections := s.connections ++ made
  pool := { s.pool with
    tracked := s.nextNumbers made.length
    queues := s.pool.queues ++ [s.nextNumbers made.length]
    current := some s.pool.queues.length
    opening := [] }

theorem nextNumbers_succ (s : Store) (n : Nat) :
    s.nextNumbers n ++ [s.connections.length + n] = s.nextNumbers (n + 1) := by
  unfold nextNumbers
  rw [List.range'_concat, Nat.one_mul]

/-- To change a connection is to put another one in its place. -/
theorem modify_eq_set {c : Nat} {k : Connection} (f : Connection → Connection)
    (hk : s.connection? c = some k) :
    s.modify c f = ⟨s.disk, s.connections.set c (f k), s.pool⟩ := by
  have hlist : s.connections.modify c f = s.connections.set c (f k) := by
    unfold connection? at hk
    apply List.ext_getElem?
    intro i
    rw [List.getElem?_modify, List.getElem?_set]
    by_cases hi : c = i
    · subst hi
      obtain ⟨hlt, rfl⟩ := List.getElem?_eq_some_iff.1 hk
      simp [hlt]
    · simp [hi]
  unfold modify
  rw [hlist]

/-- A connection that stays the same changes nothing. -/
theorem modify_eq_self {c : Nat} {k : Connection} (f : Connection → Connection)
    (hk : s.connection? c = some k) (hf : f k = k) : s.modify c f = s := by
  rw [modify_eq_set f hk, hf]
  unfold connection? at hk
  obtain ⟨hlt, rfl⟩ := List.getElem?_eq_some_iff.1 hk
  rw [List.set_getElem_self]

theorem connection?_duringOpening (disk : Disk) (k : Connection) (made : List Connection) :
    (s.duringOpening disk (k :: made)).connection? s.connections.length = some k := by
  simp [connection?, duringOpening]

/-- One more connection is made to the file that the address leads to. -/
theorem connect_duringOpening {path : String} {disk e : Disk} {a : Address} {p : Path} {file : Nat}
    (made : List Connection) (hlocation : s.pool.location = .file path)
    (haddress : (Location.file path).address = .ok a) (hshared : a.isPrivate = false)
    (hopen : disk.openFile a = .ok (e, p, file)) :
    (s.duringOpening disk made).connect =
      .ok (⟨e, s.connections ++ (made ++ [.new file (some p) a.mayWrite]),
          (s.duringOpening disk made).pool⟩, s.connections.length + made.length) := by
  have hl : (s.duringOpening disk made).pool.location = .file path := hlocation
  unfold connect
  rw [hl, haddress]
  simp only [hshared, Bool.false_eq_true, if_false, show (s.duringOpening disk made).disk = disk
    from rfl, hopen, addConnection]
  simp [duringOpening]

end Store

/-! ### The steps of an opening -/

/-- The note that a connection of the pool has been opened. -/
def openedNote (size : Int) (n : Nat) : Log.Note :=
  Visit.note .debug ("Opened connection " ++ toString n ++ "/" ++ toString size)

/-- The note that a pool is open. -/
def initializedNote (size : Int) : Log.Note :=
  Visit.note .info ("Database connection pool initialized with size " ++ toString size)

namespace Visit

variable {P : Purpose} {s : Store}

/-- The last connection opens the pool. -/
theorem countIn_last (disk : Disk) (made : List Connection) (k : Connection)
    (notes : List Log.Note) (hsize : s.pool.size = (made.length + 1 : Nat)) :
    countIn P (s.duringOpening disk (made ++ [k])) (s.nextNumbers made.length)
        (s.connections.length + made.length) notes =
      ⟨s.opened disk (made ++ [k]), notes ++ [openedNote s.pool.size (made.length + 1)] ++
        [initializedNote s.pool.size], arrival P s.pool.queues.length⟩ := by
  have hcomplete : isComplete (s.duringOpening disk (made ++ [k]))
      (s.nextNumbers (made.length + 1)) = true := by
    simp [isComplete, Store.duringOpening, Store.nextNumbers, hsize]
  have hlength : (s.nextNumbers (made.length + 1)).length = made.length + 1 :=
    List.length_range'
  have hlast : (made ++ [k]).length = made.length + 1 := List.length_append
  unfold countIn
  rw [Store.nextNumbers_succ]
  simp only [hcomplete, if_true, hlength]
  unfold finishOpening
  cases P <;>
    simp [withOpenPool, arrival, goOn, Store.duringOpening, Store.opened, Store.withPool,
      Pool.install, Pool.leave, openedNote, initializedNote]

/-- Another connection is to be followed by more. -/
theorem countIn_more (disk : Disk) (made : List Connection) (k : Connection)
    (notes : List Log.Note) (hsize : ((made.length + 1 : Nat) : Int) < s.pool.size) :
    countIn P (s.duringOpening disk (made ++ [k])) (s.nextNumbers made.length)
        (s.connections.length + made.length) notes =
      ⟨s.duringOpening disk (made ++ [k]), notes ++ [openedNote s.pool.size (made.length + 1)],
        .going (.connecting (s.nextNumbers (made.length + 1)))⟩ := by
  have hlength : (s.nextNumbers (made.length + 1)).length = made.length + 1 :=
    List.length_range'
  have hcomplete : isComplete (s.duringOpening disk (made ++ [k]))
      (s.nextNumbers (made.length + 1)) = false := by
    rw [isComplete, hlength]
    exact decide_eq_false (Int.not_le.2 hsize)
  unfold countIn
  rw [Store.nextNumbers_succ]
  simp only [hcomplete, Bool.false_eq_true, if_false, hlength]
  rfl

/-- The next connection is tracked. The database is set up on the first one, and the others are
ready. -/
theorem connectNext_duringOpening {path : String} {disk e : Disk} {a : Address} {p : Path}
    {file : Nat} (made : List Connection) (numbers : List Nat)
    (hlocation : s.pool.location = .file path)
    (haddress : (Location.file path).address = .ok a) (hshared : a.isPrivate = false)
    (hopen : disk.openFile a = .ok (e, p, file)) :
    connectNext P (s.duringOpening disk made) numbers =
      match numbers with
      | [] => goOn (s.duringOpening e (made ++ [.new file (some p) a.mayWrite]))
          (.preparing (s.connections.length + made.length)) []
      | _ => countIn P (s.duringOpening e (made ++ [.new file (some p) a.mayWrite])) numbers
          (s.connections.length + made.length) [] := by
  have hlength : (made ++ [Connection.new file (some p) a.mayWrite]).length = made.length + 1 :=
    List.length_append
  have htracked : s.duringOpening e (made ++ [.new file (some p) a.mayWrite]) =
      ⟨e, s.connections ++ (made ++ [.new file (some p) a.mayWrite]),
        { (s.duringOpening disk made).pool with
          tracked := (s.duringOpening disk made).pool.tracked ++
            [s.connections.length + made.length] }⟩ := by
    simp only [Store.duringOpening, Store.nextNumbers_succ, hlength]
  rw [htracked, connectNext, Store.connect_duringOpening made hlocation haddress hshared hopen]
  rfl

/-! ### Setting up the database -/

/-- **One connection after the other** is made until there are as many as the pool has places. -/
theorem runs_countIn {path : String} {disk : Disk} {a : Address} {p : Path} {file : Nat}
    (hlocation : s.pool.location = .file path)
    (haddress : (Location.file path).address = .ok a) (hshared : a.isPrivate = false)
    (hopen : disk.openFile a = .ok (disk, p, file)) {left : Nat} {made : List Connection}
    {k : Connection} {notes : List Log.Note} {t : Store} {phase : Phase P.Answer}
    (hsize : s.pool.size = (made.length + 1 + left : Nat))
    (hstep : go 0 P t phase = some (countIn P (s.duringOpening disk (made ++ [k]))
      (s.nextNumbers made.length) (s.connections.length + made.length) notes)) :
    Runs P (left + 1) t (.going phase)
      (notes ++ (List.range' (made.length + 1) (left + 1)).map (openedNote s.pool.size) ++
        [initializedNote s.pool.size])
      (s.opened disk (made ++ k :: List.replicate left (.new file (some p) a.mayWrite)))
      (arrival P s.pool.queues.length) := by
  induction left generalizing made k notes t phase with
  | zero =>
    rw [countIn_last disk made k notes hsize] at hstep
    exact .one hstep
  | succ left ih =>
    rw [countIn_more disk made k notes (by omega)] at hstep
    have hlength : (made ++ [k]).length = made.length + 1 := List.length_append
    have hnumbers : s.nextNumbers (made.length + 1) =
        s.connections.length :: List.range' (s.connections.length + 1) made.length :=
      List.range'_succ
    have hnext : go 0 P (s.duringOpening disk (made ++ [k]))
        (.connecting (s.nextNumbers (made.length + 1))) =
          some (countIn P
            (s.duringOpening disk ((made ++ [k]) ++ [.new file (some p) a.mayWrite]))
            (s.nextNumbers (made ++ [k]).length) (s.connections.length + (made ++ [k]).length)
            []) := by
      rw [go, connectNext_duringOpening _ _ hlocation haddress hshared hopen, hlength, hnumbers]
    have hrest := ih (by rw [hsize, hlength]; omega) hnext
    rw [hlength, List.append_assoc] at hrest
    have hall := Runs.go hstep hrest
    rw [List.range'_succ, List.map_cons]
    simp only [List.append_assoc, List.nil_append, List.cons_append] at hall ⊢
    exact hall

/-- A connection that has set up a database, or has found it set up. -/
def setUpOn (k : Connection) (d : Database) : Connection :=
  if setUpWrites d.version then { k with shape := some d.setUp.shape, prepared := [.setUp] } else k

/-- Setting up a database changes no more of a connection than what it remembers. -/
@[simp] theorem core_setUpOn (k : Connection) (d : Database) : (setUpOn k d).core = k.core := by
  unfold setUpOn
  split <;> rfl

theorem setUp_of_not_writes {d : Database} (h : setUpWrites d.version = false) : d.setUp = d := by
  refine Database.setUp_upToDate d ?_
  have := of_decide_eq_false h
  omega

/-- A new connection tells the version of its database, and nothing changes. -/
theorem ask_version_new {t : Store} {c file : Nat} {p : Option Path} {d : Database}
    (hk : t.connection? c = some (.new file p true)) (hd : t.disk.content file = d)
    (hnative : t.disk.isForeign file = false) (hfree : t.disk.hold? file = none) :
    t.ask c .version (.ok ()) (fun d => .ok d.version) = (t, .ok d.version) := by
  have hready : t.ready c .version (.ok ()) = (t, .ok (.new file p true)) := by
    have hself := Store.modify_eq_self (fun _ => Connection.new file p true) hk rfl
    simp only [Store.ready, hk, Connection.new, Bool.not_true, Bool.false_eq_true, if_false,
      Connection.prepare, Statement.needsShape, Bool.not_false, Bool.or_true, if_true]
    exact congrArg (·, _) hself
  have hread : t.readable (.new file p true) = .ok d := by
    simp [Store.readable, Store.content, Connection.new, hnative, hfree, hd]
  simp only [Store.ask, hready, hread]
  exact congrArg (·, _) (Store.modify_eq_self _ hk rfl)

/-- A new connection sets up its database. -/
theorem alter_setUp_new {t : Store} {c file : Nat} {p : Option Path} {d : Database}
    (hk : t.connection? c = some (.new file p true)) (hd : t.disk.content file = d)
    (hnative : t.disk.isForeign file = false) (hfree : t.disk.hold? file = none)
    (hclear : t.obstacle? (.new file p true) = none) :
    ∃ u, t.alter c .setUp (.ok ()) (fun d => .ok d.setUp) = (u, .ok d.setUp) ∧
      u.write c d.setUp = ⟨t.disk.setContent file d.setUp,
        t.connections.set c
          { Connection.new file p true with
            shape := some d.setUp.shape, prepared := [.setUp] }, t.pool⟩ := by
  let judged : Connection :=
    { Connection.new file p true with shape := some d.shape, prepared := [.setUp] }
  let u : Store := ⟨t.disk, t.connections.set c judged, t.pool⟩
  have hread : t.readable (.new file p true) = .ok d := by
    simp [Store.readable, Store.content, Connection.new, hnative, hfree, hd]
  have hready : t.ready c .setUp (.ok ()) = (u, .ok judged) := by
    rw [show u = t.modify c fun _ => judged from
      (Store.modify_eq_set (fun _ => judged) hk).symm]
    simp only [Store.ready, hk, hread]
    rfl
  have hjudged : u.connection? c = some judged := by
    obtain ⟨hlt, -⟩ := List.getElem?_eq_some_iff.1 hk
    exact List.getElem?_set_self hlt
  have hwrite : u.writable judged = .ok d := by
    simp [Store.writable, Store.content, u, judged, Connection.new, hnative, hfree, hd]
  have hlearn : u.learn c .setUp d = u := Store.modify_eq_self _ hjudged rfl
  have hclear' : u.obstacle? judged = none :=
    (Store.obstacle?_of_core rfl rfl).trans hclear
  refine ⟨u, ?_, ?_⟩
  · simp only [Store.alter, hready, hwrite, hlearn, hclear']
  · rw [Store.write, hjudged]
    simp only [Store.modify_eq_set _ hjudged]
    simp [u, judged, Connection.new]

/-- The database is set up on a new connection. -/
theorem prepare_new {t : Store} {c file : Nat} {p : Option Path} {d : Database}
    (hk : t.connection? c = some (.new file p true)) (hd : t.disk.content file = d)
    (hnative : t.disk.isForeign file = false) (hfree : t.disk.hold? file = none)
    (hclear : t.obstacle? (.new file p true) = none) (hbusy : t.isBusy c = false) :
    prepare P t c = some (countIn P
      ⟨t.disk.setContent file d.setUp,
        t.connections.set c (setUpOn (.new file p true) d), t.pool⟩ [] c
      ((setUpNotes t d.version).1 ++ (setUpNotes t d.version).2)) := by
  rw [prepare, ask_version_new hk hd hnative hfree]
  cases hwrites : setUpWrites d.version with
  | false =>
    have hcontent : t.disk.setContent file d.setUp = t.disk := by
      rw [setUp_of_not_writes hwrites, ← hd]
      exact Disk.setContent_content ..
    have hset : t.connections.set c (setUpOn (.new file p true) d) = t.connections := by
      obtain ⟨hlt, hget⟩ := List.getElem?_eq_some_iff.1 hk
      rw [setUpOn, hwrites, if_neg Bool.false_ne_true, ← hget]
      exact List.set_getElem_self hlt
    rw [hcontent, hset]
    simp [hwrites]
  | true =>
    obtain ⟨u, halter, hwrite⟩ := alter_setUp_new hk hd hnative hfree hclear
    simp only [hwrites, hbusy, halter, hwrite, setUpOn, if_true, Bool.not_true, Bool.false_eq_true,
      if_false]

/-! ### The whole opening -/

/-- What is noted while a pool is opened on a database. -/
def openingNotes (s : Store) (d : Database) : List Log.Note :=
  (setUpNotes s d.version).1 ++ (setUpNotes s d.version).2 ++
    (List.range' 1 s.pool.size.toNat).map (openedNote s.pool.size) ++
    [initializedNote s.pool.size]

/-- The connections of a pool that has been opened on a database. -/
def openingConnections (n file : Nat) (p : Path) (d : Database) : List Connection :=
  setUpOn (.new file (some p) true) d :: List.replicate n (.new file (some p) true)

end Visit

/-- A store whose pool is closed and in nobody's hands. -/
structure Store.IsClosed (s : Store) : Prop where
  current : s.pool.current = none
  opening : s.pool.opening = []
  tracked : s.pool.tracked = []
  drafts : ∀ c k, s.connection? c = some k → k.draft = none

/-- A store whose pool on a file is closed and in nobody's hands. -/
structure Store.IsClosedOn (s : Store) (path : String) : Prop extends s.IsClosed where
  location : s.pool.location = .file path

/-- No transaction keeps the first connection out. -/
theorem Store.IsClosed.isBusy_duringOpening {s : Store} (hs : s.IsClosed) (disk : Disk)
    (k : Connection) : (s.duringOpening disk [k]).isBusy s.connections.length = false := by
  rw [isBusy_eq_false_iff (connection?_duringOpening ..)]
  intro i other hi hne _
  have hlt : i < s.connections.length := by
    obtain ⟨hlt, -⟩ := List.getElem?_eq_some_iff.1 hi
    simp only [duringOpening, List.length_append, List.length_singleton] at hlt
    omega
  refine hs.drafts i other ?_
  rw [← hi]
  exact (List.getElem?_append_left hlt).symm

namespace Visit

variable {P : Purpose} {s : Store} {n : Nat} {path : String} {made found : Disk} {a : Address}
  {p : Path} {file : Nat}

/-- A visit that has a closed pool to itself begins to open it. -/
theorem go_entering_closed (hs : s.IsClosed) :
    go 0 P s .entering = some (beginOpening P (s.duringOpening s.disk [])) := by
  have hjoined : s.withPool (s.pool.join 0) = s.duringOpening s.disk [] := by
    simp [Store.duringOpening, Store.withPool, Pool.join, Store.nextNumbers, hs.opening,
      hs.tracked]
  simp only [go, enter, hs.current, hs.opening, List.isEmpty_nil, if_true, hjoined]

/-- The directory is made before anything else. -/
theorem makeDirectory_duringOpening (hs : s.IsClosedOn path)
    (hadmits : Admits path s.disk made found a p file) :
    makeDirectory (s.duringOpening s.disk []) = (s.duringOpening made [], .ok ()) := by
  have hlocation : (s.duringOpening s.disk []).pool.location = .file path := hs.location
  have hmade : (s.duringOpening s.disk []).disk.makeDirectories (Route.ofText path).parent =
      (made, .ok ()) := hadmits.directory
  simp only [makeDirectory, directory?, hlocation, hadmits.hasZero_parent, hmade,
    Bool.false_eq_true, if_false]
  rfl

/-- The database is set up on the first connection. -/
theorem go_preparing_first (hs : s.IsClosed) {disk : Disk} {p : Option Path} {d : Database}
    (hd : disk.content file = d) (hnative : disk.isForeign file = false)
    (hfree : disk.hold? file = none)
    (hclear : (s.duringOpening disk [.new file p true]).obstacle? (.new file p true) = none) :
    go 0 P (s.duringOpening disk [.new file p true]) (.preparing s.connections.length) =
      some (countIn P
        (s.duringOpening (disk.setContent file d.setUp) [setUpOn (.new file p true) d])
        (s.nextNumbers 0) (s.connections.length + 0)
        ((setUpNotes s d.version).1 ++ (setUpNotes s d.version).2)) := by
  have hset : (s.connections ++ [Connection.new file p true]).set s.connections.length
      (setUpOn (.new file p true) d) = s.connections ++ [setUpOn (.new file p true) d] := by simp
  rw [go, prepare_new (Store.connection?_duringOpening ..) hd hnative hfree hclear
    (hs.isBusy_duringOpening ..)]
  simp only [Store.duringOpening, hset]
  rfl

/-- **A pool without places opens without a connection**, and nothing is done but to make the
directory. -/
theorem runs_opening_empty (hs : s.IsClosedOn path)
    (hadmits : Admits path s.disk made found a p file) (hsize : s.pool.size ≤ 0) :
    Runs P 1 s (.going .entering) [initializedNote s.pool.size] (s.opened made [])
      (arrival P s.pool.queues.length) := by
  have hcomplete : isComplete (s.duringOpening made []) [] = true := decide_eq_true hsize
  refine .one ?_
  rw [go_entering_closed hs.toIsClosed, beginOpening, makeDirectory_duringOpening hs hadmits]
  simp only [hcomplete, if_true]
  unfold finishOpening
  cases P <;>
    simp [withOpenPool, arrival, goOn, Store.duringOpening, Store.opened, Store.withPool,
      Pool.install, Pool.leave, initializedNote, Store.nextNumbers]

/-- **A visit that has a closed pool to itself opens it.** -/
theorem runs_opening (hs : s.IsClosedOn path) (hadmits : Admits path s.disk made found a p file)
    (hsize : s.pool.size = (n + 1 : Nat)) :
    Runs P (n + 3) s (.going .entering) (openingNotes s (databaseAt s.disk path))
      (s.opened (found.setContent file (databaseAt s.disk path).setUp)
        (openingConnections n file p (databaseAt s.disk path)))
      (arrival P s.pool.queues.length) := by
  rw [← hadmits.content]
  obtain ⟨d, hd⟩ : ∃ d, found.content file = d := ⟨_, rfl⟩
  rw [hd]
  have hfew : isComplete (s.duringOpening made []) [] = false :=
    decide_eq_false (by simp only [Store.duringOpening, List.length_nil]; omega)
  have henter : go 0 P s .entering =
      some ⟨s.duringOpening made [], [], .going (.connecting [])⟩ := by
    rw [go_entering_closed hs.toIsClosed, beginOpening, makeDirectory_duringOpening hs hadmits]
    simp only [hfew, Bool.false_eq_true, if_false]
    rfl
  have hconnect : go 0 P (s.duringOpening made []) (.connecting []) =
      some ⟨s.duringOpening found [.new file (some p) true], [],
        .going (.preparing s.connections.length)⟩ := by
    rw [go, connectNext_duringOpening [] [] hs.location hadmits.address hadmits.shared
      hadmits.opens, hadmits.mayWrite]
    rfl
  have hprepare := go_preparing_first (P := P) hs.toIsClosed hd hadmits.native hadmits.free
    (hadmits.obstacle? rfl rfl rfl)
  have hplaces : s.pool.size = (([] : List Connection).length + 1 + n : Nat) := by
    rw [hsize, List.length_nil, Nat.zero_add, Nat.add_comm]
  have hrest := runs_countIn hs.location hadmits.address hadmits.shared
    (hadmits.setContent d.setUp).opens hplaces hprepare
  have hall := Runs.go henter (.go hconnect hrest)
  have htotal : s.pool.size.toNat = n + 1 := by omega
  rw [hadmits.mayWrite] at hall
  simp only [List.nil_append, List.length_nil, Nat.zero_add] at hall
  rw [openingNotes, htotal]
  exact hall

/-- **A pool in memory opens** with a database of its own, which is set up. -/
theorem runs_opening_memory (hs : s.IsClosed) (hlocation : s.pool.location = .memory)
    (hsize : s.pool.size = 1) :
    ∃ notes, Runs P 3 s (.going .entering) notes
      (s.opened ((s.disk.addFile .empty).1.setContent s.disk.files.length Database.empty.setUp)
        [setUpOn (.new s.disk.files.length none true) .empty])
      (arrival P s.pool.queues.length) := by
  let file := s.disk.files.length
  let made := (s.disk.addFile .empty).1
  have hmemory : (s.duringOpening s.disk []).pool.location = .memory := hlocation
  have hfew : isComplete (s.duringOpening s.disk []) [] = false :=
    decide_eq_false (by simp only [Store.duringOpening, hsize, List.length_nil]; omega)
  have henter : go 0 P s .entering =
      some ⟨s.duringOpening s.disk [], [], .going (.connecting [])⟩ := by
    simp only [go_entering_closed hs, beginOpening, makeDirectory, hmemory, directory?, hfew,
      Bool.false_eq_true, if_false]
    rfl
  have hconnect : go 0 P (s.duringOpening s.disk []) (.connecting []) =
      some ⟨s.duringOpening made [.new file none true], [],
        .going (.preparing s.connections.length)⟩ := by
    simp only [go, connectNext, Store.connect, hmemory, Location.address_memory,
      Address.isPrivate_ofPath_memory, if_true]
    simp [Store.duringOpening, Store.addConnection, Store.withPool, Store.nextNumbers, goOn,
      made, file, Disk.addFile]
    rfl
  have hfiles : made.files[file]? = some ⟨.empty, none, false⟩ := by
    simp [made, file, Disk.addFile]
  have hcontent : made.content file = .empty := by simp [Disk.content, hfiles]
  have hnative : made.isForeign file = false := by simp [Disk.isForeign, hfiles]
  have hfree : made.hold? file = none := by simp [Disk.hold?, hfiles]
  have hclear : (s.duringOpening made [.new file none true]).obstacle? (.new file none true) =
      none := by
    simp [Store.obstacle?, Store.isMoved, Connection.new]
  have hprepare := go_preparing_first (P := P) hs hcontent hnative hfree hclear
  have hlast := hprepare.trans (congrArg some (countIn_last _ [] _ _ (by rw [hsize]; rfl)))
  exact ⟨_, .go henter (.go hconnect (.one hlast))⟩

/-! ### Counting -/

/-- Below the current version the table is made if it is not there. -/
theorem exists_table_of_writes {d : Database} (h : setUpWrites d.version = true) :
    ∃ t, d.setUp.table = some t ∧ t = d.table.getD .empty := by
  have hlt : d.version < Database.currentVersion := of_decide_eq_true h
  have hlt1 : d.version < 1 := hlt
  by_cases h0 : d.version = 0
  · simp [Database.setUp, Database.setUpFor, h0, Database.withTable]
  · simp [Database.setUp, Database.setUpFor, h0, hlt1, Database.withTable, Database.currentVersion]

/-- Nothing was written to a database that has no table after it. -/
theorem setUpWrites_of_none {d : Database} (h : d.setUp.table = none) :
    setUpWrites d.version = false := by
  cases hwrites : setUpWrites d.version with
  | false => rfl
  | true =>
    obtain ⟨t, ht, -⟩ := exists_table_of_writes hwrites
    rw [h] at ht
    cases ht

/-- **The first connection counts the rows** of the database that has been set up, and without a
table it fails. -/
theorem ask_count_opened {t : Store} {c : Nat} {d : Database}
    (hk : t.connection? c = some (setUpOn (.new file (some p) true) d))
    (hd : t.disk.content file = d.setUp) (hnative : t.disk.isForeign file = false)
    (hfree : t.disk.hold? file = none) :
    (t.ask c .count (.ok ()) Database.count).2 = d.setUp.count := by
  have hread : t.readable (setUpOn (.new file (some p) true) d) = .ok d.setUp := by
    rw [Store.readable_of_core (core_setUpOn _ d)]
    simp [Store.readable, Store.content, Connection.new, hnative, hfree, hd]
  have hopen : (setUpOn (.new file (some p) true) d).isOpen = true :=
    ((Store.core_eq_iff ..).1 (core_setUpOn _ d)).2.2.2.1
  cases htable : d.setUp.table with
  | some table =>
    have hshape : d.setUp.shape = some table.triggers := by rw [Database.shape, htable]; rfl
    have hcount : d.setUp.count = .ok table.rows.length := by simp [Database.count, htable]
    rw [hcount]
    exact Store.ask_eq_ok needsTable_count hk hopen hread hshape hcount
  | none =>
    -- Nothing was written, and the connection knows nothing yet.
    have hnew : setUpOn (.new file (some p) true) d = .new file (some p) true := by
      rw [setUpOn, setUpWrites_of_none htable, if_neg Bool.false_ne_true]
    rw [hnew] at hk hread
    have hshape : d.setUp.shape = none := by rw [Database.shape, htable]; rfl
    have hcount : d.setUp.count = .error .noTable := by simp [Database.count, htable]
    have hready : (t.ready c .count (.ok ())).2 = .error .noTable := by
      simp only [Store.ready, hk, hread, Except.map, hshape]
      rfl
    rw [hcount, Store.ask]
    rcases hprepared : t.ready c .count (.ok ()) with ⟨u, r⟩
    rw [hprepared] at hready
    cases hready
    rfl

end Visit

end CharacterLedger.Storage
