import CharacterLedger.Bootstrap
import CharacterLedger.Proofs.Ledger.PoolCalls

/-!
# What a start does to its database

A start with settings that can be read opens the database at their path, counts the characters and
closes the database.  Where the path can be had, and nothing else is going on, that comes to one
function of the database that was there: below the current version the table is made if it is
missing and the version is raised, from the current version on nothing is done, and the start fails
if there is no table then.  The rows stay whatever they are, also those that are no records.

* `startNotes` — what a start notes;
* `startWith_eq` — the whole outcome of a start;
* `sets_up_database` — when a start succeeds, what it makes of the database, and what the next one
  does.
-/

namespace CharacterLedger

namespace Bootstrap

open CharacterLedger.Ledger CharacterLedger.Storage CharacterLedger.Table

/-! ### The notes of a start -/

/-- Entries of the log under no trace number. -/
def entries (notes : List Log.Note) : List Log.Entry := notes.map fun n => ⟨none, n⟩

/-- The note about the characters, or about why there is no number of them. -/
def countNote (asScript : Bool) (path : String) (d : Database) : Log.Note :=
  match d.count with
  | .ok n => readyNote asScript path n
  | .error f => storeNote ("Failed to count characters: " ++ f.message)

/-- The store that a start finds. -/
def freshStore (disk : Disk) (s : Settings) : Store :=
  ⟨disk, [], .make (Location.ofText s.database.path) s.database.poolSize⟩

/-- The notes of a start on a database: the pool is opened, which sets up the database, a connection
is borrowed, the characters are counted, and the pool is closed. -/
def startNotes (asScript : Bool) (disk : Disk) (s : Settings) (d : Database) : List Log.Note :=
  Visit.openingNotes (freshStore disk s) d ++ Visit.loanNotes ++
    [countNote asScript s.database.path d.setUp, closedNote]

/-- The note that there is nothing to set up. -/
def upToDateNote (version : Int) : Log.Note :=
  Visit.note .info ("Database schema is up-to-date (version " ++ toString version ++ ")")

/-! ### Setting up and counting -/

/-- Whether there is a table once a database has been set up. -/
theorem isSome_table_setUp (d : Database) :
    d.setUp.table.isSome = true ↔ d.version < 1 ∨ d.table.isSome = true := by
  cases hwrites : Visit.setUpWrites d.version with
  | true =>
    obtain ⟨t, ht, -⟩ := Visit.exists_table_of_writes hwrites
    have hlt : d.version < 1 := of_decide_eq_true hwrites
    simp [ht, hlt]
  | false =>
    have hge : ¬ d.version < 1 := of_decide_eq_false hwrites
    rw [Visit.setUp_of_not_writes hwrites]
    simp [hge]

/-- There is nothing left to set up once a database has been set up. -/
theorem setUpFor_setUp (d : Database) : Database.setUpFor d.setUp.version = .upToDate := by
  have hversion := d.version_setUp
  have hge : 1 ≤ d.setUp.version := by
    rw [hversion]
    exact Int.le_max_right _ _
  have h0 : d.setUp.version ≠ 0 := by omega
  have h1 : ¬ d.setUp.version < Database.currentVersion := by
    rw [Database.currentVersion]
    omega
  rw [Database.setUpFor, if_neg h0, if_neg h1]

/-- To set up a database again changes nothing. -/
@[simp] theorem setUp_setUp (d : Database) : d.setUp.setUp = d.setUp := by
  rw [Database.setUp, setUpFor_setUp]

/-- The rows that there are once a database with a table, or without one, has been set up. -/
theorem rows_of_table_setUp {d : Database} {t : CharacterTable} (h : d.setUp.table = some t) :
    t.rows = d.rows := by
  rw [← Database.rows_setUp, Database.rows, h]

/-- What a start comes to on a database that has been set up. -/
def resultOn (d : Database) : Except Error Unit :=
  match d.count with
  | .ok _ => .ok ()
  | .error f => .error (.storage (.failed f))

theorem resultOn_eq_ok_iff (d : Database) : resultOn d = .ok () ↔ d.table.isSome = true := by
  unfold resultOn Database.count
  cases d.table <;> simp

theorem resultOn_of_none {d : Database} (h : d.table = none) :
    resultOn d = .error (.storage (.failed .noTable)) := by
  simp [resultOn, Database.count, h]

/-! ### The outcome of a start -/

section Outcome

variable {asScript : Bool} {s : Settings} {disk made found : Disk} {a : Address} {p : Path}
  {file : Nat} {w : World} {t : Store} {n : Nat} {d : Database}

/-- What carrying out a count comes to, and what is noted of it. -/
theorem countOn_of_runs (asScript : Bool) {u : Store} {m : Nat} (hm : m ≤ 5)
    (hruns : Visit.Runs (.borrow (.ask .count)) m w.store (.going .entering) Visit.loanNotes u
      (.ended (d.count.mapError .fault))) (path : String) :
    ∃ w', countOn asScript path w = (resultOn d, w') ∧
      w.Leaves none u (Visit.loanNotes ++ [countNote asScript path d]) w' := by
  obtain ⟨w', hcall, hleaves⟩ := callOn_of_runs (.borrow (.ask .count)) hruns rfl (by omega)
  unfold countOn
  rw [hcall]
  cases htable : d.table with
  | none =>
    have hcount : d.count = .error .noTable := by simp [Database.count, htable]
    rw [hcount] at hleaves
    rw [resultOn, countNote, hcount]
    exact ⟨w', rfl, hleaves⟩
  | some table =>
    have hcount : d.count = .ok table.rows.length := by simp [Database.count, htable]
    rw [hcount] at hleaves
    rw [resultOn, countNote, hcount]
    have hquiet : w.Leaves none u (Visit.loanNotes ++ []) w' := hleaves
    rw [List.append_nil] at hquiet
    exact ⟨_, rfl, hquiet.record _⟩

/-- The characters are counted on the first connection of a pool that has been opened. -/
theorem countOn_opened (asScript : Bool) {path : String}
    (hadmits : Admits path disk made found a p file)
    (hw : w.store =
      t.opened (found.setContent file d.setUp) (Visit.openingConnections n file p d)) :
    ∃ w' u, countOn asScript path w = (resultOn d.setUp, w') ∧
      w.Leaves none u (Visit.loanNotes ++ [countNote asScript path d.setUp]) w' ∧
      u.disk = w.store.disk ∧ u.pool.isOpen = true ∧ u.pool.size = w.store.pool.size ∧
      u.pool.tracked = w.store.pool.tracked := by
  have hadmits' := hadmits.setContent d.setUp
  have hcurrent : w.store.pool.current = some t.pool.queues.length := by rw [hw]; rfl
  have hqueue : w.store.pool.queue t.pool.queues.length =
      t.connections.length :: List.range' (t.connections.length + 1) n := by
    rw [hw]
    simp [Store.opened, Pool.queue, Store.nextNumbers, Visit.openingConnections, List.range'_succ]
  have hk : w.store.connection? t.connections.length =
      some (Visit.setUpOn (.new file (some p) true) d) := by
    rw [hw]
    simp [Store.opened, Store.connection?, Visit.openingConnections]
  have hopen : w.store.isOpen t.connections.length = true := by
    rw [Store.isOpen, hk]
    unfold Visit.setUpOn
    split <;> rfl
  have hdisk : w.store.disk = found.setContent file d.setUp := by rw [hw]; rfl
  let lent := w.store.withPool (w.store.pool.drop t.pool.queues.length)
  have hcount : (lent.ask t.connections.length .count (.ok ()) Database.count).2 =
      d.setUp.count := by
    refine Visit.ask_count_opened hk ?_ ?_ ?_
    · show w.store.disk.content file = d.setUp
      rw [hdisk]
      exact Disk.content_setContent_self _ _ _ hadmits.named
    · show w.store.disk.isForeign file = false
      rw [hdisk]
      exact hadmits'.native
    · show w.store.disk.hold? file = none
      rw [hdisk]
      exact hadmits'.free
  obtain ⟨halike, -⟩ := Store.ask_spec lent t.connections.length .count (.ok ()) Database.count
  rcases hask : lent.ask t.connections.length .count (.ok ()) Database.count with ⟨u, r⟩
  rw [hask] at hcount halike
  obtain rfl : r = d.setUp.count := hcount
  obtain ⟨l, hl, htake⟩ := Visit.runs_take (e := .ask .count) hqueue (.inr hopen)
  have hcounts : lent.ask t.connections.length Question.count.statement Question.count.bound
      Question.count.ask = (u, d.setUp.count) := hask
  obtain ⟨m, hm, hasks⟩ := Visit.runs_ask (q := t.pool.queues.length) hcounts
  have hruns := Visit.Runs.go (Visit.go_entering hcurrent) (htake.trans hasks)
  obtain ⟨w', hcall, hleaves⟩ := countOn_of_runs asScript (by omega) hruns path
  refine ⟨w', _, hcall, hleaves, halike.disk, ?_, ?_, ?_⟩
  · show u.pool.current.isSome = true
    rw [halike.pool]
    show w.store.pool.current.isSome = true
    rw [hcurrent]
    rfl
  · show u.pool.size = _
    rw [halike.pool]
    rfl
  · show u.pool.tracked = _
    rw [halike.pool]
    rfl

/-- A start that has a store opens the database, counts the characters and closes the database. -/
theorem runOn_eq (asScript : Bool) {path : String} (hs : w.store.IsClosedOn path)
    (hadmits : Admits path w.store.disk made found a p file) (hsize : 1 ≤ w.store.pool.size) :
    ∃ w' u, runOn asScript path w = (resultOn (databaseAt w.store.disk path).setUp, w') ∧
      w.Leaves none u (Visit.openingNotes w.store (databaseAt w.store.disk path) ++
        (Visit.loanNotes ++ [countNote asScript path (databaseAt w.store.disk path).setUp]) ++
          [closedNote]) w' ∧
      u.disk = found.setContent file (databaseAt w.store.disk path).setUp := by
  obtain ⟨n, hn⟩ : ∃ n, w.store.pool.size = (n + 1 : Nat) :=
    ⟨w.store.pool.size.toNat - 1, by omega⟩
  obtain ⟨w₁, hopen, hleaves₁⟩ := callOn_openPool hs hadmits hn
  obtain ⟨w₂, u₂, hcount, hleaves₂, hdisk₂, hopen₂, hsize₂, htracked₂⟩ :=
    countOn_opened asScript hadmits hleaves₁.store
  have hfew : w₂.store.pool.tracked.length ≤
      w₂.store.pool.size.toNat + w₂.store.connections.length := by
    have hlength : w₁.store.pool.tracked.length = n + 1 := by
      rw [hleaves₁.store]
      simp [Store.opened, Store.nextNumbers, Visit.openingConnections]
    have hsame : w₁.store.pool.size = w.store.pool.size := by
      rw [hleaves₁.store]
      rfl
    rw [hleaves₂.store, htracked₂, hsize₂, hlength, hsame, hn]
    omega
  obtain ⟨w₃, u₃, hclose, hleaves₃, hshut⟩ := callOn_closePool (w := w₂)
    (by rw [hleaves₂.store]; exact hopen₂) hfew
  refine ⟨w₃, u₃, ?_, (hleaves₁.trans hleaves₂).trans hleaves₃, ?_⟩
  · unfold runOn
    rw [hopen]
    simp only [hcount, hclose]
  · rw [hshut.disk, hleaves₂.store, hdisk₂, hleaves₁.store]
    rfl

/-- **The whole outcome of a start** whose settings can be read. -/
theorem startWith_eq (asScript : Bool) {level : Nat} (hlevel : s.levelValue = .inl level)
    (hsize : 1 ≤ s.database.poolSize) (hadmits : Admits s.database.path disk made found a p file) :
    startWith asScript s disk =
      ⟨resultOn (databaseAt disk s.database.path).setUp,
        lines level (entries (startNotes asScript disk s (databaseAt disk s.database.path))),
        found.setContent file (databaseAt disk s.database.path).setUp⟩ := by
  let w := Session.world disk (Location.ofText s.database.path) s.database.poolSize (.ofSeed s.seed)
  have hlocation : w.store.pool = .make (.file s.database.path) s.database.poolSize :=
    congrArg (Pool.make · s.database.poolSize) hadmits.location
  have hs : w.store.IsClosedOn s.database.path := by
    refine ⟨⟨rfl, rfl, rfl, ?_⟩, by rw [hlocation]; rfl⟩
    intro c k hk
    cases hk
  have hpool : w.store.pool.size = s.database.poolSize := by rw [hlocation]; rfl
  obtain ⟨w', u, hrun, hleaves, hdisk⟩ :=
    runOn_eq asScript hs hadmits (by rw [hpool]; exact hsize)
  unfold startWith
  rw [hlevel]
  show (⟨(runOn asScript s.database.path w).1, lines level (runOn asScript s.database.path w).2.log,
    (runOn asScript s.database.path w).2.store.disk⟩ : Outcome) = _
  rw [hrun, hleaves.log, hleaves.store, hdisk]
  refine (Outcome.mk.injEq ..).mpr ⟨rfl, congrArg (lines level) ?_, rfl⟩
  show [] ++ entries _ = entries _
  rw [List.nil_append, startNotes, List.append_assoc, List.append_assoc, List.append_assoc]
  rfl

/-- After a start the file at the path has the database that was there, set up. -/
theorem databaseAt_startWith {level : Nat} (hlevel : s.levelValue = .inl level)
    (hsize : 1 ≤ s.database.poolSize) (hadmits : Admits s.database.path disk made found a p file) :
    databaseAt (startWith asScript s disk).disk s.database.path =
      (databaseAt disk s.database.path).setUp := by
  rw [startWith_eq asScript hlevel hsize hadmits, ← (hadmits.setContent _).content]
  exact Disk.content_setContent_self _ _ _ hadmits.named

/-- **A start after a start** comes to the same and changes nothing. -/
theorem startWith_startWith {level : Nat} (hlevel : s.levelValue = .inl level)
    (hsize : 1 ≤ s.database.poolSize) (hadmits : Admits s.database.path disk made found a p file) :
    let first := startWith asScript s disk
    startWith asScript s first.disk =
      ⟨first.result, lines level (entries (startNotes asScript first.disk s
        (databaseAt first.disk s.database.path))), first.disk⟩ := by
  intro first
  have hfirst : first = _ := startWith_eq asScript hlevel hsize hadmits
  have hafter : databaseAt first.disk s.database.path = (databaseAt disk s.database.path).setUp :=
    databaseAt_startWith hlevel hsize hadmits
  have hthere : Admits s.database.path first.disk first.disk first.disk a p file := by
    rw [hfirst]
    exact hadmits.setContent _
  have hsame : first.disk.setContent file (databaseAt first.disk s.database.path).setUp =
      first.disk := by
    rw [hafter, setUp_setUp, ← hafter, ← hthere.content]
    exact Disk.setContent_content ..
  rw [startWith_eq asScript hlevel hsize hthere, hsame, hafter, setUp_setUp, hfirst]

end Outcome

/-- **What a start makes of its database.**  It succeeds just if the version is below the current
one or there is a table.  Then there is a table with the rows that were there, the version is at
least the current one and no lower than it was, and the number of rows is reported.  If it fails,
it is for want of a table, and the database is as it was.  Another start comes to the same, changes
nothing and finds nothing to set up.  Where the settings cannot be read, or name an unknown log
level, nothing on the disk is touched. -/
theorem sets_up_database (asScript : Bool) {s : Settings} {level : Nat} {disk made found : Disk}
    {a : Address} {p : Path} {file : Nat} (hlevel : s.levelValue = .inl level)
    (hsize : 1 ≤ s.database.poolSize)
    (hadmits : Admits s.database.path disk made found a p file) :
    let path := s.database.path
    let first := startWith asScript s disk
    let second := startWith asScript s first.disk
    let before := databaseAt disk path
    let after := databaseAt first.disk path
    (first.result = .ok () ↔ before.version < 1 ∨ before.table.isSome = true) ∧
      (first.result = .ok () →
        (∃ t, after.table = some t ∧ t.rows = before.rows) ∧
        after.version = max before.version 1 ∧
        first.log = lines level (entries (Visit.openingNotes (freshStore disk s) before ++
          Visit.loanNotes ++ [readyNote asScript path before.rows.length, closedNote]))) ∧
      (first.result ≠ .ok () →
        first.result = .error (.storage (.failed .noTable)) ∧ after = before) ∧
      (second.result = first.result ∧ second.disk = first.disk ∧
        Database.setUpFor after.version = .upToDate ∧
        second.log = lines level (entries (startNotes asScript first.disk s after)) ∧
        (startNotes asScript first.disk s after).head? = some (upToDateNote after.version)) ∧
      (∀ disk' environment text e, Settings.ofProcess environment text = .error e →
        start asScript environment text disk' = ⟨.error e, [], disk'⟩) ∧
      ∀ disk' s' name, s'.levelValue = .inr name →
        startWith asScript s' disk' = ⟨.error (.unknownLevel name), [], disk'⟩ := by
  intro path first second before after
  have hfirst : first = ⟨resultOn before.setUp,
      lines level (entries (startNotes asScript disk s before)),
      found.setContent file before.setUp⟩ := startWith_eq asScript hlevel hsize hadmits
  have hsecond : second = ⟨first.result,
      lines level (entries (startNotes asScript first.disk s after)), first.disk⟩ :=
    startWith_startWith hlevel hsize hadmits
  have hafter : after = before.setUp := databaseAt_startWith hlevel hsize hadmits
  have hbranch : Database.setUpFor after.version = .upToDate := by
    rw [hafter]
    exact setUpFor_setUp before
  refine ⟨?_, ?_, ?_, ⟨by rw [hsecond], by rw [hsecond], hbranch, by rw [hsecond], ?_⟩, ?_, ?_⟩
  · rw [hfirst, resultOn_eq_ok_iff]
    exact isSome_table_setUp before
  · intro hok
    rw [hfirst, resultOn_eq_ok_iff, Option.isSome_iff_exists] at hok
    obtain ⟨t, ht⟩ := hok
    have hrows := rows_of_table_setUp ht
    have hnote : countNote asScript path before.setUp =
        readyNote asScript path before.rows.length := by
      simp [countNote, Database.count, ht, hrows]
    refine ⟨⟨t, by rw [hafter, ht], hrows⟩, by rw [hafter]; exact before.version_setUp, ?_⟩
    rw [hfirst, ← hnote]
    rfl
  · intro hfails
    rw [hfirst, Ne, resultOn_eq_ok_iff, Bool.not_eq_true, Option.isSome_eq_false_iff,
      Option.isNone_iff_eq_none] at hfails
    refine ⟨by rw [hfirst]; exact resultOn_of_none hfails, ?_⟩
    rw [hafter]
    exact Visit.setUp_of_not_writes (Visit.setUpWrites_of_none hfails)
  · rw [startNotes, Visit.openingNotes, Visit.setUpNotes, hbranch]
    rfl
  · intro disk' environment text e he
    rw [start, he]
  · intro disk' s' name hname
    rw [startWith, hname]

/-- A start on a database of an old version with a row that is no record. -/
theorem sets_up_database_of_old :
    let row : Row := ⟨"c", "u", .ofFn fun _ => .integer 9⟩
    let disk : Disk := ⟨[(["data"], .directory), (["data", "old.db"], .file 0)],
      [⟨⟨-3, some ⟨[row], []⟩⟩, none, false⟩]⟩
    let s : Settings := ⟨false, "info", ⟨"data/old.db", 2, .ofInt 30⟩, none⟩
    let first := startWith false s disk
    let after := databaseAt first.disk "data/old.db"
    first.result = .ok () ∧ (∃ t, after.table = some t ∧ t.rows = [row]) ∧ after.version = 1 ∧
      (startWith false s first.disk).disk = first.disk := by
  intro row disk s first after
  have hroute : (Route.ofText "data/old.db").parent = ⟨[], ["data"]⟩ := by decide +kernel
  have hadmits : Admits s.database.path disk disk disk (.ofPath "data/old.db")
      ["data", "old.db"] 0 :=
    .ofPlain (by rw [hroute]; rfl) (by decide +kernel) (by decide +kernel)
      (by decide +kernel) (Disk.openFile_eq_self_iff.2 ⟨by decide +kernel, by decide +kernel⟩)
      (by decide +kernel) (by decide +kernel) (by decide +kernel) (by decide +kernel)
  have hlevel : s.levelValue = .inl 20 := by decide +kernel
  have hbefore : databaseAt disk s.database.path = ⟨-3, some ⟨[row], []⟩⟩ := by
    rw [← hadmits.content]
    rfl
  obtain ⟨hok, hkept, -, ⟨-, hagain, -⟩, -⟩ :=
    sets_up_database false hlevel (by decide) hadmits
  rw [hbefore] at hok hkept
  have hfirst := hok.2 (.inl (by decide))
  obtain ⟨htable, hversion, -⟩ := hkept hfirst
  exact ⟨hfirst, htable, hversion, hagain⟩

end Bootstrap

end CharacterLedger
