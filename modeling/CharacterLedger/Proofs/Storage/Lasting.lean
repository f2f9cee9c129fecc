import CharacterLedger.Proofs.Storage.Opened

/-!
# Stores of which the file lasts

A pool on a file may be opened, closed and opened again, and its connections may be closed behind
its back.  Whoever then comes for a connection gets one that leads to the file, after the pool has
been opened or the connection replaced if need be, and what is in the file stays as it is.

* `Store.OpenOn` — an open pool, whose connections at hand all lead to the file;
* `OpenOn.alike`, `OpenOn.put`, `OpenOn.write`, `OpenOn.close` — what such a store goes through;
* `OpenOn.takes` — a visit gets a connection, which is replaced first if it has been closed;
* `Store.VacantOn` — an open pool that has no places, where a visit waits in vain;
* `Store.Lasts` — a store whose pool is closed or open, with what is in its file;
* `Lasts.enters`, `Lasts.lends`, `Lasts.denies` — the visits that come to such a store.
-/

namespace CharacterLedger.Storage

open CharacterLedger.Table

/-- A database that has its table and the current version. -/
structure IsReady (d : Database) : Prop where
  version : Database.currentVersion ≤ d.version
  table : d.table.isSome = true

theorem IsReady.setUp {d : Database} (h : IsReady d) : d.setUp = d :=
  Database.setUp_upToDate d h.version

/-- Setting up a database makes it ready if there is a table after it. -/
theorem isReady_setUp {d : Database} (h : d.setUp.table.isSome = true) : IsReady d.setUp :=
  ⟨by rw [d.version_setUp]; exact Int.le_max_right .., h⟩

/-- A connection to the file at a path, which may have been closed. -/
structure Connection.LeadsTo (k : Connection) (file : Nat) (p : Path) : Prop where
  file : k.file = file
  path : k.path = some p
  mayWrite : k.mayWrite = true

theorem Connection.LeadsTo.of_core {k k' : Connection} {file : Nat} {p : Path}
    (h : k.LeadsTo file p) (hcore : k'.core = k.core) : k'.LeadsTo file p := by
  obtain ⟨hfile, hpath, hwrite, -⟩ := (Store.core_eq_iff k' k).1 hcore
  exact ⟨hfile.trans h.file, hpath.trans h.path, hwrite.trans h.mayWrite⟩

namespace Store

variable {s t : Store} {path : String} {a : Address} {p : Path} {file q c : Nat} {d e : Database}
  {k : Connection}

/-! ### Open pools -/

/-- A store whose pool is open on a file with this database. The connections at hand lead to the
file. -/
structure OpenOn (s : Store) (path : String) (a : Address) (p : Path) (file q : Nat)
    (d : Database) : Prop where
  location : s.pool.location = .file path
  current : s.pool.current = some q
  opening : s.pool.opening = []
  installed : q < s.pool.queues.length
  few : s.pool.tracked.length ≤ s.connections.length
  drafts : ∀ c k, s.connection? c = some k → k.draft = none
  there : Admits path s.disk s.disk s.disk a p file
  content : s.disk.content file = d
  led : ∀ c, c ∈ s.pool.queue q → ∃ k, s.connection? c = some k ∧ k.LeadsTo file p

namespace OpenOn

/-- What connections remember does not matter. -/
theorem alike (h : s.OpenOn path a p file q d) (halike : Alike s t) :
    t.OpenOn path a p file q d where
  location := by rw [halike.pool]; exact h.location
  current := by rw [halike.pool]; exact h.current
  opening := by rw [halike.pool]; exact h.opening
  installed := by rw [halike.pool]; exact h.installed
  few := by rw [halike.pool, halike.length]; exact h.few
  drafts := by
    intro c k hk
    obtain ⟨k₀, hk₀, hcore⟩ := halike.exists_connection? hk
    exact ((core_eq_iff k k₀).1 hcore).2.2.2.2.trans (h.drafts c k₀ hk₀)
  there := by rw [halike.disk]; exact h.there
  content := by rw [halike.disk]; exact h.content
  led := by
    intro c hc
    rw [halike.pool] at hc
    obtain ⟨k, hk, hleads⟩ := h.led c hc
    obtain ⟨k', hk', hcore⟩ := halike.symm.exists_connection? hk
    exact ⟨k', hk', hleads.of_core hcore.symm⟩

/-- A connection is taken from the queue. -/
theorem drop (h : s.OpenOn path a p file q d) :
    (s.withPool (s.pool.drop q)).OpenOn path a p file q d :=
  { h with
    installed := by simpa [withPool] using h.installed
    led := by
      intro c hc
      have hmem : c ∈ (s.pool.drop q).queue q := hc
      rw [Pool.queue_drop_self] at hmem
      exact h.led c (List.mem_of_mem_tail hmem) }

/-- A connection is given back. -/
theorem put (h : s.OpenOn path a p file q d) (hk : s.connection? c = some k)
    (hleads : k.LeadsTo file p) :
    (s.withPool (s.pool.put q c)).OpenOn path a p file q d ∧
      (s.withPool (s.pool.put q c)).pool.queue q ≠ [] := by
  have hqueue : (s.pool.put q c).queue q = s.pool.queue q ++ [c] :=
    Pool.queue_put_self _ c h.installed
  refine ⟨{ h with installed := ?_, led := ?_ }, ?_⟩
  · simpa [withPool] using h.installed
  · intro c' hc'
    have hmem : c' ∈ (s.pool.put q c).queue q := hc'
    rw [hqueue, List.mem_append, List.mem_singleton] at hmem
    obtain hmem | rfl := hmem
    · exact h.led c' hmem
    · exact ⟨k, hk, hleads⟩
  · show (s.pool.put q c).queue q ≠ []
    rw [hqueue]
    exact List.append_ne_nil_of_right_ne_nil _ (List.cons_ne_nil c [])

/-- Another database is written to the file. -/
theorem write (h : s.OpenOn path a p file q d) (e : Database) :
    ({ s with disk := s.disk.setContent file e } : Store).OpenOn path a p file q e :=
  { h with
    there := h.there.setContent e
    content := Disk.content_setContent_self _ _ _ h.there.named }

/-- A connection is closed behind the back of the pool. -/
theorem close (h : s.OpenOn path a p file q d) (c : Nat) : (s.close c).OpenOn path a p file q d :=
  { h with
    few := by rw [length_close]; exact h.few
    drafts := drafts_close h.drafts c
    led := by
      intro i hi
      obtain ⟨k, hk, hleads⟩ := h.led i hi
      rw [connection?_close]
      split
      · exact ⟨k.close, by rw [hk]; rfl, hleads.file, hleads.path, hleads.mayWrite⟩
      · exact ⟨k, hk, hleads⟩ }

/-- Another connection is made, and closing the pool will close it in the place of an old one. -/
theorem replace (h : s.OpenOn path a p file q d) (old : Nat) :
    ∃ u, s.connect = .ok (u, s.connections.length) ∧ u.pool = s.pool ∧
      (u.withPool (u.pool.retrack old s.connections.length)).OpenOn path a p file q d ∧
      u.connection? s.connections.length = some (.new file (some p) true) := by
  let u : Store := { s with connections := s.connections ++ [.new file (some p) true] }
  have hconnect : s.connect = .ok (u, s.connections.length) := by
    unfold connect
    rw [h.location, h.there.address]
    simp only [h.there.shared, Bool.false_eq_true, if_false, h.there.opens, h.there.mayWrite]
    rfl
  have hnew : u.connection? s.connections.length = some (.new file (some p) true) := by
    simp [u, connection?]
  have hold : ∀ {i : Nat} {k : Connection}, s.connection? i = some k →
      u.connection? i = some k := by
    intro i k hk
    obtain ⟨hlt, -⟩ := List.getElem?_eq_some_iff.1 hk
    exact (List.getElem?_append_left hlt).trans hk
  refine ⟨u, hconnect, rfl, { h with few := ?_, drafts := ?_, led := ?_ }, hnew⟩
  · have hfilter := List.length_filter_le (fun c => c != old) s.pool.tracked
    have hfew := h.few
    simp only [withPool, Pool.retrack, u, List.length_append, List.length_singleton]
    omega
  · intro i k hk
    have hk' : (s.connections ++ [Connection.new file (some p) true])[i]? = some k := hk
    rw [List.getElem?_append] at hk'
    split at hk'
    · exact h.drafts i k hk'
    · obtain rfl := List.mem_singleton.1 (List.mem_of_getElem? hk')
      rfl
  · intro i hi
    obtain ⟨k, hk, hleads⟩ := h.led i hi
    exact ⟨k, hold hk, hleads⟩

end OpenOn

/-- A store of which a visit has an open connection to the file in its hands. -/
structure LentOn (s : Store) (path : String) (a : Address) (p : Path) (file q : Nat)
    (d : Database) (c : Nat) : Prop where
  onFile : s.OpenOn path a p file q d
  held : ∃ k, s.connection? c = some k ∧ k.LeadsTo file p ∧ k.isOpen = true

namespace LentOn

theorem lent (h : s.LentOn path a p file q d c) (hd : IsReady d) : ∃ k, s.Lent file c k := by
  obtain ⟨k, hk, hleads, hopen⟩ := h.held
  exact ⟨k, hk, ⟨hopen, hleads.mayWrite, hleads.file,
    h.onFile.there.obstacle? rfl hleads.file hleads.path⟩, h.onFile.drafts, h.onFile.there.native,
    h.onFile.there.free, by rw [h.onFile.content]; exact hd.table⟩

/-- Another database is written to the file. -/
theorem write (h : s.LentOn path a p file q d c) (e : Database) :
    ({ s with disk := s.disk.setContent file e } : Store).LentOn path a p file q e c :=
  ⟨h.onFile.write e, h.held⟩

/-- The connection is given back to a store like this one. -/
theorem returns (h : s.LentOn path a p file q d c) (halike : Alike s t) :
    (t.withPool (t.pool.put q c)).OpenOn path a p file q d ∧
      (t.withPool (t.pool.put q c)).pool.queue q ≠ [] := by
  obtain ⟨k, hk, hleads, -⟩ := h.held
  obtain ⟨k', hk', hcore⟩ := halike.symm.exists_connection? hk
  exact (h.onFile.alike halike).put hk' (hleads.of_core hcore.symm)

end LentOn

namespace OpenOn

/-- **A visit gets a connection** that leads to the file and is open. One that has been closed is
replaced first. -/
theorem takes (h : s.OpenOn path a p file q d) (hatHand : s.pool.queue q ≠ []) (errand : Errand) :
    ∃ n notes u c, n ≤ 3 ∧ u.pool.size = s.pool.size ∧ u.LentOn path a p file q d c ∧
      Visit.Runs (.borrow errand) n s (.going (.awaiting q)) notes u (.going (.working q c)) := by
  obtain ⟨c, rest, hq⟩ := List.exists_cons_of_ne_nil hatHand
  obtain ⟨k, hk, hleads⟩ := h.led c (by rw [hq]; exact List.mem_cons_self ..)
  cases hopen : k.isOpen with
  | true =>
    have hsound : s.isOpen c = true := (isOpen_eq_true_iff s c).2 ⟨k, hk, hopen⟩
    obtain ⟨n, hn, hruns⟩ := Visit.runs_take (e := errand) hq (.inr hsound)
    exact ⟨n, _, s.withPool (s.pool.drop q), c, by omega, rfl, ⟨h.drop, k, hk, hleads, hopen⟩,
      hruns⟩
  | false =>
    let v := s.withPool (s.pool.drop q)
    have htake : Visit.go 0 (.borrow errand) s (.awaiting q) =
        some ⟨v, [Visit.acquiredNote], .going (.checking q c)⟩ := by
      simp [Visit.go, hq, h.location, Visit.goOn, Visit.acquiredNote, v]
    have hclosed : v.isOpen c = false := by
      simp [v, Store.isOpen, connection?, withPool, show s.connections[c]? = some k from hk, hopen]
    have hcheck : Visit.go 0 (.borrow errand) v (.checking q c) =
        some ⟨v, [Visit.invalidNote .inactive], .going (.replacing q c)⟩ := by
      simp [Visit.go, hclosed, Visit.goOn]
    obtain ⟨u, hconnect, hpool, honFile, hnew⟩ := h.drop.replace c
    have hreplace : Visit.go 0 (.borrow errand) v (.replacing q c) =
        some ⟨u.withPool (u.pool.retrack c v.connections.length), [],
          .going (.working q v.connections.length)⟩ := by
      simp only [Visit.go, show v.connect = _ from hconnect, Visit.goOn]
      rfl
    refine ⟨3, _, _, _, Nat.le_refl 3, ?_, ⟨honFile, _, hnew, ⟨rfl, rfl, rfl⟩, rfl⟩,
      .go htake (.go hcheck (.one hreplace))⟩
    show u.pool.size = s.pool.size
    rw [hpool]
    rfl

end OpenOn

/-! ### Pools that are opened -/

/-- **A pool that has been opened** has connections at hand that lead to the file. -/
theorem IsClosedOn.openOn {made found : Disk} {n : Nat} (hs : s.IsClosedOn path)
    (hadmits : Admits path s.disk made found a p file) :
    (s.opened (found.setContent file (databaseAt s.disk path).setUp)
        (Visit.openingConnections n file p (databaseAt s.disk path))).OpenOn path a p file
      s.pool.queues.length (databaseAt s.disk path).setUp ∧
    (s.opened (found.setContent file (databaseAt s.disk path).setUp)
        (Visit.openingConnections n file p (databaseAt s.disk path))).pool.queue
      s.pool.queues.length ≠ [] := by
  let made := Visit.openingConnections n file p (databaseAt s.disk path)
  have hmade : ∀ k, k ∈ made → k.LeadsTo file p ∧ k.draft = none := by
    intro k hk
    have hnew : (Connection.new file (some p) true).LeadsTo file p := ⟨rfl, rfl, rfl⟩
    obtain rfl | hk := List.mem_cons.1 hk
    · have hcore := Visit.core_setUpOn (.new file (some p) true) (databaseAt s.disk path)
      exact ⟨hnew.of_core hcore, ((core_eq_iff ..).1 hcore).2.2.2.2⟩
    · obtain rfl := List.eq_of_mem_replicate hk
      exact ⟨hnew, rfl⟩
  have hqueue : (s.opened (found.setContent file (databaseAt s.disk path).setUp) made).pool.queue
      s.pool.queues.length = s.nextNumbers made.length := by
    simp [opened, Pool.queue]
  refine ⟨⟨hs.location, rfl, rfl, ?_, ?_, ?_, hadmits.setContent _, ?_, ?_⟩, ?_⟩
  · simp [opened]
  · simp [opened, nextNumbers]
  · intro c k hk
    have hk' : (s.connections ++ made)[c]? = some k := hk
    rw [List.getElem?_append] at hk'
    split at hk'
    · exact hs.drafts c k hk'
    · exact (hmade k (List.mem_of_getElem? hk')).2
  · exact Disk.content_setContent_self _ _ _ hadmits.named
  · intro c hc
    rw [hqueue, nextNumbers, List.mem_range'_1] at hc
    have hlt : c - s.connections.length < made.length := by omega
    have hk : (s.connections ++ made)[c]? = some made[c - s.connections.length] := by
      rw [List.getElem?_append_right hc.1]
      exact List.getElem?_eq_getElem hlt
    exact ⟨_, hk, (hmade _ (List.getElem_mem hlt)).1⟩
  · have hlength : made.length = n + 1 := by simp [made, Visit.openingConnections]
    rw [hqueue, nextNumbers, hlength, List.range'_succ]
    exact List.cons_ne_nil _ _

/-! ### Stores that last -/

/-- A store whose pool is open and has no places. -/
structure VacantOn (s : Store) (path : String) (q : Nat) : Prop where
  location : s.pool.location = .file path
  current : s.pool.current = some q
  opening : s.pool.opening = []
  tracked : s.pool.tracked = []
  drafts : ∀ c k, s.connection? c = some k → k.draft = none
  queue : s.pool.queue q = []

/-- A store whose pool is closed or open on a file that takes a database. The database is this one,
at the latest once it has been set up. -/
inductive Lasts (path : String) (d : Database) (s : Store) : Prop
  | closed {made found : Disk} {a : Address} {p : Path} {file : Nat} (isClosed : s.IsClosedOn path)
      (admits : Admits path s.disk made found a p file) (holds : (databaseAt s.disk path).setUp = d)
  | atHand {a : Address} {p : Path} {file q : Nat} (places : 1 ≤ s.pool.size)
      (onFile : s.OpenOn path a p file q d) (nonempty : s.pool.queue q ≠ [])
  | vacant {made found : Disk} {a : Address} {p : Path} {file q : Nat} (places : s.pool.size ≤ 0)
      (isVacant : s.VacantOn path q) (admits : Admits path s.disk made found a p file)
      (holds : (databaseAt s.disk path).setUp = d)

namespace Lasts

/-- The file takes a database still. -/
theorem admits (h : s.Lasts path d) (hd : IsReady d) :
    (∃ made found a p file, Admits path s.disk made found a p file) ∧
      (databaseAt s.disk path).setUp = d := by
  cases h with
  | closed _ admits holds => exact ⟨⟨_, _, _, _, _, admits⟩, holds⟩
  | atHand _ onFile _ =>
    refine ⟨⟨_, _, _, _, _, onFile.there⟩, ?_⟩
    rw [← onFile.there.content, onFile.content, hd.setUp]
  | vacant _ _ admits holds => exact ⟨⟨_, _, _, _, _, admits⟩, holds⟩

theorem location (h : s.Lasts path d) : s.pool.location = .file path := by
  cases h with
  | closed isClosed => exact isClosed.location
  | atHand _ onFile => exact onFile.location
  | vacant _ isVacant => exact isVacant.location

/-- The pool tracks no more connections than there are. -/
theorem few (h : s.Lasts path d) : s.pool.tracked.length ≤ s.connections.length := by
  cases h with
  | closed isClosed =>
    rw [isClosed.tracked]
    exact Nat.zero_le _
  | atHand _ onFile => exact onFile.few
  | vacant _ isVacant =>
    rw [isVacant.tracked]
    exact Nat.zero_le _

theorem rows_eq (h : s.Lasts path d) (hd : IsReady d) :
    s.rows = d.rows ∧ (databaseAt s.disk path).rows = d.rows := by
  have hrows : (databaseAt s.disk path).rows = d.rows := by
    rw [← (h.admits hd).2, Database.rows_setUp]
  refine ⟨?_, hrows⟩
  rw [← hrows, rows, database, file?, h.location]
  rfl

/-- A store without connections whose pool has never been opened. -/
theorem fresh {disk made found : Disk} (size : Int)
    (hadmits : Admits path disk made found a p file) (hd : (databaseAt disk path).setUp = d) :
    (⟨disk, [], .make (.file path) size⟩ : Store).Lasts path d :=
  .closed ⟨⟨rfl, rfl, rfl, fun _ _ hk => by cases hk⟩, rfl⟩ hadmits hd

/-- A connection is closed behind the back of the pool. -/
theorem close (h : s.Lasts path d) (c : Nat) : (s.close c).Lasts path d := by
  cases h with
  | closed isClosed admits holds =>
    exact .closed { isClosed with drafts := drafts_close isClosed.drafts c } admits holds
  | atHand places onFile nonempty => exact .atHand places (onFile.close c) nonempty
  | vacant places isVacant admits holds =>
    exact .vacant places { isVacant with drafts := drafts_close isVacant.drafts c } admits holds

variable {P : Purpose}

/-- **A visit finds the pool open, or opens it.** -/
theorem enters (h : s.Lasts path d) (P : Purpose) :
    ∃ n notes t q, n ≤ s.pool.size.toNat + 2 ∧ t.pool.size = s.pool.size ∧
      t.pool.current = some q ∧ t.Lasts path d ∧
      Visit.Runs P n s (.going .entering) notes t (Visit.arrival P q) := by
  cases h with
  | @closed made found a p file isClosed admits holds =>
    by_cases hsize : s.pool.size ≤ 0
    · refine ⟨1, _, s.opened made [], _, by omega, rfl, rfl, ?_,
        Visit.runs_opening_empty isClosed admits hsize⟩
      have hsame : databaseAt made path = databaseAt s.disk path :=
        admits.afterDirectory.content.symm.trans admits.content
      refine .vacant (q := s.pool.queues.length) hsize ⟨isClosed.location, rfl, rfl, rfl, ?_, ?_⟩
        admits.afterDirectory (hsame ▸ holds)
      · intro c k hk
        rw [connection?, opened, List.append_nil] at hk
        exact isClosed.drafts c k hk
      · simp [opened, Pool.queue, nextNumbers]
    · obtain ⟨n, hn⟩ : ∃ n, s.pool.size = (n + 1 : Nat) := ⟨s.pool.size.toNat - 1, by omega⟩
      obtain ⟨honFile, hqueue⟩ := isClosed.openOn (n := n) admits
      have hruns := Visit.runs_opening (P := P) isClosed admits hn
      rw [holds] at honFile hqueue hruns
      refine ⟨n + 3, _, s.opened _ _, _, by omega, rfl, rfl, ?_, hruns⟩
      exact .atHand (show 1 ≤ s.pool.size by omega) honFile hqueue
  | atHand places onFile nonempty =>
    exact ⟨1, _, s, _, by omega, rfl, onFile.current, .atHand places onFile nonempty,
      .one (Visit.go_entering onFile.current)⟩
  | vacant places isVacant admits holds =>
    exact ⟨1, _, s, _, by omega, rfl, isVacant.current, .vacant places isVacant admits holds,
      .one (Visit.go_entering isVacant.current)⟩

/-- **Where the pool has places a visit gets a connection**, which leads to the file and is open. -/
theorem lends (h : s.Lasts path d) (hplaces : 1 ≤ s.pool.size) (errand : Errand) :
    ∃ n notes u a p file q c, n ≤ s.pool.size.toNat + 5 ∧ u.pool.size = s.pool.size ∧
      u.LentOn path a p file q d c ∧
      Visit.Runs (.borrow errand) n s (.going .entering) notes u (.going (.working q c)) := by
  obtain ⟨m, _, t, q, hm, hsize, hcurrent, hlasts, henters⟩ := h.enters (.borrow errand)
  cases hlasts with
  | closed isClosed =>
    rw [isClosed.current] at hcurrent
    cases hcurrent
  | vacant places => omega
  | @atHand a p file q' places onFile nonempty =>
    obtain rfl : q' = q := by rw [onFile.current] at hcurrent; exact Option.some.inj hcurrent
    obtain ⟨n, _, u, c, hn, hsize', hlent, htakes⟩ := onFile.takes nonempty errand
    exact ⟨m + n, _, u, a, p, file, q', c, by omega, hsize'.trans hsize, hlent,
      henters.trans htakes⟩

/-- **Where the pool has no places a visit waits in vain.** -/
theorem denies (h : s.Lasts path d) (hplaces : s.pool.size ≤ 0) (errand : Errand) :
    ∃ n notes t, n ≤ s.pool.size.toNat + 3 ∧ t.pool.size = s.pool.size ∧ t.Lasts path d ∧
      Visit.Runs (.borrow errand) n s (.going .entering) notes t (.ended (.error .timeout)) := by
  obtain ⟨m, _, t, q, hm, hsize, hcurrent, hlasts, henters⟩ := h.enters (.borrow errand)
  have hqueue : t.pool.queue q = [] := by
    cases hlasts with
    | closed isClosed =>
      rw [isClosed.current] at hcurrent
      cases hcurrent
    | atHand places => omega
    | vacant _ isVacant =>
      rw [isVacant.current] at hcurrent
      cases hcurrent
      exact isVacant.queue
  have hstuck : Visit.go 0 (.borrow errand) t (.awaiting q) = none := by
    simp [Visit.go, hqueue]
  exact ⟨m + 1, _, t, by omega, hsize, hlasts, henters.trans (.wait hstuck rfl .stay)⟩

end Lasts

end Store

end CharacterLedger.Storage
