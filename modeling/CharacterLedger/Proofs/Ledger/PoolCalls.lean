import CharacterLedger.Proofs.Ledger.Alone
import CharacterLedger.Proofs.Storage.Closing
import CharacterLedger.Proofs.Storage.Opened

/-!
# Calls to the pool that have the world to themselves

Opening and closing the pool are calls that run under no trace number and take no lock.  Where
nothing else is going on, opening the pool comes to what its visit comes to, and closing it closes
one connection after the other.

* `callOn_openPool` — the store once its pool has been opened;
* `Store.IsShutFrom`, `callOn_closePool` — the store once its pool has been closed.
-/

namespace CharacterLedger.Ledger

open CharacterLedger.Storage CharacterLedger.Table

/-! ### Opening the pool -/

/-- **Opening a closed pool** makes its connections and sets up the database. -/
theorem callOn_openPool {w : World} {made found : Disk} {a : Address} {p : Path} {file n : Nat}
    {path : String} (hs : w.store.IsClosedOn path)
    (hadmits : Admits path w.store.disk made found a p file)
    (hsize : w.store.pool.size = (n + 1 : Nat)) :
    ∃ w', Session.callOn w .openPool = (.ok .done, w') ∧
      w.Leaves none (w.store.opened
          (found.setContent file (databaseAt w.store.disk path).setUp)
          (Visit.openingConnections n file p (databaseAt w.store.disk path)))
        (Visit.openingNotes w.store (databaseAt w.store.disk path)) w' := by
  have hruns : Visit.Runs .openPool (n + 3) w.store (.going .entering) _ _ (.ended (.ok ())) :=
    Visit.runs_opening hs hadmits hsize
  obtain ⟨w', hcall, hleaves⟩ := callOn_of_runs .openPool hruns rfl (by omega)
  rw [show (Task.visited .openPool (.ok ())).1 = [] from rfl, List.append_nil] at hleaves
  exact ⟨w', hcall, hleaves⟩

/-! ### Closing the pool -/

/-- The note that a pool is closed. -/
def closedNote : Log.Note := Visit.note .info "Database connection pool closed"

/-- A store whose pool has been closed. Connections may have been closed, and everything else is as
it was. -/
structure IsShutFrom (s t : Store) : Prop where
  disk : t.disk = s.disk
  pool : t.pool = { s.pool with tracked := [], current := none }
  length : t.connections.length = s.connections.length
  closed : ∀ c k, t.connection? c = some k →
    ∃ k', s.connection? c = some k' ∧ (k = k' ∨ k = k'.close)

/-- Once an open pool on a file has been closed it is in nobody's hands. -/
theorem IsShutFrom.isClosedOn {s t : Store} {path : String} (h : IsShutFrom s t)
    (hlocation : s.pool.location = .file path) (hopening : s.pool.opening = [])
    (hdrafts : ∀ c k, s.connection? c = some k → k.draft = none) : t.IsClosedOn path := by
  refine ⟨⟨?_, ?_, ?_, ?_⟩, ?_⟩
  · rw [h.pool]
  · rw [h.pool]
    exact hopening
  · rw [h.pool]
  · intro c k hk
    obtain ⟨k', hk', rfl | rfl⟩ := h.closed c k hk
    · exact hdrafts c k hk'
    · rfl
  · rw [h.pool]
    exact hlocation

namespace Task

/-- **Closing the pool** closes one connection after the other, and then the queue is forgotten. -/
theorem goes_closing {n : Nat} {w : World} {t : Task} {s : Store}
    (hcall : t.call.context? = none) (htrace : t.trace = none) (hn : s.pool.tracked.length = n) :
    ∃ w' t' u, Goes n (goOnClosing w t (closeRest s)).1.forgetLocks
        (goOnClosing w t (closeRest s)).2 w' t' ∧ t'.stage = .done (.ok .done) ∧
      w.Leaves none u [closedNote] w' ∧ IsShutFrom s u := by
  induction n generalizing w t s with
  | zero =>
    rw [List.length_eq_zero_iff] at hn
    have hrest : closeRest s = ⟨s.withPool s.pool.shut, [closedNote], none⟩ := by
      rw [closeRest, hn]
      rfl
    have hend : goOnClosing w t (closeRest s) =
        ((w.withStore (s.withPool s.pool.shut)).record none [closedNote],
          t.moveTo (.done (.ok .done))) := by
      rw [hrest, goOnClosing, htrace]
      exact finish_eq hcall _ _
    rw [hend]
    refine ⟨_, _, _, .stay, rfl, (World.Leaves.ofStep w none _ _).forgetLocks, rfl, ?_, rfl, ?_⟩
    · rw [← hn]
      rfl
    · exact fun c k hk => ⟨k, hk, .inl rfl⟩
  | succ n ih =>
    obtain hnil | ⟨front, c, htracked⟩ := List.eq_nil_or_concat s.pool.tracked
    · rw [hnil] at hn
      cases hn
    rw [List.concat_eq_append] at htracked
    have hrest : closeRest s = ⟨s.withPool s.pool.untrackLast, [], some c⟩ := by
      rw [closeRest, htracked, List.getLast?_concat]
    have htake : goOnClosing w t (closeRest s) =
        ((w.withStore (s.withPool s.pool.untrackLast)).record none [],
          t.moveTo (.closing c)) := by
      rw [hrest, goOnClosing, htrace]
    rw [htake]
    let v := ((w.withStore (s.withPool s.pool.untrackLast)).record none []).forgetLocks
    have hstep : (t.moveTo (.closing c)).step 0 .go v =
        some (goOnClosing v (t.moveTo (.closing c))
          (closeRest ((s.withPool s.pool.untrackLast).close c))) := rfl
    have hlength : ((s.withPool s.pool.untrackLast).close c).pool.tracked.length = n := by
      show s.pool.tracked.dropLast.length = n
      rw [htracked] at hn ⊢
      simpa using hn
    obtain ⟨w', t', u, hgoes, hdone, hleaves, hshut⟩ :=
      ih (w := v) (t := t.moveTo (.closing c)) hcall htrace hlength
    have hv : w.Leaves none v.store [] v := (World.Leaves.ofStep w none _ _).forgetLocks
    refine ⟨w', t', u, .go hstep hgoes, hdone, hv.trans hleaves, hshut.disk, hshut.pool,
      hshut.length.trans (Store.length_close _ _), ?_⟩
    intro d k hk
    obtain ⟨k', hk', hor⟩ := hshut.closed d k hk
    rw [Store.connection?_close] at hk'
    split at hk'
    · obtain ⟨k₀, hk₀, rfl⟩ := Option.map_eq_some_iff.1 hk'
      exact ⟨k₀, hk₀, .inr (hor.elim id id)⟩
    · exact ⟨k', hk', hor⟩

end Task

/-- **Closing an open pool succeeds**, and leaves the disk as it is. -/
theorem callOn_closePool {w : World} (hopen : w.store.pool.isOpen = true)
    (hfew : w.store.pool.tracked.length ≤
      w.store.pool.size.toNat + w.store.connections.length) :
    ∃ w' u, Session.callOn w .closePool = (.ok .done, w') ∧ w.Leaves none u [closedNote] w' ∧
      IsShutFrom w.store u := by
  obtain ⟨w', t', u, hgoes, hdone, hleaves, hshut⟩ :=
    Task.goes_closing (w := w) (t := .new .closePool) (s := w.store) rfl rfl rfl
  have hbegin : (Task.new .closePool).step 0 .go w =
      some (Task.goOnClosing w (.new .closePool) (closeRest w.store)) := by
    show some (Task.goOnClosing w (.new .closePool) (beginClosing w.store)) = _
    rw [beginClosing, hopen, if_pos rfl]
  exact ⟨w', u, callOn_eq_of_goes (.go hbegin hgoes) hdone (by omega), hleaves, hshut⟩

/-- Closing a pool that is not open does nothing. -/
theorem callOn_closePool_of_closed {w : World} (hclosed : w.store.pool.isOpen = false) :
    ∃ w', Session.callOn w .closePool = (.ok .done, w') ∧ w.Leaves none w.store [] w' := by
  have hend : Task.goOnClosing w (.new .closePool) (beginClosing w.store) =
      ((w.withStore w.store).record none [], (Task.new .closePool).moveTo (.done (.ok .done))) := by
    rw [beginClosing, hclosed, if_neg Bool.false_ne_true]
    rfl
  have hstep : (Task.new .closePool).step 0 .go w =
      some ((w.withStore w.store).record none [],
        (Task.new .closePool).moveTo (.done (.ok .done))) :=
    congrArg some hend
  exact ⟨_, callOn_eq_of_goes (.go hstep .stay) rfl (by omega),
    (World.Leaves.ofStep w none w.store []).forgetLocks⟩

end CharacterLedger.Ledger
