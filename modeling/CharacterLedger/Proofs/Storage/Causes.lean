import CharacterLedger.Proofs.Storage.Connections
import CharacterLedger.Proofs.Table.Causes

/-!
# Why the operations of a store fail

A fault of an operation is reported by the database or the file system, or it is one of two others:
a connection that has been closed, and a path with a zero character.  What a statement itself makes
of its parameters and of the database comes on top.

* `Store.ask_eq_error`, `Store.alter_eq_error` — the faults of a statement;
* `Store.connect_eq_error` — the faults of connecting;
* `Store.makeDirectory_eq_error` — the faults of making the directory of the pool.
-/

namespace CharacterLedger.Storage

open CharacterLedger.Table

/-! ### Statements -/

theorem Connection.isOfStore_of_judge {k : Connection} {st : Statement} {shape : Shape} {f : Fault}
    (h : (k.judge st shape).2 = .error f) : f.isOfStore = true := by
  rw [judge_snd] at h
  exact Statement.isOfStore_of_judge h

/-- A statement is found unsound for a reason of the database, seen or remembered. -/
theorem Connection.isOfStore_of_prepare {k : Connection} {st : Statement}
    {seen : Except Fault Shape} {f : Fault} (h : (k.prepare st seen).2 = .error f)
    (hseen : ∀ g, seen = .error g → g.isOfStore = true) : f.isOfStore = true := by
  unfold prepare at h
  split at h
  · cases h
  · cases hknown : k.shape with
    | none =>
      cases seen with
      | error g =>
        rw [hknown] at h
        cases h
        exact hseen f rfl
      | ok shape =>
        rw [hknown] at h
        exact isOfStore_of_judge h
    | some known =>
      rw [hknown] at h
      cases seen with
      | error g => exact isOfStore_of_judge h
      | ok shape =>
        dsimp only at h
        rcases hj : k.judge st known with ⟨k₁, r⟩
        rw [hj] at h
        cases r with
        | ok => cases h
        | error g =>
          dsimp only at h
          split at h
          · exact isOfStore_of_judge h
          · cases h
            exact isOfStore_of_judge (congrArg Prod.snd hj)

namespace Store

variable {s t : Store} {c : Nat} {st : Statement} {bound : Except Fault Unit} {f : Fault}

theorem isOfStore_of_readable {k : Connection} (h : s.readable k = .error f) :
    f.isOfStore = true := by
  unfold readable at h
  split at h
  · cases h
    rfl
  · split at h
    · cases h
      rfl
    · cases h

theorem isOfStore_of_writable {k : Connection} (h : s.writable k = .error f) :
    f.isOfStore = true := by
  unfold writable at h
  split at h
  · cases h
    rfl
  · split at h
    · cases h
      rfl
    · split at h
      · cases h
        rfl
      · cases h

theorem isOfStore_of_obstacle? {k : Connection} (h : s.obstacle? k = some f) :
    f.isOfStore = true := by
  unfold obstacle? at h
  split at h
  · cases h
    rfl
  · split at h
    · cases h
      rfl
    · cases h

/-- A fault before a statement is carried out: the database reports it, the connection is closed, or
the parameters are at fault. -/
theorem ready_eq_error (h : (s.ready c st bound).2 = .error f) :
    f.isOfStore = true ∨ (f = .inactive ∧ s.isOpen c = false) ∨ bound = .error f := by
  unfold ready at h
  cases hk : s.connection? c with
  | none =>
    rw [hk] at h
    cases h
    exact .inr (.inl ⟨rfl, by simp [isOpen, hk]⟩)
  | some k =>
    rw [hk] at h
    cases ho : k.isOpen with
    | false =>
      simp only [ho, Bool.not_false, if_true, Except.error.injEq] at h
      exact .inr (.inl ⟨h.symm, by simp [isOpen, hk, ho]⟩)
    | true =>
      rcases hp : k.prepare st ((s.readable k).map Database.shape) with ⟨k₁, r⟩
      simp only [ho, hp, Bool.not_true, Bool.false_eq_true, if_false] at h
      cases r with
      | error g =>
        cases h
        refine .inl (Connection.isOfStore_of_prepare (congrArg Prod.snd hp) ?_)
        intro g hg
        cases hr : s.readable k with
        | error g' =>
          rw [hr] at hg
          cases hg
          exact isOfStore_of_readable hr
        | ok d =>
          rw [hr] at hg
          cases hg
      | ok =>
        cases bound with
        | error g =>
          cases h
          exact .inr (.inr rfl)
        | ok => cases h

/-- A fault of a question. -/
theorem ask_eq_error {α : Type} {question : Database → Except Fault α}
    (h : (s.ask c st bound question).2 = .error f) :
    f.isOfStore = true ∨ (f = .inactive ∧ s.isOpen c = false) ∨ bound = .error f ∨
      ∃ d, question d = .error f := by
  unfold ask at h
  rcases hready : s.ready c st bound with ⟨s₁, r⟩
  rw [hready] at h
  cases r with
  | error g =>
    cases h
    exact (ready_eq_error (congrArg Prod.snd hready)).imp_right (.imp_right .inl)
  | ok k =>
    dsimp only at h
    cases hd : s₁.readable k with
    | error g =>
      rw [hd] at h
      cases h
      exact .inl (isOfStore_of_readable hd)
    | ok d =>
      rw [hd] at h
      exact .inr (.inr (.inr ⟨d, h⟩))

/-- A fault of a change. -/
theorem alter_eq_error {statement : Database → Except Fault Database}
    (h : (s.alter c st bound statement).2 = .error f) :
    f.isOfStore = true ∨ (f = .inactive ∧ s.isOpen c = false) ∨ bound = .error f ∨
      ∃ d, statement d = .error f := by
  unfold alter at h
  rcases hready : s.ready c st bound with ⟨s₁, r⟩
  rw [hready] at h
  cases r with
  | error g =>
    cases h
    exact (ready_eq_error (congrArg Prod.snd hready)).imp_right (.imp_right .inl)
  | ok k =>
    dsimp only at h
    cases hd : s₁.writable k with
    | error g =>
      rw [hd] at h
      cases h
      exact .inl (isOfStore_of_writable hd)
    | ok d =>
      rw [hd] at h
      dsimp only at h
      cases hs : statement d with
      | error g =>
        rw [hs] at h
        cases h
        exact .inr (.inr (.inr ⟨d, hs⟩))
      | ok e =>
        rw [hs] at h
        dsimp only at h
        cases hobstacle : (s₁.learn c st d).obstacle? k with
        | none =>
          rw [hobstacle] at h
          cases h
        | some g =>
          rw [hobstacle] at h
          cases h
          exact .inl (isOfStore_of_obstacle? hobstacle)

end Store

/-! ### Paths and connecting -/

/-- The directory of a file has a path with a zero character only if the file has. -/
theorem hasZero_of_parent {path : String}
    (h : Location.hasZero (Route.ofText path).parent.toText = true) :
    Location.hasZero path = true := by
  obtain ⟨c, hc, hzero⟩ := List.any_eq_true.1 h
  refine List.any_eq_true.2 ⟨c, ?_, hzero⟩
  obtain rfl | rfl | ⟨name, hname, hc⟩ := Path.mem_toText hc
  · cases hzero
  · cases hzero
  · obtain hname | hname := List.mem_append.1 hname
    · simp only [Route.parent, Route.ofText, Path.start] at hname
      split at hname
      · rw [List.mem_singleton.1 hname] at hc
        rw [List.mem_singleton.1 hc] at hzero
        cases hzero
      · cases hname
    · have hsteps := (List.mem_filter.1 (List.dropLast_subset _ hname)).1
      obtain ⟨piece, hpiece, rfl⟩ := List.mem_map.1 hsteps
      rw [String.toList_ofList] at hc
      exact Text.mem_of_mem_pieces hpiece hc

namespace Store

variable {s t : Store} {f : Fault}

/-- A connection cannot be made to a path with a zero character, or the database reports why. -/
theorem connect_eq_error (h : s.connect = .error f) :
    f.isOfStore = true ∨ f = .zeroCharacter ∧
      ∃ path, s.pool.location = .file path ∧ Location.hasZero path = true := by
  unfold connect at h
  cases ha : s.pool.location.address with
  | error g =>
    rw [ha] at h
    cases h
    cases hl : s.pool.location with
    | memory =>
      rw [hl, Location.address_memory] at ha
      cases ha
    | file path =>
      rw [hl, Location.address] at ha
      split at ha
      · next hzero =>
        cases ha
        exact .inr ⟨rfl, path, rfl, hzero⟩
      · split at ha
        · cases ha
        · cases ha
          exact .inl rfl
  | ok a =>
    rw [ha] at h
    dsimp only at h
    split at h
    · cases h
    · cases hopen : s.disk.openFile a with
      | error g =>
        rw [hopen] at h
        cases h
        exact .inl (Disk.isOfStore_of_openFile hopen)
      | ok opened =>
        rw [hopen] at h
        cases h

/-- The directory of a path with a zero character cannot be made, or the file system reports why. -/
theorem makeDirectory_eq_error (h : Visit.makeDirectory s = (t, .error f)) :
    f.isOfStore = true ∨ f = .zeroCharacter ∧
      ∃ path, s.pool.location = .file path ∧ Location.hasZero path = true := by
  unfold Visit.makeDirectory at h
  cases hl : s.pool.location with
  | memory =>
    rw [hl] at h
    cases h
  | file path =>
    rw [hl] at h
    simp only [Visit.directory?] at h
    split at h
    · next hzero =>
      cases h
      exact .inr ⟨rfl, path, rfl, hasZero_of_parent hzero⟩
    · rcases hd : s.disk.makeDirectories (Route.ofText path).parent with ⟨disk, result⟩
      rw [hd] at h
      simp only [Prod.mk.injEq] at h
      obtain ⟨-, rfl⟩ := h
      exact .inl (Disk.isOfStore_of_makeDirectories (congrArg Prod.snd hd))

end Store

end CharacterLedger.Storage
