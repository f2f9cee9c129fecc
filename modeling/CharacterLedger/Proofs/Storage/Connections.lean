import CharacterLedger.Storage.Opening

/-!
# What the operations of a store do to its connections

A connection remembers shapes and judged statements, and nothing that is proved about visits depends
on them.  Two stores are *alike* when they differ in such memories only, and they *match* when their
pools may differ as well.  This module says what every operation of a store does to the connections:

* `connection?_modify`, `connection?_addConnection` — the connection behind a number after a change;
* `ask_spec`, `alter_spec` — a statement leaves an alike store, and when it succeeds it was carried
  out, on a connection that is open, on what that connection sees;
* `isBusy_eq_false_iff` — a connection is not busy when no other one to its file has a draft;
* `connect_eq_ok` — a new connection gets the next number, and is open and without a draft.
-/

namespace CharacterLedger.Storage

open CharacterLedger.Table

/-- The connection without what it remembers of shapes and statements. -/
def Connection.core (k : Connection) : Connection := { k with shape := none, prepared := [] }

namespace Store

variable {s t u : Store}

/-! ### The connection behind a number -/

theorem connection?_modify (s : Store) (c d : Nat) (f : Connection → Connection) :
    (s.modify c f).connection? d = if d = c then (s.connection? d).map f else s.connection? d := by
  unfold connection? modify
  rw [List.getElem?_modify]
  by_cases h : d = c
  · simp [h]
  · simp [h, Ne.symm h]

theorem connection?_addConnection (s : Store) (k : Connection) (d : Nat) :
    (s.addConnection k).1.connection? d =
      if d = s.connections.length then some k else s.connection? d := by
  unfold connection? addConnection
  rw [List.getElem?_append]
  by_cases h : d < s.connections.length
  · simp [h, Nat.ne_of_lt h]
  · by_cases he : d = s.connections.length
    · simp [he]
    · have : d - s.connections.length ≠ 0 := by omega
      simp [h, he, this]

theorem lt_length_of_connection? {c : Nat} {k : Connection} (h : s.connection? c = some k) :
    c < s.connections.length := by
  unfold connection? at h
  exact (List.getElem?_eq_some_iff.1 h).1

theorem connection?_isSome {c : Nat} (h : c < s.connections.length) :
    ∃ k, s.connection? c = some k :=
  ⟨s.connections[c], List.getElem?_eq_getElem h⟩

theorem isOpen_eq_true_iff (s : Store) (c : Nat) :
    s.isOpen c = true ↔ ∃ k, s.connection? c = some k ∧ k.isOpen = true := by
  unfold isOpen
  simp [Option.any_eq_true]

/-! ### Alike stores -/

/-- Stores that differ only in their pools and in what their connections remember of shapes and
statements. -/
structure Matches (s t : Store) : Prop where
  disk : t.disk = s.disk
  cores : t.connections.map Connection.core = s.connections.map Connection.core

/-- Stores that match and have the same pool. -/
structure Alike (s t : Store) : Prop extends Matches s t where
  pool : t.pool = s.pool

theorem Matches.refl (s : Store) : Matches s s := ⟨rfl, rfl⟩

theorem Matches.symm (h : Matches s t) : Matches t s := ⟨h.disk.symm, h.cores.symm⟩

theorem Matches.trans (h : Matches s t) (h' : Matches t u) : Matches s u :=
  ⟨h'.disk.trans h.disk, h'.cores.trans h.cores⟩

theorem Alike.refl (s : Store) : Alike s s := ⟨.refl s, rfl⟩

theorem Alike.symm (h : Alike s t) : Alike t s := ⟨h.toMatches.symm, h.pool.symm⟩

theorem Alike.trans (h : Alike s t) (h' : Alike t u) : Alike s u :=
  ⟨h.toMatches.trans h'.toMatches, h'.pool.trans h.pool⟩

theorem Matches.length (h : Matches s t) : t.connections.length = s.connections.length := by
  simpa using congrArg List.length h.cores

theorem Matches.core_connection? (h : Matches s t) (c : Nat) :
    (t.connection? c).map Connection.core = (s.connection? c).map Connection.core := by
  have := congrArg (fun l => l[c]?) h.cores
  simpa [connection?] using this

/-- The connection behind a number in one of two matching stores is there in the other one. -/
theorem Matches.exists_connection? (h : Matches s t) {c : Nat} {k : Connection}
    (hk : t.connection? c = some k) : ∃ k₀, s.connection? c = some k₀ ∧ k.core = k₀.core := by
  have hc := h.core_connection? c
  rw [hk, Option.map_some, eq_comm, Option.map_eq_some_iff] at hc
  obtain ⟨k₀, hk₀, he⟩ := hc
  exact ⟨k₀, hk₀, he.symm⟩

/-- What a core decides: all but the memories. -/
theorem core_eq_iff (k k₀ : Connection) :
    k.core = k₀.core ↔ k.file = k₀.file ∧ k.path = k₀.path ∧ k.mayWrite = k₀.mayWrite ∧
      k.isOpen = k₀.isOpen ∧ k.draft = k₀.draft := by
  cases k
  cases k₀
  simp [Connection.core]

theorem Matches.isOpen (h : Matches s t) (c : Nat) : t.isOpen c = s.isOpen c := by
  have hc := h.core_connection? c
  unfold Store.isOpen
  cases ht : t.connection? c with
  | none =>
    rw [ht, Option.map_none, eq_comm, Option.map_eq_none_iff] at hc
    rw [hc]
  | some k =>
    obtain ⟨k₀, hk₀, he⟩ := h.exists_connection? ht
    rw [hk₀]
    exact ((core_eq_iff k k₀).1 he).2.2.2.1

/-- Replacing a connection by one with the same core leaves an alike store. -/
theorem alike_modify {c : Nat} {k : Connection} (f : Connection → Connection)
    (hk : s.connection? c = some k) (hf : (f k).core = k.core) : Alike s (s.modify c f) := by
  refine ⟨⟨rfl, ?_⟩, rfl⟩
  apply List.ext_getElem?
  intro i
  have hi := connection?_modify s c i f
  unfold connection? at hi hk
  rw [List.getElem?_map, List.getElem?_map, hi]
  by_cases hc : i = c
  · rw [if_pos hc, hc, hk]
    simpa using hf
  · rw [if_neg hc]

/-! ### Statements -/

@[simp] theorem core_judge (k : Connection) (st : Statement) (shape : Shape) :
    (k.judge st shape).1.core = k.core := by
  unfold Connection.judge
  cases st.judge shape <;> rfl

theorem core_prepare (k : Connection) (st : Statement) (seen : Except Fault Shape) :
    (k.prepare st seen).1.core = k.core := by
  unfold Connection.prepare
  split
  · rfl
  cases k.shape with
  | none =>
    cases seen with
    | error f => rfl
    | ok shape => exact core_judge k st shape
  | some known =>
    have h := core_judge k st known
    cases seen with
    | error f => exact h
    | ok shape =>
      -- the shape that is known is judged by first, the one that is seen only if that fails
      rcases hj : k.judge st known with ⟨k₁, r⟩
      rw [hj] at h
      simp only [hj]
      cases r with
      | ok => exact h
      | error f =>
        dsimp only
        split
        · exact (core_judge k₁ st shape).trans h
        · exact h

@[simp] theorem core_learn (k : Connection) (st : Statement) (shape : Shape) :
    (k.learn st shape).core = k.core := by
  unfold Connection.learn
  split <;> rfl

/-- Making a statement ready leaves an alike store; if it is ready, its connection is open. -/
theorem ready_spec (s : Store) (c : Nat) (st : Statement) (bound : Except Fault Unit) :
    Alike s (s.ready c st bound).1 ∧ ∀ k, (s.ready c st bound).2 = .ok k →
      (s.ready c st bound).1.connection? c = some k ∧
      ∃ k₀, s.connection? c = some k₀ ∧ k.core = k₀.core ∧ k₀.isOpen = true := by
  unfold ready
  cases hk : s.connection? c with
  | none => exact ⟨.refl s, by simp⟩
  | some k₀ =>
    cases ho : k₀.isOpen with
    | false => exact ⟨by simp [ho, Alike.refl], by simp [ho]⟩
    | true =>
      have hc := core_prepare k₀ st ((s.readable k₀).map Database.shape)
      cases hp : k₀.prepare st ((s.readable k₀).map Database.shape) with
      | mk k₁ r =>
        rw [hp] at hc
        have halike : Alike s (s.modify c fun _ => k₁) := alike_modify _ hk hc
        have hfound : (s.modify c fun _ => k₁).connection? c = some k₁ := by
          rw [connection?_modify, if_pos rfl, hk, Option.map_some]
        cases r with
        | error f => exact ⟨by simpa [ho, hp] using halike, by simp [ho, hp]⟩
        | ok =>
          refine ⟨by simpa [ho, hp] using halike, ?_⟩
          intro k h
          cases bound with
          | error f => simp [ho, hp] at h
          | ok =>
            simp only [ho, hp, Bool.not_true, Bool.false_eq_true, if_false, Except.ok.injEq] at h
            subst h
            exact ⟨by simpa [ho, hp] using hfound, k₀, rfl, hc, ho⟩

theorem alike_learn (s : Store) {c : Nat} {k : Connection} (st : Statement) (d : Database)
    (hk : s.connection? c = some k) : Alike s (s.learn c st d) :=
  alike_modify _ hk (core_learn k st d.shape)

theorem content_of_core (s : Store) {k k₀ : Connection} (h : k.core = k₀.core) :
    s.content k = s.content k₀ := by
  obtain ⟨hf, -, -, -, hd⟩ := (core_eq_iff k k₀).1 h
  simp [content, hf, hd]

theorem Matches.content (h : Matches s t) (k : Connection) : t.content k = s.content k := by
  simp [Store.content, h.disk]

/-- What a connection sees on a store it sees on a matching one. -/
theorem content_eq_of_matches (h : Matches s t) {k k₀ : Connection} (hk : k.core = k₀.core) :
    t.content k = s.content k₀ :=
  (h.content k).trans (content_of_core s hk)

theorem readable_eq_ok {k : Connection} {d : Database} (h : s.readable k = .ok d) :
    d = s.content k := by
  unfold readable at h
  split at h
  · cases h
  · split at h
    · cases h
    · exact (Except.ok.inj h).symm

theorem writable_eq_ok {k : Connection} {d : Database} (h : s.writable k = .ok d) :
    d = s.content k := by
  unfold writable at h
  split at h
  · cases h
  · split at h
    · cases h
    · split at h
      · cases h
      · exact (Except.ok.inj h).symm

/-- A statement that was carried out on an open connection: what it made of what the connection
sees. -/
def CarriedOut {α : Type} (s : Store) (c : Nat) (statement : Database → Except Fault α) (a : α) :
    Prop :=
  ∃ k, s.connection? c = some k ∧ k.isOpen = true ∧ statement (s.content k) = .ok a

/-- A question leaves an alike store, and an answer is that of an open connection. -/
theorem ask_spec {α : Type} (s : Store) (c : Nat) (st : Statement) (bound : Except Fault Unit)
    (question : Database → Except Fault α) :
    Alike s (s.ask c st bound question).1 ∧
      ∀ a, (s.ask c st bound question).2 = .ok a → s.CarriedOut c question a := by
  obtain ⟨halike, hready⟩ := ready_spec s c st bound
  unfold ask
  revert halike hready
  generalize s.ready c st bound = prepared
  obtain ⟨s₁, r⟩ := prepared
  intro halike hready
  cases r with
  | error f => exact ⟨halike, by simp⟩
  | ok k =>
    obtain ⟨hk, k₀, hk₀, hcore, hopen⟩ := hready k rfl
    dsimp only
    cases hd : s₁.readable k with
    | error f => exact ⟨halike, by simp⟩
    | ok d =>
      refine ⟨halike.trans (alike_learn s₁ st d hk), ?_⟩
      intro a ha
      refine ⟨k₀, hk₀, hopen, ?_⟩
      rw [← content_eq_of_matches halike.toMatches hcore, ← readable_eq_ok hd]
      exact ha

/-- A change leaves an alike store as long as nothing is written, and what is to be written was made
by an open connection. -/
theorem alter_spec (s : Store) (c : Nat) (st : Statement) (bound : Except Fault Unit)
    (statement : Database → Except Fault Database) :
    Alike s (s.alter c st bound statement).1 ∧
      ∀ d, (s.alter c st bound statement).2 = .ok d → s.CarriedOut c statement d := by
  obtain ⟨halike, hready⟩ := ready_spec s c st bound
  unfold alter
  revert halike hready
  generalize s.ready c st bound = prepared
  obtain ⟨s₁, r⟩ := prepared
  intro halike hready
  cases r with
  | error f => exact ⟨halike, by simp⟩
  | ok k =>
    obtain ⟨hk, k₀, hk₀, hcore, hopen⟩ := hready k rfl
    dsimp only
    cases hd : s₁.writable k with
    | error f => exact ⟨halike, by simp⟩
    | ok d =>
      have hlearn : Alike s (s₁.learn c st d) := halike.trans (alike_learn s₁ st d hk)
      have hseen : d = s.content k₀ :=
        (writable_eq_ok hd).trans (content_eq_of_matches halike.toMatches hcore)
      dsimp only
      cases hs : statement d with
      | error f => exact ⟨hlearn, by simp⟩
      | ok written =>
        dsimp only
        cases (s₁.learn c st d).obstacle? k with
        | some f => exact ⟨hlearn, by simp⟩
        | none =>
          refine ⟨hlearn, ?_⟩
          intro e he
          cases he
          exact ⟨k₀, hk₀, hopen, hseen ▸ hs⟩

/-- A connection is not busy when no other connection to its file has a draft. -/
theorem isBusy_eq_false_iff {c : Nat} {k : Connection} (hk : s.connection? c = some k) :
    s.isBusy c = false ↔ ∀ i other, s.connection? i = some other → i ≠ c → other.file = k.file →
      other.draft = none := by
  unfold isBusy
  rw [hk]
  simp only [List.any_eq_false, connection?]
  constructor
  · intro h i other hi hne hfile
    have := h (other, i) (List.mem_zipIdx_iff_getElem?.2 hi)
    simpa [hne, hfile] using this
  · rintro h ⟨other, i⟩ hm
    have hi := List.mem_zipIdx_iff_getElem?.1 hm
    by_cases hne : i = c
    · simp [hne]
    · by_cases hfile : other.file = k.file
      · simp [h i other hi hne hfile]
      · simp [hfile]

theorem Matches.isBusy_of_isBusy (h : Matches s t) {c : Nat} (hs : s.isBusy c = false) :
    t.isBusy c = false := by
  cases hk : t.connection? c with
  | none => simp [isBusy, hk]
  | some k =>
    obtain ⟨k₀, hk₀, hcore⟩ := h.exists_connection? hk
    rw [isBusy_eq_false_iff hk₀] at hs
    rw [isBusy_eq_false_iff hk]
    intro i other hi hne hfile
    obtain ⟨other₀, hi₀, hother⟩ := h.exists_connection? hi
    obtain ⟨hf, -, -, -, hd⟩ := (core_eq_iff other other₀).1 hother
    rw [hd]
    exact hs i other₀ hi₀ hne (hf ▸ hfile.trans ((core_eq_iff k k₀).1 hcore).1)

/-- Connections are busy alike in matching stores. -/
theorem Matches.isBusy (h : Matches s t) (c : Nat) : t.isBusy c = s.isBusy c := by
  cases hs : s.isBusy c with
  | false => exact h.isBusy_of_isBusy hs
  | true =>
    cases ht : t.isBusy c with
    | true => rfl
    | false => exact absurd (h.symm.isBusy_of_isBusy ht) (by simp [hs])

theorem Matches.carriedOut (h : Matches s t) {α : Type} {c : Nat}
    {statement : Database → Except Fault α} {a : α} (ht : t.CarriedOut c statement a) :
    s.CarriedOut c statement a := by
  obtain ⟨k, hk, hopen, hs⟩ := ht
  obtain ⟨k₀, hk₀, hcore⟩ := h.exists_connection? hk
  refine ⟨k₀, hk₀, ?_, ?_⟩
  · rw [← ((core_eq_iff k k₀).1 hcore).2.2.2.1, hopen]
  · rw [← content_eq_of_matches h hcore, hs]

/-! ### New connections and unchanged pools -/

/-- A new connection is the last one of all, and is open and without a draft. -/
theorem connect_eq_ok {c : Nat} (h : s.connect = .ok (t, c)) :
    c = s.connections.length ∧ t.pool = s.pool ∧
      ∃ k, t.connections = s.connections ++ [k] ∧ k.isOpen = true ∧ k.draft = none := by
  unfold connect at h
  split at h
  · cases h
  · split at h
    · cases h
      exact ⟨rfl, rfl, _, rfl, rfl, rfl⟩
    · split at h
      · cases h
      · cases h
        exact ⟨rfl, rfl, _, rfl, rfl, rfl⟩

@[simp] theorem pool_setDraft (s : Store) (c : Nat) (draft : Option Database) :
    (s.setDraft c draft).pool = s.pool := rfl

@[simp] theorem length_setDraft (s : Store) (c : Nat) (draft : Option Database) :
    (s.setDraft c draft).connections.length = s.connections.length :=
  List.length_modify ..

@[simp] theorem length_close (s : Store) (c : Nat) :
    (s.close c).connections.length = s.connections.length :=
  List.length_modify ..

theorem pool_beginTransaction (s : Store) (c : Nat) : (s.beginTransaction c).pool = s.pool := by
  unfold beginTransaction
  split
  · rfl
  · split <;> rfl

theorem length_beginTransaction (s : Store) (c : Nat) :
    (s.beginTransaction c).connections.length = s.connections.length := by
  unfold beginTransaction
  split
  · rfl
  · split
    · exact length_setDraft s c _
    · rfl

@[simp] theorem pool_write (s : Store) (c : Nat) (d : Database) : (s.write c d).pool = s.pool := by
  unfold write
  split <;> rfl

@[simp] theorem length_write (s : Store) (c : Nat) (d : Database) :
    (s.write c d).connections.length = s.connections.length := by
  unfold write
  split
  · rfl
  · exact List.length_modify ..

theorem pool_commit (s : Store) (c : Nat) : (s.commit c).pool = s.pool := by
  unfold commit
  split
  · rfl
  · split <;> rfl

theorem length_commit (s : Store) (c : Nat) :
    (s.commit c).connections.length = s.connections.length := by
  unfold commit
  split
  · rfl
  · split
    · rfl
    · exact length_setDraft s c none

theorem pool_makeDirectory {r : Except Fault Unit} (h : Visit.makeDirectory s = (t, r)) :
    t.pool = s.pool ∧ t.connections = s.connections := by
  unfold Visit.makeDirectory at h
  split at h
  · cases h
    exact ⟨rfl, rfl⟩
  · split at h
    · cases h
      exact ⟨rfl, rfl⟩
    · cases h
      exact ⟨rfl, rfl⟩

end Store

end CharacterLedger.Storage
