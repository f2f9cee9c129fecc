import CharacterLedger.Proofs.Storage.Place

/-!
# Stores at rest

Before any visit begins, and after all of them have ended, nothing is in anybody's hands.  From such
a store everything that the modules before have stated one by one holds after any moves:

* `Orderly` — what is true of a store between the steps of its visits;
* `Store.AtRest`, `Store.OneDatabase` — a store that no visit has begun on, and that has one
  database;
* `orderly_of_atRest`, `place_of_oneDatabase` — such a store is in order;
* `Store.atRest_of_fresh` — a store whose pool has never been opened is at rest.
-/

namespace CharacterLedger.Storage

open CharacterLedger.Table

/-- What is true of a store between the steps of its visits. -/
structure Orderly (s : Store) (visits : Nat → Option Visiting) : Prop where
  slots : Slots s visits
  drafts : Drafts s visits
  openings : Openings s.pool visits

namespace Orderly

variable {me : Nat} {p : Purpose} {s t : Store} {visits visits' : Nat → Option Visiting}

theorem began (h : Orderly s visits) (hbegan : Visiting.Began me visits visits') :
    Orderly s visits' :=
  ⟨h.slots.began hbegan, h.drafts.began hbegan, h.openings.began hbegan⟩

theorem moves (h : Orderly s visits) {phase : Phase p.Answer} {next : Progress p.Answer}
    (hmove : Visit.Moves me p s phase t next)
    (hmoved : Visiting.Moved me phase next visits visits') : Orderly t visits' :=
  ⟨h.slots.moves hmove hmoved, h.drafts.moves h.slots hmove hmoved,
    h.openings.moves h.slots hmove hmoved⟩

/-- No transaction is open on a connection that is at hand. -/
theorem draft_of_atHand (h : Orderly s visits) {c : Nat} {k : Connection}
    (hc : c ∈ s.pool.atHand) (hk : s.connection? c = some k) : k.draft = none := by
  cases hd : k.draft with
  | none => rfl
  | some d =>
    obtain ⟨id, hid⟩ := h.drafts.owned c k hk (by simp [hd])
    have hheld : c ∈ Visiting.held? (visits id) := by
      rw [Visiting.mem_held_of_transaction? hid]
      exact List.mem_singleton.2 rfl
    exact absurd hc (h.slots.not_mem_atHand hheld)

end Orderly

theorem Place.began {me : Nat} {s : Store} {visits visits' : Nat → Option Visiting}
    (h : Place s visits) (hbegan : Visiting.Began me visits visits') : Place s visits' := by
  cases h with
  | onFile h => exact .onFile h
  | inMemory h =>
    refine .inMemory { h with first := ?_, kept := ?_ }
    · intro id m hm
      rw [Visiting.Began.yields (fun _ => rfl) hbegan] at hm
      exact h.first id m hm
    · intro id
      rw [Visiting.Began.yields (fun _ => rfl) hbegan]
      exact h.kept id

/-! ### At rest -/

namespace Store

variable {s : Store}

/-- A store that no visit has begun on: nobody opens the pool, no transaction is unfinished, and the
connections of an open pool are all at hand. -/
structure AtRest (s : Store) : Prop where
  opening : s.pool.opening = []
  drafts : ∀ c k, s.connection? c = some k → k.draft = none
  once : s.pool.atHand.Nodup
  made : ∀ c, c ∈ s.pool.atHand → c < s.connections.length
  shut : s.pool.current = none → s.pool.tracked = []
  installed : ∀ q, s.pool.current = some q → q < s.pool.queues.length
  atHand : ∀ q, s.pool.current = some q → ∀ c, c ∈ s.pool.tracked ↔ c ∈ s.pool.queue q

/-- A store of which all open connections lead to the file of its pool. -/
structure OneDatabase (s : Store) : Prop where
  shared : s.pool.location.IsShared
  named : ∀ id, s.file? = some id → id < s.disk.files.length
  connected : ∀ c k, s.connection? c = some k → k.isOpen = true → s.file? = some k.file
  /-- In memory there is one connection, which is lost with all there is when it is closed. -/
  alone : s.pool.location = .memory → s.pool.size = 1 ∧ s.pool.tracked.length ≤ 1 ∧
    (∀ c, c ∈ s.pool.tracked → c < s.connections.length) ∧
    (∀ c k, s.connection? c = some k → k.isOpen = true → s.pool.tracked = [c]) ∧
    (s.pool.current = none → s.rows = [])

theorem AtRest.orderly (h : AtRest s) : Orderly s fun _ => none := by
  refine ⟨⟨?_, ?_, ?_⟩, ⟨?_, ?_, ?_, ?_⟩, ⟨?_, ?_, ?_, ?_, ?_, ?_, h.installed, ?_⟩⟩
  · intro id c
    exact List.nodup_iff_count.1 h.once c
  · intro id other c hc
    cases hc
  · intro id c hc
    exact h.made c (List.count_pos_iff.1 hc)
  · intro c k hk hd
    exact absurd (h.drafts c k hk) hd
  · intro c k hk _
    exact h.drafts c k hk
  · intro id p c k hc
    obtain ⟨q, hq⟩ := hc.phase
    cases hq
  · intro id id' p p' c c' k k' hc
    obtain ⟨q, hq⟩ := hc.phase
    cases hq
  · intro id
    rw [h.opening]
    exact ⟨(fun hm => nomatch hm), (fun hm => nomatch hm)⟩
  · rw [h.opening]
    exact List.nodup_nil
  · intro id hid
    cases hid
  · intro id m hm
    cases hm
  · intro hclosed _
    exact h.shut hclosed
  · intro id q hq
    cases hq
  · intro q hq c
    rw [h.atHand q hq c]
    refine ⟨.inl, ?_⟩
    rintro (hc | ⟨id, hid⟩)
    · exact hc
    · cases hid

theorem OneDatabase.place (h : OneDatabase s) : Place s fun _ => none := by
  have hshared := h.shared
  cases hl : s.pool.location with
  | memory =>
    obtain ⟨hsize, hsingle, hfound, htracked, hblank⟩ := h.alone hl
    refine .inMemory ⟨hl, hsize, hsingle, hfound, htracked, h.named, ?_, fun _ => rfl, hblank⟩
    intro id m hm
    cases hm
  | file path =>
    rw [hl] at hshared
    exact .onFile ⟨hl, hshared, h.named, h.connected⟩

/-- A store whose pool has never been opened is at rest. -/
theorem atRest_of_fresh {disk : Disk} {location : Location} {size : Int} :
    AtRest ⟨disk, [], .make location size⟩ := by
  refine ⟨rfl, ?_, List.nodup_nil, ?_, fun _ => rfl, ?_, ?_⟩
  · intro c k hk
    cases hk
  · intro c hc
    cases hc
  · intro q hq
    cases hq
  · intro q hq
    cases hq

/-- Before the pool is opened there is one database, if the location leads to one. -/
theorem oneDatabase_of_fresh {disk : Disk} {location : Location} {size : Int}
    (hshared : location.IsShared)
    (hnamed : ∀ path id, disk.fileAt? path = some id → id < disk.files.length) :
    OneDatabase ⟨disk, [], .make location size⟩ := by
  refine ⟨hshared, ?_, ?_, ?_⟩
  · intro id hid
    cases location with
    | memory => cases hid
    | file path =>
      obtain ⟨target, -, htarget⟩ := Option.bind_eq_some_iff.1 hid
      exact hnamed target id htarget
  · intro c k hk
    cases hk
  · rintro rfl
    refine ⟨rfl, Nat.zero_le 1, ?_, ?_, fun _ => rfl⟩
    · intro c hc
      cases hc
    · intro c k hk
      cases hk

end Store

end CharacterLedger.Storage
