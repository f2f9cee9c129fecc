import CharacterLedger.Proofs.Storage.Closing
import CharacterLedger.Proofs.Storage.Place

/-!
# Tracked connections

Closing the pool reaches the connections that are tracked.  A new connection is tracked from the
start, and one that is no longer tracked has been closed or is being closed, unless it was still
open when a visit put another in its place.

* `TracksOnce` — no connection is tracked twice, and every tracked one has been made;
* `Moves.tracked_of_isOpen`, `Closes.tracked_of_isOpen` — how an open connection can be out of reach
  after a step;
* `Moves.of_mem_tracked`, `Closes.of_mem_tracked` — how a connection can come to be tracked;
* `Moves.of_isOpening` — what is tracked when an opening ends.
-/

namespace CharacterLedger.Storage

/-- No connection is tracked twice, and every tracked one has been made. -/
structure TracksOnce (s : Store) : Prop where
  nodup : s.pool.tracked.Nodup
  made : ∀ c, c ∈ s.pool.tracked → c < s.connections.length

namespace Pool

@[simp] theorem mem_tracked_retrack {p : Pool} {old new c : Nat} :
    c ∈ (p.retrack old new).tracked ↔ (c ∈ p.tracked ∧ c ≠ old) ∨ c = new := by
  simp [retrack]

/-- A tracked connection other than the last one is still tracked without the last one. -/
theorem mem_tracked_untrackLast {p : Pool} {c last : Nat} (hc : c ∈ p.tracked)
    (hlast : p.tracked.getLast? = some last) (hne : c ≠ last) : c ∈ p.untrackLast.tracked := by
  obtain ⟨front, hfront⟩ := List.getLast?_eq_some_iff.1 hlast
  show c ∈ p.tracked.dropLast
  rw [hfront] at hc ⊢
  rw [List.dropLast_concat]
  obtain hc | hc := List.mem_append.1 hc
  · exact hc
  · exact absurd (List.mem_singleton.1 hc) hne

end Pool

namespace Visit

variable {me : Nat} {p : Purpose} {s t : Store} {phase : Phase p.Answer}
  {next : Progress p.Answer}

/-- A visit goes on with the connection that it has put in the place of another, and makes none if
it cannot. -/
theorem Moves.replacing {q c : Nat} (h : Moves me p s (.replacing q c) t next) :
    (∃ new, next = .going (.working q new)) ∨ t.connections.length = s.connections.length := by
  cases h with
  | @replace _ _ new => exact .inl ⟨new, rfl⟩
  | replaceFails => exact .inr rfl

theorem length_of_connect {u : Store} {c : Nat} (made : s.connect = .ok (u, c))
    (same : u.Matches t) : c = s.connections.length ∧
      t.connections.length = s.connections.length + 1 := by
  obtain ⟨hc, -, k, hconn, -⟩ := Store.connect_eq_ok made
  refine ⟨hc, same.length.trans ?_⟩
  rw [hconn, List.length_append, List.length_singleton]

/-- A move tracks no connection twice. -/
theorem Moves.tracksOnce (h : Moves me p s phase t next) (hs : TracksOnce s) : TracksOnce t := by
  have hfresh : s.connections.length ∉ s.pool.tracked := fun hc => Nat.lt_irrefl _ (hs.made _ hc)
  cases h.tracking.2.2 with
  | same tracked length =>
    refine ⟨tracked ▸ hs.nodup, ?_⟩
    rw [tracked, length]
    exact hs.made
  | grown _ made same tracked =>
    obtain ⟨rfl, hlength⟩ := length_of_connect made same
    refine ⟨?_, ?_⟩
    · rw [tracked]
      refine List.nodup_append.2 ⟨hs.nodup, List.pairwise_singleton _ _, ?_⟩
      rintro c hc _ hnew rfl
      exact hfresh (List.mem_singleton.1 hnew ▸ hc)
    · intro c hc
      rw [tracked, List.mem_append, List.mem_singleton] at hc
      obtain hc | hc := hc
      · have := hs.made c hc
        omega
      · omega
  | shrunk _ _ same =>
    subst same
    refine ⟨hs.nodup.sublist (List.dropLast_sublist _), ?_⟩
    intro c hc
    show c < (s.close _).connections.length
    rw [Store.length_close]
    exact hs.made c ((List.dropLast_subset _ hc))
  | changed _ made same tracked =>
    obtain ⟨rfl, hlength⟩ := length_of_connect made same
    refine ⟨?_, ?_⟩
    · rw [tracked]
      refine List.nodup_append.2 ⟨hs.nodup.filter _, List.pairwise_singleton _ _, ?_⟩
      rintro c hc _ hnew rfl
      exact hfresh (List.mem_singleton.1 hnew ▸ (List.mem_filter.1 hc).1)
    · intro c hc
      rw [tracked, Pool.mem_tracked_retrack] at hc
      obtain ⟨hc, -⟩ | hc := hc
      · have := hs.made c hc
        omega
      · omega

/-- An open connection after a move was open before, or it is new. -/
theorem Effect.isOpen (h : Effect p s phase t next) {c : Nat} (hopen : t.isOpen c = true) :
    s.isOpen c = true ∨ c = s.connections.length := by
  obtain ⟨k', hk', hopen⟩ := (Store.isOpen_eq_true_iff t c).1 hopen
  cases h.fate hk' with
  | kept found _ same | settled found _ same =>
    exact .inl ((Store.isOpen_eq_true_iff s c).2 ⟨_, found, same ▸ hopen⟩)
  | closed _ _ isClosed =>
    rw [isClosed] at hopen
    cases hopen
  | new _ _ number => exact .inr number
  | begun found _ wasOpen => exact .inl ((Store.isOpen_eq_true_iff s c).2 ⟨_, found, wasOpen⟩)

theorem lt_of_isOpen {c : Nat} (hopen : s.isOpen c = true) : c < s.connections.length := by
  obtain ⟨k, hk, -⟩ := (Store.isOpen_eq_true_iff s c).1 hopen
  exact Store.lt_length_of_connection? hk

/-- **A move puts an open connection out of reach only by putting another in its place.** -/
theorem Moves.tracked_of_isOpen (h : Moves me p s phase t next) {c : Nat}
    (hopen : t.isOpen c = true) : c ∈ t.pool.tracked ∨
      s.isOpen c = true ∧ (c ∉ s.pool.tracked ∨
        ∃ q new, phase = .replacing q c ∧ next = .going (.working q new)) := by
  have hlt := lt_of_isOpen hopen
  have hbefore := h.effect.isOpen hopen
  cases h.tracking.2.2 with
  | same tracked length =>
    have hwas : s.isOpen c = true := hbefore.resolve_right (by omega)
    by_cases hc : c ∈ s.pool.tracked
    · exact .inl (tracked ▸ hc)
    · exact .inr ⟨hwas, .inl hc⟩
  | grown _ made same tracked =>
    obtain ⟨rfl, -⟩ := length_of_connect made same
    rw [tracked, List.mem_append, List.mem_singleton]
    obtain hwas | hnew := hbefore
    · by_cases hc : c ∈ s.pool.tracked
      · exact .inl (.inl hc)
      · exact .inr ⟨hwas, .inl hc⟩
    · exact .inl (.inr hnew)
  | @shrunk _ last _ hlast same =>
    subst same
    have hwas : (s.close last).isOpen c = true := hopen
    have hne : c ≠ last := by
      rintro rfl
      rw [Store.isOpen_close_self] at hwas
      cases hwas
    rw [Store.isOpen_close_of_ne s hne] at hwas
    by_cases hc : c ∈ s.pool.tracked
    · exact .inl (Pool.mem_tracked_untrackLast hc hlast hne)
    · exact .inr ⟨hwas, .inl hc⟩
  | @changed q old new _ hphase made same tracked =>
    obtain ⟨hnumber, hlength⟩ := length_of_connect made same
    rw [tracked, Pool.mem_tracked_retrack]
    obtain hwas | hnew := hbefore
    · by_cases hc : c ∈ s.pool.tracked
      · by_cases hold : c = old
        · subst hold
          subst hphase
          obtain ⟨new', hnext⟩ | hsame := h.replacing
          · exact .inr ⟨hwas, .inr ⟨q, new', rfl, hnext⟩⟩
          · omega
        · exact .inl (.inl ⟨hc, hold⟩)
      · exact .inr ⟨hwas, .inl hc⟩
    · exact .inl (.inr (hnew.trans hnumber.symm))

/-- A connection comes to be tracked when the pool is opened, or in the place of another. -/
theorem Moves.of_mem_tracked (h : Moves me p s phase t next) {c : Nat}
    (hc : c ∈ t.pool.tracked) : c ∈ s.pool.tracked ∨ phase.isOpening = true ∨
      ∃ q old, phase = .replacing q old ∧ next = .going (.working q c) := by
  cases h.tracking.2.2 with
  | same tracked => exact .inl (tracked ▸ hc)
  | grown phase => exact .inr (.inl (by rw [phase]; rfl))
  | shrunk phase => exact .inr (.inl (by rw [phase]; rfl))
  | @changed q old new _ hphase made same tracked =>
    obtain ⟨hnumber, hlength⟩ := length_of_connect made same
    rw [tracked, Pool.mem_tracked_retrack] at hc
    obtain ⟨hc, -⟩ | rfl := hc
    · exact .inl hc
    · subst hphase
      cases h with
      | replace made' =>
        obtain ⟨hnumber', -⟩ := Store.connect_eq_ok made'
        exact .inr (.inr ⟨q, old, rfl, by rw [hnumber, hnumber']⟩)
      | replaceFails =>
        have : s.connections.length = s.connections.length + 1 := hlength
        omega

/-- A visit that opens the pool goes on with it, or has opened it, or has closed all it has made. -/
theorem Moves.of_isOpening (h : Moves me p s phase t next) (hopening : phase.isOpening = true) :
    next.isOpening = true ∨ t.pool.current ≠ none ∨ t.pool.tracked = [] := by
  have hcounts : ∀ {u : Store} {made : List Nat} {c : Nat}, CountsIn p u made c t next →
      next.isOpening = true ∨ t.pool.current ≠ none ∨ t.pool.tracked = [] := by
    intro u made c counts
    cases counts with
    | last => exact .inr (.inl nofun)
    | more => exact .inl rfl
  cases h with
  | connectFirst | connectFails | preparingFails | abandonOne => exact .inl rfl
  | connectNext _ _ counts | prepared _ counts | setUp _ _ _ counts => exact hcounts counts
  | abandoned none => exact .inr (.inr none)
  | _ => cases hopening

end Visit

@[simp] theorem Store.pool_closeTaken (s : Store) (taken : Option Nat) :
    (s.closeTaken taken).pool = s.pool := by
  cases taken <;> rfl

/-- The connection that was taken is closed, and no other. -/
theorem Store.isOpen_closeTaken {s : Store} {taken : Option Nat} {c : Nat}
    (hopen : (s.closeTaken taken).isOpen c = true) : s.isOpen c = true ∧ taken ≠ some c := by
  cases taken with
  | none => exact ⟨hopen, nofun⟩
  | some d =>
    have hne : c ≠ d := by
      rintro rfl
      rw [Store.closeTaken, Store.isOpen_close_self] at hopen
      cases hopen
    rw [Store.closeTaken, Store.isOpen_close_of_ne s hne] at hopen
    exact ⟨hopen, fun heq => hne (Option.some.inj heq).symm⟩

namespace Closes

variable {s t : Store} {taken next : Option Nat}

/-- What becomes of the tracked connections in a step of closing. -/
theorem tracked (h : Closes (s.closeTaken taken) t next) :
    (∃ last, s.pool.tracked.getLast? = some last ∧ next = some last ∧
      t.pool.tracked = s.pool.untrackLast.tracked ∧ t.pool.current = s.pool.current) ∨
    s.pool.tracked = [] ∧ t.pool.tracked = [] := by
  rw [← s.pool_closeTaken taken]
  cases h with
  | one last => exact .inl ⟨_, last, rfl, rfl, rfl⟩
  | all empty => exact .inr ⟨empty, empty⟩

/-- Closing tracks nothing new. -/
theorem of_mem_tracked (h : Closes (s.closeTaken taken) t next) {c : Nat}
    (hc : c ∈ t.pool.tracked) : c ∈ s.pool.tracked := by
  obtain ⟨last, -, -, hrest, -⟩ | ⟨-, hnone⟩ := h.tracked
  · rw [hrest] at hc
    exact List.dropLast_subset _ hc
  · rw [hnone] at hc
    cases hc

theorem tracksOnce (h : Closes (s.closeTaken taken) t next) (hs : TracksOnce s) :
    TracksOnce t := by
  refine ⟨?_, fun c hc => h.spec.2.2.1 ▸ hs.made c (h.of_mem_tracked hc)⟩
  obtain ⟨last, -, -, hrest, -⟩ | ⟨-, hnone⟩ := h.tracked
  · rw [hrest]
    exact hs.nodup.sublist (List.dropLast_sublist _)
  · rw [hnone]
    exact List.nodup_nil

/-- **An open connection that closing has let go of is the next to be closed**, or it was out of
reach before. -/
theorem tracked_of_isOpen (h : Closes (s.closeTaken taken) t next) {c : Nat}
    (hopen : t.isOpen c = true) : c ∈ t.pool.tracked ∨ next = some c ∨
      s.isOpen c = true ∧ c ∉ s.pool.tracked ∧ taken ≠ some c := by
  have hconnections : t.isOpen c = (s.closeTaken taken).isOpen c := by
    cases h with
    | one | all => rfl
  rw [hconnections] at hopen
  obtain ⟨hwas, htaken⟩ := Store.isOpen_closeTaken hopen
  by_cases hc : c ∈ s.pool.tracked
  · obtain ⟨last, hlast, rfl, hrest, -⟩ | ⟨hnone, -⟩ := h.tracked
    · by_cases hne : c = last
      · exact .inr (.inl (congrArg some hne.symm))
      · rw [hrest]
        exact .inl (Pool.mem_tracked_untrackLast hc hlast hne)
    · rw [hnone] at hc
      cases hc
  · exact .inr (.inr ⟨hwas, hc, htaken⟩)

end Closes

end CharacterLedger.Storage
