import CharacterLedger.Proofs.Storage.Slots
import CharacterLedger.Storage.Closing

/-!
# Closing the pool

Whoever closes the pool takes one tracked connection after the other from it, and forgets the queue
when there is none left.  It touches no queue and nothing that a visit has in its hands.

* `Closes` — what a step of closing does to the store;
* `Closes.spec`, `Closes.location`, `Closes.slots` — what it leaves alone.
-/

namespace CharacterLedger.Storage

/-- The store once the connection that a task is closing, if any, is closed. -/
def Store.closeTaken (s : Store) : Option Nat → Store
  | some c => s.close c
  | none => s

/-- A step of closing the pool, and the connection that is taken for the next step. -/
inductive Closes (s : Store) : Store → Option Nat → Prop
  | one {c : Nat} (last : s.pool.tracked.getLast? = some c) :
      Closes s (s.withPool s.pool.untrackLast) (some c)
  | all (empty : s.pool.tracked = []) : Closes s (s.withPool s.pool.shut) none

namespace Closes

variable {s t : Store} {taken next : Option Nat}

/-- Closing makes no connection and keeps all queues, though none may be in use any more. -/
theorem spec (h : Closes (s.closeTaken taken) t next) :
    t.pool.queues = s.pool.queues ∧ t.pool.size = s.pool.size ∧
      t.connections.length = s.connections.length ∧
      (t.pool.current = s.pool.current ∨ t.pool.current = none) := by
  cases taken with
  | none =>
    cases h with
    | one => exact ⟨rfl, rfl, rfl, .inl rfl⟩
    | all => exact ⟨rfl, rfl, rfl, .inr rfl⟩
  | some c =>
    cases h with
    | one => exact ⟨rfl, rfl, Store.length_close s c, .inl rfl⟩
    | all => exact ⟨rfl, rfl, Store.length_close s c, .inr rfl⟩

/-- The pool stays where it is. -/
theorem location (h : Closes (s.closeTaken taken) t next) :
    t.pool.location = s.pool.location := by
  cases taken <;> cases h <;> rfl

/-- Closing puts no connection into two places. -/
theorem slots (h : Closes (s.closeTaken taken) t next) {visits : Nat → Option Visiting}
    (hslots : Slots s visits) : Slots t visits := by
  obtain ⟨hqueues, -, hlength, -⟩ := h.spec
  have hatHand : t.pool.atHand = s.pool.atHand := congrArg List.flatten hqueues
  refine ⟨?_, hslots.alone, ?_⟩
  · intro id c
    rw [hatHand]
    exact hslots.once id c
  · intro id c
    rw [hatHand, hlength]
    exact hslots.made id c

end Closes

end CharacterLedger.Storage
