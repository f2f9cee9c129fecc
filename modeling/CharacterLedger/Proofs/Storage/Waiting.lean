import CharacterLedger.Proofs.Storage.Faults
import CharacterLedger.Proofs.Storage.Lending

/-!
# What visits wait for

A visit to the pool waits for three things only: for its turn in the line to open the pool, for a
connection to come back to its queue, and for the transaction of another connection to its file to
end.  It needs them in this order, and whoever has one of them waits at most for a later one.  A
task waits for the lock of its character before all of them.

* `Need`, `Need.rank` — what can be waited for, and in which order it is needed;
* `Purpose.IsOrdinary` — visits to ask a question, to write a record or to open the pool;
* `Visiting.OnErrand` — only a visit for an errand comes to a queue, and only one for a transaction
  begins one, which every move keeps so;
* `Visit.Lacks` — a visit waits for something;
* `Visit.goes_or_lacks` — an ordinary visit waits for one of the three or can go on.
-/

namespace CharacterLedger.Storage

open CharacterLedger.Table

/-- What can be waited for. -/
inductive Need where
  /-- That the transaction of another connection to the same file ends. -/
  | transaction
  /-- That a connection comes back to a queue. -/
  | connection
  /-- The turn to open the pool. -/
  | turn
  /-- The lock of a character. -/
  | lock
deriving DecidableEq

/-- What is needed later has a lower rank. -/
def Need.rank : Need → Nat
  | transaction => 0
  | connection => 1
  | turn => 2
  | lock => 3

/-- A visit that borrows a connection for a question or to write a record, and so for no longer than
that takes, or one that only opens the pool. -/
def Purpose.IsOrdinary : Purpose → Prop
  | .borrow (.ask _) | .borrow (.save _) | .openPool => True
  | .borrow (.change _) | .borrow .breakConnection | .borrow .keep => False

/-! ### Visits with an errand -/

/-- A visit that waits at a queue or owes it a connection has an errand. -/
def Visiting.OnErrand (v : Option Visiting) : Prop :=
  ∀ p, ∀ phase : Phase p.Answer, v = some ⟨p, phase⟩ → phase.queue? ≠ none → p ≠ .openPool

namespace Visit

variable {me : Nat} {p : Purpose} {s t : Store} {phase next : Phase p.Answer}

theorem queue?_of_arrival {q : Nat} (h : arrival p q = .going next) : p ≠ .openPool := by
  rintro rfl
  cases h

theorem Begins.ne_openPool (h : Begins p s t (.going next)) (hqueue : next.queue? ≠ none) :
    p ≠ .openPool := by
  generalize hnext : Progress.going next = progress at h
  cases h with
  | refused => cases hnext
  | empty => exact queue?_of_arrival hnext.symm
  | going =>
    cases hnext
    exact absurd rfl hqueue

theorem CountsIn.ne_openPool {made : List Nat} {c : Nat} (h : CountsIn p s made c t (.going next))
    (hqueue : next.queue? ≠ none) : p ≠ .openPool := by
  generalize hnext : Progress.going next = progress at h
  cases h with
  | last => exact queue?_of_arrival hnext.symm
  | more =>
    cases hnext
    exact absurd rfl hqueue

/-- Only a visit with an errand comes to a queue. -/
theorem Moves.ne_openPool (h : Moves me p s phase t (.going next))
    (hbefore : phase.queue? ≠ none → p ≠ .openPool) (hqueue : next.queue? ≠ none) :
    p ≠ .openPool := by
  generalize hnext : Progress.going next = progress at h
  cases h with
  | arrive | arriveLater => exact queue?_of_arrival hnext.symm
  | beginFirst _ _ begins | beginLater _ _ begins =>
    subst hnext
    exact begins.ne_openPool hqueue
  | connectNext _ _ counts | prepared _ counts | setUp _ _ _ counts =>
    subst hnext
    exact counts.ne_openPool hqueue
  | lineUp | connectFirst | connectFails | preparingFails | abandonOne =>
    cases hnext
    exact absurd rfl hqueue
  | takeInMemory | takeToFile | sound | unsound | replace | answer | draft | writeAtOnce | strike
  | keptOut | commitFails => exact hbefore (by simp [Phase.queue?])
  | turnAway | turnAwayLater | abandoned | giveUp | replaceFails | refuse | letGo | breakOff
  | commit | commitLost | undo | undoLost | giveBack => cases hnext

end Visit

namespace Visiting

theorem onErrand_of_isIdle {v : Option Visiting} (h : IsIdle v) : OnErrand v := by
  intro p phase hvisit hqueue
  obtain rfl | ⟨p', rfl⟩ := h
  · cases hvisit
  · cases hvisit
    exact absurd rfl hqueue

theorem OnErrand.moves {me : Nat} {p : Purpose} {s t : Store} {phase : Phase p.Answer}
    {next : Progress p.Answer} {visits visits' : Nat → Option Visiting}
    (h : OnErrand (visits me)) (hmove : Visit.Moves me p s phase t next)
    (hmoved : Moved me phase next visits visits') : OnErrand (visits' me) := by
  have hfollows := hmoved.after
  cases next with
  | going next =>
    intro p' phase' hvisit hqueue
    rw [hvisit] at hfollows
    cases hfollows
    exact hmove.ne_openPool (h p phase hmoved.before) hqueue
  | ended => exact onErrand_of_isIdle hfollows

end Visiting

/-! ### Going on or waiting -/

namespace Visit

variable {me : Nat} {p : Purpose} {s : Store}

/-- A visit waits for something. -/
inductive Lacks (me : Nat) (s : Store) {α : Type} : Phase α → Need → Prop
  /-- Others are before it in the line to open the pool. -/
  | turn (others : s.pool.opening.head? ≠ some me) : Lacks me s .awaitingOpening .turn
  /-- There is no connection in its queue. -/
  | connection {q : Nat} (empty : s.pool.queue q = []) : Lacks me s (.awaiting q) .connection
  /-- Another connection to its file has a transaction. -/
  | transaction {phase : Phase α} {c : Nat} (used : phase.inUse? = some c)
      (before : phase.transaction? = none) (busy : s.isBusy c = true) :
      Lacks me s phase .transaction

/-- The database of a new pool can be set up unless another connection has a transaction. -/
theorem isSome_prepare {c : Nat} (hfree : s.isBusy c = false) : (prepare p s c).isSome = true := by
  have halike := (Store.ask_spec s c .version (.ok ()) fun d => .ok d.version).1
  unfold prepare
  rcases hask : s.ask c .version (.ok ()) (fun d => .ok d.version) with ⟨t, r⟩
  rw [hask] at halike
  rw [← halike.isBusy c] at hfree
  cases r with
  | error f => rfl
  | ok version =>
    simp only [hfree, Bool.false_eq_true, if_false]
    split
    · rfl
    · split <;> rfl

/-- A record can be written unless another connection has a transaction. -/
theorem isSome_workOnSave {character : Character} {q c : Nat} (hfree : s.isBusy c = false) :
    (workOnSave character s q c).isSome = true := by
  simp only [workOnSave, hfree, Bool.false_eq_true, if_false]
  split
  · split <;> rfl
  · rfl

/-- An ordinary visit that is working waits for a transaction or can go on. -/
theorem goes_or_lacks_working {q c : Nat} (hordinary : p.IsOrdinary) (hborrow : p ≠ .openPool) :
    (go me p s (.working q c)).isSome = true ∨
      ∃ n, Lacks me s (.working q c : Phase p.Answer) n := by
  cases p with
  | openPool => exact absurd rfl hborrow
  | borrow e =>
    cases e with
    | ask question =>
      refine .inl ?_
      simp only [go, onErrand, work]
      split <;> rfl
    | save character =>
      cases hbusy : s.isBusy c with
      | true => exact .inr ⟨_, .transaction rfl rfl hbusy⟩
      | false => exact .inl (isSome_workOnSave hbusy)
    | change | breakConnection | keep => exact hordinary.elim

/-- A transaction of an ordinary visit can be ended or taken back. -/
theorem goes_of_transaction? {phase : Phase p.Answer} {c : Nat} (hordinary : p.IsOrdinary)
    (hsaving : p.IsTransaction) (htransaction : phase.transaction? = some c) :
    (go me p s phase).isSome = true := by
  cases p with
  | openPool => exact hsaving.elim
  | borrow e =>
    cases e with
    | ask | breakConnection | keep => exact hsaving.elim
    | change => exact hordinary.elim
    | save character =>
      cases phase with
      | committing =>
        simp only [go, onErrand, endTransaction]
        split <;> rfl
      | undoing =>
        simp only [go, onErrand, undo]
        split <;> rfl
      | _ => cases htransaction

/-- **An ordinary visit can go on, unless it waits for one of three things.** -/
theorem goes_or_lacks (me : Nat) (s : Store) {phase : Phase p.Answer} (hordinary : p.IsOrdinary)
    (htransacts : Visiting.Transacts (some ⟨p, phase⟩))
    (herrand : Visiting.OnErrand (some ⟨p, phase⟩)) :
    (go me p s phase).isSome = true ∨ ∃ n, Lacks me s phase n := by
  cases phase with
  | entering | connecting | returning => exact .inl rfl
  | awaitingOpening =>
    by_cases hfirst : s.pool.opening.head? = some me
    · exact .inl (by simp [go, hfirst])
    · exact .inr ⟨_, .turn hfirst⟩
  | preparing c =>
    cases hbusy : s.isBusy c with
    | true => exact .inr ⟨_, .transaction rfl rfl hbusy⟩
    | false => exact .inl (isSome_prepare hbusy)
  | abandoning f =>
    refine .inl ?_
    simp only [go]
    split <;> rfl
  | awaiting q =>
    cases hqueue : s.pool.queue q with
    | nil => exact .inr ⟨_, .connection hqueue⟩
    | cons c rest => exact .inl (by simp [go, hqueue])
  | checking q c | replacing q c =>
    refine .inl ?_
    simp only [go]
    split <;> rfl
  | working q c =>
    exact goes_or_lacks_working hordinary (herrand p _ rfl (by simp [Phase.queue?]))
  | committing q c | undoing q c =>
    exact .inl (goes_of_transaction? hordinary (htransacts p _ rfl (by simp [Phase.transaction?]))
      rfl)

/-- A visit never waits for the lock of a character. -/
theorem Lacks.ne_lock {phase : Phase p.Answer} {n : Need} (h : Lacks me s phase n) :
    n ≠ .lock := by
  rintro rfl
  cases h

/-- Whoever has a connection of a queue waits at most for a transaction. -/
theorem Lacks.of_lender? {phase : Phase p.Answer} {n : Need} (h : Lacks me s phase n) {q : Nat}
    (hlender : phase.lender? = some q) : n = .transaction := by
  cases h with
  | turn | connection => cases hlender
  | transaction => rfl

/-- The first in the line to open the pool waits at most for a transaction. -/
theorem Lacks.of_isInLine {phase : Phase p.Answer} {n : Need} (h : Lacks me s phase n)
    (hline : phase.isInLine = true) (hfirst : s.pool.opening.head? = some me) :
    n = .transaction := by
  cases h with
  | turn others => exact absurd hfirst others
  | connection => cases hline
  | transaction => rfl

end Visit

end CharacterLedger.Storage
