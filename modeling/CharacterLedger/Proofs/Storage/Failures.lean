import CharacterLedger.Proofs.Storage.Rest

/-!
# Where visits fail

A visit fails when a wait expires, when the database fails, and when a statement or a connection is
refused.  It may end with the failure at once; or it takes back its transaction first, or closes the
connections of a pool that it could not open.  From there it can only end with the failure.

* `Visit.FailsAt` — the points at which a visit can fail;
* `Progress.isWrong`, `Phase.isWrong` — a visit has failed, or is going to;
* `Visit.isWrong_of_failsAt` — a failure at any of the points makes the visit fail;
* `Visit.Moves.isWrong` — a visit that is going to fail does not succeed any more;
* `Visit.goes_on_of_isWrong` — it can always go on, and comes to its end.
-/

namespace CharacterLedger.Storage

open CharacterLedger.Table

namespace Phase

variable {α : Type}

/-- Whether a visit is going to end with a failure. -/
def isWrong : Phase α → Bool
  | abandoning _ | undoing .. => true
  | _ => false

/-- Whether a visit looks whether its connection is sound. -/
def isChecking : Phase α → Bool
  | checking .. => true
  | _ => false

end Phase

/-- Whether a visit has ended with a failure, or is going to. -/
def Progress.isWrong {α : Type} : Progress α → Bool
  | .going phase => phase.isWrong
  | .ended (.error _) => true
  | .ended (.ok _) => false

namespace Visit

/-- The points at which a visit fails, and by which choice. -/
inductive FailsAt (me : Nat) (s : Store) : (p : Purpose) → Phase p.Answer → Choice → Prop
  /-- A wait expires. -/
  | expires {p : Purpose} {phase : Phase p.Answer} : FailsAt me s p phase .expire
  /-- The database fails.  A connection that is only looked at is replaced then. -/
  | strikes {p : Purpose} {phase : Phase p.Answer} {f : Fault} (uses : phase.isChecking = false) :
      FailsAt me s p phase (.fail f)
  /-- There is no directory for the file of the pool. -/
  | noDirectory {p : Purpose} {f : Fault} (isClosed : s.pool.current = none)
      (alone : s.pool.opening = [])
      (fails : (makeDirectory (s.withPool (s.pool.join me))).2 = .error f) :
      FailsAt me s p .entering .go
  | noDirectoryLater {p : Purpose} {f : Fault} (isClosed : s.pool.current = none)
      (fails : (makeDirectory s).2 = .error f) : FailsAt me s p .awaitingOpening .go
  /-- No connection can be made. -/
  | unconnected {p : Purpose} {made : List Nat} {f : Fault} (fails : s.connect = .error f) :
      FailsAt me s p (.connecting made) .go
  | notReplaced {p : Purpose} {q c : Nat} {f : Fault} (fails : s.connect = .error f) :
      FailsAt me s p (.replacing q c) .go
  /-- The version of the database cannot be read. -/
  | unprepared {p : Purpose} {c : Nat} {f : Fault}
      (fails : (s.ask c .version (.ok ()) fun d => .ok d.version).2 = .error f) :
      FailsAt me s p (.preparing c) .go
  /-- The database cannot be set up. -/
  | notSetUp {p : Purpose} {c : Nat} {t : Store} {version : Int} {f : Fault}
      (asked : s.ask c .version (.ok ()) (fun d => .ok d.version) = (t, .ok version))
      (writes : setUpWrites version = true)
      (fails : (t.alter c .setUp (.ok ()) fun d => .ok d.setUp).2 = .error f) :
      FailsAt me s p (.preparing c) .go
  /-- A question is refused. -/
  | unanswered {question : Question} {q c : Nat} {f : Fault}
      (fails : (s.ask c question.statement question.bound question.ask).2 = .error f) :
      FailsAt me s (.borrow (.ask question)) (.working q c) .go
  /-- A record is refused. -/
  | refused {character : Character} {q c : Nat} {f : Fault}
      (fails : (s.alter c .save (.ok ()) fun d => d.upsert character).2 = .error f) :
      FailsAt me s (.borrow (.save character)) (.working q c) .go
  /-- A transaction is gone with its connection. -/
  | lost {character : Character} {q c : Nat} (isClosed : s.isOpen c = false) :
      FailsAt me s (.borrow (.save character)) (.committing q c) .go

variable {me : Nat} {p : Purpose} {s t : Store} {phase : Phase p.Answer} {next : Progress p.Answer}

/-- When a wait expires, the visit fails. -/
theorem isWrong_of_expire {st : Step p.Answer} (h : expire p s phase = some st) :
    st.progress.isWrong = true := by
  cases phase with
  | awaiting q =>
    cases h
    rfl
  | preparing c =>
    simp only [expire, Option.ite_none_right_eq_some, Option.some.injEq] at h
    obtain ⟨-, rfl⟩ := h
    rfl
  | working q c =>
    cases p with
    | openPool => cases h
    | borrow e =>
      cases e with
      | save | change =>
        simp only [expire, onErrand, workExpired, Option.ite_none_right_eq_some,
          Option.some.injEq] at h
        obtain ⟨-, rfl⟩ := h
        rfl
      | ask | breakConnection | keep => cases h
  | entering | awaitingOpening | connecting | abandoning | checking | replacing | committing
  | undoing | returning => cases h

/-- When the database fails, the visit fails. -/
theorem isWrong_of_fail {f : Fault} {st : Step p.Answer} (h : fail me p s f phase = some st)
    (huses : phase.isChecking = false) : st.progress.isWrong = true := by
  cases phase with
  | entering | awaitingOpening | connecting | preparing | replacing | committing =>
    simp only [fail, Option.ite_none_right_eq_some, Option.some.injEq] at h
    obtain ⟨-, rfl⟩ := h
    rfl
  | checking => cases huses
  | working q c =>
    simp only [fail, Option.ite_none_right_eq_some] at h
    obtain ⟨-, h⟩ := h
    cases p with
    | openPool => cases h
    | borrow e =>
      cases e with
      | ask | save | change =>
        cases h
        rfl
      | breakConnection | keep => cases h
  | abandoning | awaiting | undoing | returning => cases h

theorem isWrong_of_beginOpening {f : Fault} (h : (makeDirectory s).2 = .error f) :
    (beginOpening p s).progress.isWrong = true := by
  unfold beginOpening
  rcases hmade : makeDirectory s with ⟨t, r⟩
  rw [hmade] at h
  cases h
  rfl

/-- **A failure at any of the points makes the visit fail.** -/
theorem isWrong_of_failsAt {choice : Choice} {st : Step p.Answer}
    (hfails : FailsAt me s p phase choice) (h : step me p choice phase s = some st) :
    st.progress.isWrong = true := by
  cases hfails with
  | expires => exact isWrong_of_expire h
  | strikes huses => exact isWrong_of_fail h huses
  | noDirectory isClosed alone fails =>
    simp only [step, go, enter, isClosed, alone, List.isEmpty_nil, if_true, Option.some.injEq] at h
    rw [← h]
    exact isWrong_of_beginOpening fails
  | noDirectoryLater isClosed fails =>
    simp only [step, go, takeTurn, isClosed, Option.ite_none_right_eq_some, Option.some.injEq] at h
    rw [← h.2]
    exact isWrong_of_beginOpening fails
  | unconnected fails =>
    simp only [step, go, connectNext, fails, Option.some.injEq] at h
    rw [← h]
    rfl
  | notReplaced fails =>
    simp only [step, go, fails, Option.some.injEq] at h
    rw [← h]
    rfl
  | @unprepared p c f fails =>
    simp only [step, go, prepare] at h
    rcases hask : s.ask c .version (.ok ()) (fun d => .ok d.version) with ⟨t, r⟩
    rw [hask] at fails h
    cases fails
    cases h
    rfl
  | @notSetUp p c t version f asked writes fails =>
    simp only [step, go, prepare, asked, writes, Bool.not_true, Bool.false_eq_true, if_false,
      Option.ite_none_left_eq_some] at h
    obtain ⟨-, h⟩ := h
    rcases halter : t.alter c .setUp (.ok ()) (fun d => .ok d.setUp) with ⟨u, r⟩
    rw [halter] at fails h
    cases fails
    cases h
    rfl
  | @unanswered question q c f fails =>
    simp only [step, go, onErrand, work] at h
    rcases hask : s.ask c question.statement question.bound question.ask with ⟨t, r⟩
    rw [hask] at fails h
    cases fails
    cases h
    rfl
  | @refused character q c f fails =>
    simp only [step, go, onErrand, work, workOnSave, Option.ite_none_left_eq_some] at h
    obtain ⟨-, h⟩ := h
    rcases halter : s.alter c .save (.ok ()) (fun d => d.upsert character) with ⟨t, r⟩
    rw [halter] at fails h
    cases fails
    dsimp only at h
    split at h <;> cases h <;> rfl
  | lost isClosed =>
    simp only [step, go, onErrand, endTransaction, isClosed, Bool.false_eq_true, if_false,
      Option.some.injEq] at h
    rw [← h]
    rfl

/-- **A visit that is going to fail does not succeed any more.** -/
theorem Moves.isWrong (h : Moves me p s phase t next) (hwrong : phase.isWrong = true) :
    next.isWrong = true := by
  cases h with
  | abandonOne | abandoned | undo | undoLost => rfl
  | _ => cases hwrong

/-- **A visit that is going to fail can always go on.**  It has ended after one step, or has fewer
connections left to close. -/
theorem goes_on_of_isWrong (me : Nat) (s : Store) (hwrong : phase.isWrong = true)
    (htransaction : phase.transaction? ≠ none → p.IsTransaction) :
    ∃ st, step me p .go phase s = some st ∧ ((∃ failure, st.progress = .ended (.error failure)) ∨
      (∃ f, st.progress = .going (.abandoning f)) ∧
        st.store.pool.tracked.length < s.pool.tracked.length) := by
  cases phase with
  | abandoning f =>
    simp only [step, go]
    cases hlast : s.pool.tracked.getLast? with
    | none => exact ⟨_, rfl, .inl ⟨_, rfl⟩⟩
    | some c =>
      refine ⟨_, rfl, .inr ⟨⟨f, rfl⟩, ?_⟩⟩
      have hne : s.pool.tracked ≠ [] := by
        intro hnil
        rw [hnil] at hlast
        cases hlast
      have := List.length_pos_iff.2 hne
      show s.pool.tracked.dropLast.length < s.pool.tracked.length
      rw [List.length_dropLast]
      omega
  | undoing q c f =>
    have hsaving := htransaction (by simp [Phase.transaction?])
    cases p with
    | openPool => exact hsaving.elim
    | borrow e =>
      cases e with
      | save | change =>
        simp only [step, go, onErrand, undo]
        split
        · exact ⟨_, rfl, .inl ⟨_, rfl⟩⟩
        · exact ⟨_, rfl, .inl ⟨_, rfl⟩⟩
      | ask | breakConnection | keep => exact hsaving.elim
  | _ => cases hwrong

end Visit

end CharacterLedger.Storage
