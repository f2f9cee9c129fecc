import CharacterLedger.Storage.Closing
import CharacterLedger.Storage.Visit

/-!
# The notes of the pool

Whatever a visit notes on its way, it notes as the pool: nothing that a step of a visit leaves in the
log can be taken for a note of the ledger or of the commands.  The same holds for closing the pool.

* `OfPool` — all of some notes come from the pool;
* `Visit.ofPool_step`, `ofPool_closeRest` — the notes of a step of a visit, and of closing.
-/

namespace CharacterLedger.Storage

/-- All of these notes come from the pool. -/
def OfPool (notes : List Log.Note) : Prop := ∀ n ∈ notes, n.origin = .connection

theorem ofPool_nil : OfPool [] := nofun

theorem ofPool_one (level : Log.Level) (message : String) :
    OfPool [Visit.note level message] := by
  intro n hn
  rw [List.mem_singleton.mp hn]
  rfl

theorem OfPool.append {notes more : List Log.Note} (h : OfPool notes) (h' : OfPool more) :
    OfPool (notes ++ more) := by
  intro n hn
  obtain hn | hn := List.mem_append.mp hn
  · exact h n hn
  · exact h' n hn

namespace Visit

variable {α : Type} {p : Purpose} {s : Store}

theorem ofPool_giveBack (s : Store) (q c : Nat) (result : Except Failure α) :
    OfPool (giveBack s q c result).notes :=
  ofPool_one _ _

/-! ### Opening -/

theorem ofPool_withOpenPool {notes : List Log.Note} (h : OfPool notes) (q : Nat) :
    OfPool (withOpenPool p s q notes).notes := by
  cases p <;> exact h

theorem ofPool_finishOpening {notes : List Log.Note} (h : OfPool notes) (made : List Nat) :
    OfPool (finishOpening p s made notes).notes :=
  ofPool_withOpenPool (h.append (ofPool_one _ _)) _

theorem ofPool_countIn {notes : List Log.Note} (h : OfPool notes) (made : List Nat) (c : Nat) :
    OfPool (countIn p s made c notes).notes := by
  have hcounted := h.append (ofPool_one .debug ("Opened connection " ++
    toString (made ++ [c]).length ++ "/" ++ toString s.pool.size))
  unfold countIn
  dsimp only
  split
  · exact ofPool_finishOpening hcounted _
  · exact hcounted

theorem ofPool_beginOpening : OfPool (beginOpening p s).notes := by
  unfold beginOpening
  split
  · exact ofPool_nil
  · split
    · exact ofPool_finishOpening ofPool_nil _
    · exact ofPool_nil

theorem ofPool_connectNext (made : List Nat) : OfPool (connectNext p s made).notes := by
  unfold connectNext
  split
  · exact ofPool_one _ _
  · dsimp only
    split
    · exact ofPool_nil
    · exact ofPool_countIn ofPool_nil _ _

theorem ofPool_setUpNotes (version : Int) :
    OfPool (setUpNotes s version).1 ∧ OfPool (setUpNotes s version).2 := by
  unfold setUpNotes
  cases Table.Database.setUpFor version
  · exact ⟨ofPool_one _ _, ofPool_one _ _⟩
  · exact ⟨ofPool_one _ _, ofPool_nil⟩
  · exact ⟨ofPool_one _ _, ofPool_nil⟩

theorem ofPool_prepare {c : Nat} {st : Step p.Answer} (h : prepare p s c = some st) :
    OfPool st.notes := by
  unfold prepare at h
  split at h
  · rw [← Option.some.inj h]
    exact ofPool_one _ _
  · next t version _ =>
    obtain ⟨hbefore, hafter⟩ := ofPool_setUpNotes (s := t) version
    dsimp only at h
    split at h
    · rw [← Option.some.inj h]
      exact ofPool_countIn (hbefore.append hafter) _ _
    · split at h
      · cases h
      · split at h
        · rw [← Option.some.inj h]
          exact hbefore.append (ofPool_one _ _)
        · rw [← Option.some.inj h]
          exact ofPool_countIn (hbefore.append hafter) _ _

/-! ### Errands -/

theorem ofPool_onErrand {f : (e : Errand) → Option (Step e.Answer)}
    (hf : ∀ (e : Errand) (st : Step e.Answer), f e = some st → OfPool st.notes)
    {st : Step p.Answer} (h : onErrand p f = some st) : OfPool st.notes := by
  cases p with
  | borrow e => exact hf e st h
  | openPool => cases h

theorem ofPool_work (q c : Nat) (e : Errand) (st : Step e.Answer) (h : work e s q c = some st) :
    OfPool st.notes := by
  cases e with
  | ask question =>
    simp only [work] at h
    split at h <;> rw [← Option.some.inj h]
    · exact ofPool_giveBack _ _ _ _
    · exact ofPool_nil
  | save character =>
    simp only [work, workOnSave] at h
    split at h
    · cases h
    · split at h
      · split at h <;> rw [← Option.some.inj h]
        · exact ofPool_nil
        · exact ofPool_giveBack _ _ _ _
      · rw [← Option.some.inj h]
        exact ofPool_nil
  | change x =>
    simp only [work, workOnChange] at h
    split at h
    · cases h
    · split at h
      · rw [← Option.some.inj h]
        exact ofPool_giveBack _ _ _ _
      · split at h <;> rw [← Option.some.inj h] <;> exact ofPool_nil
  | breakConnection =>
    rw [← Option.some.inj h]
    exact ofPool_giveBack _ _ _ _
  | keep => cases h

theorem ofPool_workFailing (q c : Nat) (f : Table.Fault) (e : Errand) (st : Step e.Answer)
    (h : workFailing e s q c f = some st) : OfPool st.notes := by
  cases e with
  | ask | change =>
    rw [← Option.some.inj h]
    exact ofPool_giveBack _ _ _ _
  | save =>
    rw [← Option.some.inj h]
    exact ofPool_nil
  | breakConnection | keep => cases h

theorem ofPool_workExpired (q c : Nat) (e : Errand) (st : Step e.Answer)
    (h : workExpired e s q c = some st) : OfPool st.notes := by
  cases e with
  | save =>
    simp only [workExpired] at h
    split at h
    · rw [← Option.some.inj h]
      exact ofPool_nil
    · cases h
  | change =>
    simp only [workExpired] at h
    split at h
    · rw [← Option.some.inj h]
      exact ofPool_giveBack _ _ _ _
    · cases h
  | ask | breakConnection | keep => cases h

theorem ofPool_workFinished (q c : Nat) (e : Errand) (st : Step e.Answer)
    (h : workFinished e s q c = some st) : OfPool st.notes := by
  cases e with
  | keep =>
    rw [← Option.some.inj h]
    exact ofPool_giveBack _ _ _ _
  | ask | save | change | breakConnection => cases h

theorem ofPool_endTransaction (q c : Nat) (e : Errand) (st : Step e.Answer)
    (h : endTransaction e s q c = some st) : OfPool st.notes := by
  cases e with
  | save | change =>
    simp only [endTransaction] at h
    split at h <;> rw [← Option.some.inj h] <;> exact ofPool_giveBack _ _ _ _
  | ask | breakConnection | keep => cases h

theorem ofPool_undo (q c : Nat) (f : Table.Fault) (e : Errand) (st : Step e.Answer)
    (h : undo e s q c f = some st) : OfPool st.notes := by
  cases e with
  | save | change =>
    simp only [undo] at h
    split at h <;> rw [← Option.some.inj h] <;> exact ofPool_giveBack _ _ _ _
  | ask | breakConnection | keep => cases h

/-! ### Steps -/

theorem ofPool_go {me : Nat} {phase : Phase p.Answer} {st : Step p.Answer}
    (h : go me p s phase = some st) : OfPool st.notes := by
  cases phase with
  | entering =>
    rw [← Option.some.inj h, enter]
    split
    · exact ofPool_withOpenPool ofPool_nil _
    · split
      · exact ofPool_beginOpening
      · exact ofPool_nil
  | awaitingOpening =>
    simp only [go] at h
    split at h
    · rw [← Option.some.inj h, takeTurn]
      split
      · exact ofPool_withOpenPool ofPool_nil _
      · exact ofPool_beginOpening
    · cases h
  | connecting made =>
    rw [← Option.some.inj h]
    exact ofPool_connectNext made
  | preparing c => exact ofPool_prepare h
  | abandoning f =>
    simp only [go] at h
    split at h <;> rw [← Option.some.inj h] <;> exact ofPool_nil
  | awaiting q =>
    simp only [go] at h
    split at h
    · cases h
    · rw [← Option.some.inj h]
      exact ofPool_one _ _
  | checking q c =>
    simp only [go] at h
    split at h <;> rw [← Option.some.inj h]
    · exact ofPool_nil
    · exact ofPool_one _ _
  | replacing q c =>
    simp only [go] at h
    split at h <;> rw [← Option.some.inj h] <;> exact ofPool_nil
  | working q c => exact ofPool_onErrand (ofPool_work q c) h
  | committing q c => exact ofPool_onErrand (ofPool_endTransaction q c) h
  | undoing q c f => exact ofPool_onErrand (ofPool_undo q c f) h
  | returning q c answer =>
    rw [← Option.some.inj h]
    exact ofPool_giveBack _ _ _ _

theorem ofPool_expire {phase : Phase p.Answer} {st : Step p.Answer}
    (h : expire p s phase = some st) : OfPool st.notes := by
  cases phase with
  | awaiting q =>
    rw [← Option.some.inj h]
    exact ofPool_one _ _
  | preparing c =>
    simp only [expire] at h
    split at h
    · rw [← Option.some.inj h]
      exact ofPool_one _ _
    · cases h
  | working q c => exact ofPool_onErrand (ofPool_workExpired q c) h
  | entering | awaitingOpening | connecting | abandoning | checking | replacing | committing
  | undoing | returning => cases h

theorem ofPool_fail {me : Nat} {f : Table.Fault} {phase : Phase p.Answer} {st : Step p.Answer}
    (h : fail me p s f phase = some st) : OfPool st.notes := by
  cases phase with
  | entering | awaitingOpening | replacing | committing =>
    simp only [fail] at h
    split at h
    · rw [← Option.some.inj h]
      exact ofPool_nil
    · cases h
  | connecting | preparing | checking =>
    simp only [fail] at h
    split at h
    · rw [← Option.some.inj h]
      exact ofPool_one _ _
    · cases h
  | working q c =>
    simp only [fail] at h
    split at h
    · exact ofPool_onErrand (ofPool_workFailing q c f) h
    · cases h
  | abandoning | awaiting | undoing | returning => cases h

/-- **Every note of a visit comes from the pool.** -/
theorem ofPool_step {me : Nat} {choice : Choice} {phase : Phase p.Answer} {st : Step p.Answer}
    (h : step me p choice phase s = some st) : OfPool st.notes := by
  cases choice with
  | go => exact ofPool_go h
  | expire => exact ofPool_expire h
  | fail f => exact ofPool_fail h
  | finish =>
    cases phase with
    | working q c => exact ofPool_onErrand (ofPool_workFinished q c) h
    | entering | awaitingOpening | connecting | preparing | abandoning | awaiting | checking
    | replacing | committing | undoing | returning => cases h

end Visit

/-! ### Closing -/

theorem ofPool_closeRest (s : Store) : OfPool (closeRest s).notes := by
  unfold closeRest
  split
  · exact ofPool_one _ _
  · exact ofPool_nil

theorem ofPool_beginClosing (s : Store) : OfPool (beginClosing s).notes := by
  unfold beginClosing
  split
  · exact ofPool_closeRest s
  · exact ofPool_nil

end CharacterLedger.Storage
