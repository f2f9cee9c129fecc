import CharacterLedger.Proofs.Ledger.Knowledge

/-!
# Operations carried out at once

An operation of the ledger reads the record of a character, and an adjustment writes it again.  Here
an operation is one function of the rows of the table, and several operations are carried out one
after the other.  That is what a run of tasks is compared with.

* `Operation`, `Operation.apply`, `serially` — operations, carried out at once and one by one;
* `Operation.of_moves` — the last step of an operation is the operation carried out at once.
-/

namespace CharacterLedger.Ledger

open CharacterLedger.Storage CharacterLedger.Table

/-! ### Operations -/

/-- An operation of the ledger on a character. -/
inductive Operation where
  | get (channel user : String) (name : Value)
  | adjust (channel user : String) (name delta : Value)
  | show (channel user : String)

namespace Operation

/-- The call that asks for an operation. -/
def call : Operation → Call
  | get channel user name => .rating (.text channel) (.text user) name
  | adjust channel user name delta =>
    .execute (.method (.adjust (.text channel) (.text user) name delta))
  | .show channel user => .execute (.method (.view (.text channel) (.text user)))

/-- The channel and the user of the character. -/
def key : Operation → String × String
  | get channel user _ | adjust channel user _ _ | .show channel user => (channel, user)

/-- What an operation comes back with and makes of the rows, if it is carried out at once. -/
def apply : Operation → List Row → Except Error (Reply × List Row)
  | get channel user name, rows => do
    let a ← readAction name
    let c ← recordAt rows (.text channel) (.text user)
    return (.rating (c.rating a), rows)
  | adjust channel user name delta, rows => do
    let a ← readAction name
    let c ← recordAt rows (.text channel) (.text user)
    let (adjustment, changed) ← Task.adjust c a delta
    return (.adjusted adjustment.after,
      CharacterTable.replaceRow (Row.ofCharacter changed) rows)
  | .show channel user, rows => do
    let c ← recordAt rows (.text channel) (.text user)
    return (.character c, rows)

end Operation

/-- What operations come back with and make of the rows, if they are carried out one by one. -/
def serially : List Operation → List Row → Except Error (List Reply × List Row)
  | [], rows => .ok ([], rows)
  | op :: ops, rows => do
    let (reply, rows) ← op.apply rows
    let (replies, rows) ← serially ops rows
    return (reply :: replies, rows)

/-- One more operation is carried out after all the others. -/
theorem serially_concat {ops : List Operation} {op : Operation} {rows rows' rows'' : List Row}
    {replies : List Reply} {reply : Reply} (h : serially ops rows = .ok (replies, rows'))
    (hop : op.apply rows' = .ok (reply, rows'')) :
    serially (ops ++ [op]) rows = .ok (replies ++ [reply], rows'') := by
  induction ops generalizing rows replies with
  | nil =>
    cases h
    simp [serially, hop, bind, Except.bind, pure, Except.pure]
  | cons first ops ih =>
    simp only [serially, bind, Except.bind, pure, Except.pure] at h
    cases hfirst : first.apply rows with
    | error e =>
      rw [hfirst] at h
      cases h
    | ok one =>
      obtain ⟨r, between⟩ := one
      rw [hfirst] at h
      simp only at h
      cases hrest : serially ops between with
      | error e =>
        rw [hrest] at h
        cases h
      | ok many =>
        obtain ⟨rs, last⟩ := many
        rw [hrest] at h
        cases h
        have := ih hrest
        simp [serially, hfirst, this, bind, Except.bind, pure, Except.pure]

namespace Operation

variable {op : Operation} {rows rows' : List Row}

/-- What is done with the character of an operation. -/
theorem use?_eq_some {channel user : Value} {use : Use}
    (h : op.call.use? = some (channel, user, use)) :
    channel = .text op.key.1 ∧ user = .text op.key.2 ∧
      match op with
      | get _ _ name => ∃ a, readAction name = .ok a ∧ use = .rating a
      | adjust _ _ name delta => ∃ a, readAction name = .ok a ∧ use = .adjust a delta
      | .show _ _ => use = .view := by
  cases op with
  | get x y name =>
    simp only [call, Call.use?] at h
    cases hn : readAction name with
    | error e =>
      rw [hn] at h
      cases h
    | ok a =>
      rw [hn] at h
      cases h
      exact ⟨rfl, rfl, a, hn, rfl⟩
  | adjust x y name delta =>
    simp only [call, Call.use?, Order.plan_method, Intent.plan] at h
    cases hn : readAction name with
    | error e =>
      rw [hn] at h
      cases h
    | ok a =>
      rw [hn] at h
      cases h
      exact ⟨rfl, rfl, a, hn, rfl⟩
  | «show» x y =>
    cases h
    exact ⟨rfl, rfl, rfl⟩

/-- The character of an operation has a key of texts. -/
theorem hasTexts (op : Operation) : op.call.HasTexts := by
  intro channel user use huse
  obtain ⟨hchannel, huser, -⟩ := use?_eq_some huse
  exact ⟨_, _, hchannel, huser⟩

/-- An operation rolls no dice. -/
theorem not_rolls (op : Operation) {o : Order} (hcall : op.call = .execute o) {n : Value} :
    o.plan ≠ .rollDice n := by
  intro hrolls
  obtain ⟨m, hdice⟩ := Intent.plan_eq_rollDice (Order.plan_eq hrolls fun _ h => nomatch h)
  cases op with
  | get => cases hcall
  | adjust | «show» =>
    cases hcall
    cases hdice

/-- The lock of an operation is that of its character. -/
theorem key?_eq_some {k : Key} (h : op.call.key? = some k) :
    k = ⟨.text op.key.1, .text op.key.2⟩ := by
  cases hu : op.call.use? with
  | none =>
    obtain ⟨_, _, hholds⟩ := Call.exists_holdLock hu h
    cases op <;> cases hholds
  | some about =>
    obtain ⟨channel, user, use⟩ := about
    obtain ⟨rfl, rfl, -⟩ := use?_eq_some hu
    rw [Call.key?_of_use? hu] at h
    exact (Option.some.inj h).symm

/-! ### The steps of an operation -/

/-- An operation that needs its record only is carried out at once. -/
theorem apply_of_gives {channel user : Value} {use : Use} {c : Character} {reply : Reply}
    (huse : op.call.use? = some (channel, user, use)) (hrecord : recordAt rows channel user = .ok c)
    (hgives : use.Gives c (.ok reply)) : op.apply rows = .ok (reply, rows) := by
  obtain ⟨rfl, rfl, hop⟩ := use?_eq_some huse
  cases op with
  | get x y name =>
    obtain ⟨a, hname, rfl⟩ := hop
    cases hgives
    simp only [key] at hrecord
    simp [apply, hname, hrecord, bind, Except.bind, pure, Except.pure]
  | adjust x y name delta =>
    obtain ⟨a, -, rfl⟩ := hop
    exact hgives.elim
  | «show» x y =>
    cases hop
    cases hgives
    simp only [key] at hrecord
    simp [apply, hrecord, bind, Except.bind, pure, Except.pure]

/-- An adjustment writes its record. -/
theorem apply_of_adjust {channel user : Value} {a : Action} {delta : Value} {c changed : Character}
    {adjustment : Adjustment} (huse : op.call.use? = some (channel, user, .adjust a delta))
    (hrecord : recordAt rows channel user = .ok c)
    (hadjust : Task.adjust c a delta = .ok (adjustment, changed)) :
    op.apply rows =
      .ok (.adjusted adjustment.after,
        CharacterTable.replaceRow (Row.ofCharacter changed) rows) := by
  obtain ⟨rfl, rfl, hop⟩ := use?_eq_some huse
  cases op with
  | get x y name =>
    obtain ⟨b, -, huse⟩ := hop
    cases huse
  | adjust x y name delta' =>
    obtain ⟨b, hname, hsame⟩ := hop
    cases hsame
    simp only [key] at hrecord
    simp [apply, hname, hrecord, hadjust, bind, Except.bind, pure, Except.pure]
  | «show» x y => cases hop

/-- **The last step of an operation that succeeds is the operation carried out at once**, and no
other step of it changes the rows. -/
theorem of_moves {id : Nat} {s s' : Store} {l l' : KeyLocks} {st st' : Stage}
    (hmove : Task.Moves id op.call s l st s' l' st') (hfits : Task.Fits op.call st)
    (hseen : Seen rows st)
    (hrows : (∃ changed, Task.Commits st st' changed ∧
        rows' = CharacterTable.replaceRow (Row.ofCharacter changed) rows) ∨
      rows' = rows ∧ ∀ changed, ¬ Task.Commits st st' changed) :
    (∃ reply, st' = .done (.ok reply) ∧ op.apply rows = .ok (reply, rows')) ∨
      (∀ reply, st' ≠ .done (.ok reply)) ∧ rows' = rows := by
  have hsame := Task.rows_eq_of_not_commits hrows
  cases hmove with
  | refuse | loadFails | cannotAdjust | saveFails | reach | acquire | acquireToHold | load | adjusts
  | save => exact .inr ⟨(fun _ h => nomatch h), hsame fun _ h => nomatch h⟩
  | rollAtOnce executes rolls => exact absurd rolls (op.not_rolls executes)
  | closeNothing closes | closeAtOnce closes | goClosing closes => cases op <;> cases closes
  | goVisiting purpose => cases op <;> cases purpose
  | reachToHold holds => cases op <;> cases holds
  | closeNext | closed => cases op <;> cases hfits
  | visit | visited => cases op <;> cases hfits
  | letGo =>
    obtain ⟨hnone, key, hkey⟩ := hfits
    obtain ⟨_, _, hholds⟩ := Call.exists_holdLock hnone hkey
    cases op <;> cases hholds
  | @used lock channel user use phase t r c result move reads gives =>
    have hrows' := hsame fun _ h => nomatch h
    cases result with
    | error e => exact .inr ⟨(fun _ h => nomatch h), hrows'⟩
    | ok reply =>
      refine .inl ⟨reply, rfl, ?_⟩
      rw [hrows']
      exact apply_of_gives hfits.1 (Task.recordAt_of_loaded hseen move reads) gives
  | @saved lock channel user adjustment changed phase t move =>
    refine .inl ⟨_, rfl, ?_⟩
    obtain ⟨c, hrecord, hadjust⟩ := hseen
    obtain ⟨changed', hcommits, hrows'⟩ | ⟨-, hno⟩ := hrows
    · cases hcommits
      rw [hrows']
      exact apply_of_adjust hfits.1 hrecord hadjust
    · exact absurd .adjusted (hno changed)

end Operation

end CharacterLedger.Ledger
