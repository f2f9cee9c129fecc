import CharacterLedger.Ledger.Argument
import CharacterLedger.Ledger.Intent

/-!
# Plans

The plan of an intent says what it comes to. Names and pools are checked here, before any lock is
taken or anything is read; the change of a rating is not, because it is only added once the rating
is known. A command that cannot be written is refused before anything else.
-/

namespace CharacterLedger.Ledger

open CharacterLedger.Dice

/-- What is done with a character once it is read. -/
inductive Use where
  | rating (a : Action)
  | roll (a : Action) (bonus : Value)
  | resist (t : Attribute)
  | view
  | adjust (a : Action) (delta : Value)

/-- What a command comes to. -/
inductive Plan where
  | refuse (e : Error)
  | rollDice (n : Value)
  | withCharacter (channel user : Value) (use : Use)

/-- What an intent comes to. -/
def Intent.plan : Intent → Plan
  | roll channel user name bonus =>
    match readAction name with
    | .error e => .refuse e
    | .ok a =>
      match readPool bonus (.int mostDice) with
      | .error e => .refuse e
      | .ok n => .withCharacter channel user (.roll a n)
  | resist channel user name =>
    match readAttribute name with
    | .error e => .refuse e
    | .ok t => .withCharacter channel user (.resist t)
  | dice n =>
    match readPool n (.int mostDice) with
    | .error e => .refuse e
    | .ok n => .rollDice n
  | adjust channel user name delta =>
    match readAction name with
    | .error e => .refuse e
    | .ok a => .withCharacter channel user (.adjust a delta)
  | view channel user => .withCharacter channel user .view
  | unsupported s => .refuse (.mismatch (.unsupported s.typeName))

/-- What an order comes to: what its intent does, unless it cannot be written. -/
def Order.plan (o : Order) : Plan := if o.isWritable then o.intent.plan else .refuse .tooManyDigits

@[simp] theorem Order.plan_method (i : Intent) : (Order.method i).plan = i.plan := rfl

/-- An order that can be written comes to what its intent does. -/
theorem Order.plan_of_writable {o : Order} (h : o.isWritable = true) : o.plan = o.intent.plan :=
  if_pos h

/-- An order that is not refused comes to what its intent does. -/
theorem Order.plan_eq {o : Order} {p : Plan} (h : o.plan = p) (hp : ∀ e, p ≠ .refuse e) :
    o.intent.plan = p := by
  unfold Order.plan at h
  split at h
  · exact h
  · exact absurd h.symm (hp _)

/-- Only a pool of dice is rolled without a character. -/
theorem Intent.plan_eq_rollDice {i : Intent} {n : Value} (h : i.plan = .rollDice n) :
    ∃ n, i = .dice n := by
  cases i with
  | dice n => exact ⟨n, rfl⟩
  | roll | resist | adjust =>
    simp only [plan] at h
    repeat' split at h
    all_goals cases h
  | view | unsupported => cases h

end CharacterLedger.Ledger
