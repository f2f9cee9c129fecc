import CharacterLedger.Dice.Outcome
import CharacterLedger.Ledger.Call

/-!
# A reference machine

What players can count on, without a store and without waiting: every character has twelve ratings,
which are zero at first, and dice show one face after the other.  A request is one step.

* `Request` — the requests of players, whose keys are texts and whose numbers are integers;
* `Request.isShort` — no integer in a request has too many digits;
* `Machine` — the ratings of all characters, and how many dice have been drawn;
* `Machine.step`, `Machine.run` — what a request comes to, and several one after the other.
-/

namespace CharacterLedger.Ledger.Reference

open CharacterLedger.Dice

/-! ### Requests and answers -/

/-- A request of a player.  Names may be of any type. -/
inductive Request where
  | roll (channel user : String) (name : Value) (bonus : Int)
  | resist (channel user : String) (name : Value)
  | dice (number : Int)
  | adjust (channel user : String) (name : Value) (delta : Int)
  | view (channel user : String)
  | unsupported (s : Stranger)

/-- The intent that a request is sent as. -/
def Request.intent : Request → Intent
  | roll channel user name bonus => .roll (.text channel) (.text user) name (.int bonus)
  | resist channel user name => .resist (.text channel) (.text user) name
  | dice number => .dice (.int number)
  | adjust channel user name delta => .adjust (.text channel) (.text user) name (.int delta)
  | view channel user => .view (.text channel) (.text user)
  | unsupported s => .unsupported s

/-- The integers in a request, also those inside of a name of another type. -/
def Request.integers : Request → List Int
  | roll _ _ name bonus => name.integers ++ [bonus]
  | resist _ _ name => name.integers
  | dice number => [number]
  | adjust _ _ name delta => name.integers ++ [delta]
  | view _ _ => []
  | unsupported (.request channel) => channel.integers
  | unsupported (.value _) | unsupported .intentClass => []

/-- Whether every integer in a request has 4300 digits at most. -/
def Request.isShort (r : Request) : Bool :=
  r.integers.all fun n => n.natAbs < Number.tenTo Number.mostDigits

/-- Why a request is refused. -/
inductive Refusal where
  | tooLong
  | unknownName (name : Value)
  | negativePool (number : Int)
  | tooManyDice (number : Int)
  | unsupported (s : Stranger)
  | noMoreDice

/-- The error that a refusal is reported as. -/
def Refusal.error : Refusal → Error
  | tooLong => .tooManyDigits
  | unknownName name => .unknownName name
  | negativePool number => .badPool ⟨.negative, .int number⟩
  | tooManyDice number => .badPool ⟨.tooLarge, .int number⟩
  | unsupported s => .mismatch (.unsupported s.typeName)
  | noMoreDice => .exhausted

/-- A finished roll. -/
structure Roll where
  dice : Nat
  faces : List Int
  keep : Keep
  kept : Int
  degree : Degree

/-- What a request comes back with. -/
inductive Answer where
  | rolled (r : Roll)
  | adjusted (rating : Int)
  | shown (channel user : String) (ratings : Action → Int)

/-! ### The machine -/

/-- The ratings of all characters, and how many dice have been drawn. -/
structure Machine where
  ratings : String × String → Action → Int
  drawn : Nat

/-- The faces of some dice from a place in a stream on, which may end before. -/
def facesFrom (faces : Nat → Option Int) : Nat → Nat → List Int
  | _, 0 => []
  | start, n + 1 =>
    match faces start with
    | none => []
    | some face => face :: facesFrom faces (start + 1) n

theorem length_facesFrom_le (faces : Nat → Option Int) (start n : Nat) :
    (facesFrom faces start n).length ≤ n := by
  induction n generalizing start with
  | zero => exact Nat.le_refl 0
  | succ n ih =>
    unfold facesFrom
    cases faces start with
    | none => exact Nat.zero_le _
    | some face => exact Nat.succ_le_succ (ih (start + 1))

/-- How well a roll went whose kept face is this one. -/
def degreeOf (critical : Bool) (kept : Int) : Degree :=
  if critical then .criticalSuccess
  else if 6 ≤ kept then .fullSuccess
  else if 4 ≤ kept then .partialSuccess
  else .failure

/-- The roll of a pool of `n` dice that shows these faces. A pool of none shows two, and keeps the
lowest. -/
def rollOf (n : Nat) (faces : List Int) : Roll :=
  if n = 0 then
    ⟨2, faces, .lowest, faces.min?.getD 0, degreeOf false (faces.min?.getD 0)⟩
  else
    ⟨n, faces, .highest, faces.max?.getD 0,
      degreeOf (decide (2 ≤ n ∧ 2 ≤ faces.count 6)) (faces.max?.getD 0)⟩

/-- How many dice are shown for a pool of `n`. -/
def shownFor (n : Nat) : Nat := if n = 0 then 2 else n

namespace Machine

/-- Rolls a pool, a negative one as none. -/
def roll (faces : Nat → Option Int) (m : Machine) (pool : Int) : Except Refusal Answer × Machine :=
  if 100 < pool then (.error (.tooManyDice pool), m)
  else
    let shown := facesFrom faces m.drawn (shownFor pool.toNat)
    (if shown.length < shownFor pool.toNat then .error .noMoreDice
      else .ok (.rolled (rollOf pool.toNat shown)), { m with drawn := m.drawn + shown.length })

/-- Goes on with a number of dice that is asked for, unless it is refused. -/
def withDice (m : Machine) (number : Int) (next : Except Refusal Answer × Machine) :
    Except Refusal Answer × Machine :=
  if number < 0 then (.error (.negativePool number), m)
  else if 100 < number then (.error (.tooManyDice number), m)
  else next

/-- The machine with another rating of a character. -/
def setRating (m : Machine) (key : String × String) (a : Action) (rating : Int) : Machine :=
  { m with
    ratings := fun other b => if other = key ∧ b = a then rating else m.ratings other b }

/-- What a request comes to whose integers are short. -/
def respond (faces : Nat → Option Int) (m : Machine) : Request → Except Refusal Answer × Machine
  | .roll channel user name bonus =>
    match Action.named? name with
    | none => (.error (.unknownName name), m)
    | some a => m.withDice bonus (m.roll faces (m.ratings (channel, user) a + bonus))
  | .resist channel user name =>
    match Attribute.named? name with
    | none => (.error (.unknownName name), m)
    | some t => m.roll faces (t.actions.countP fun a => decide (0 < m.ratings (channel, user) a))
  | .dice number => m.withDice number (m.roll faces number)
  | .adjust channel user name delta =>
    match Action.named? name with
    | none => (.error (.unknownName name), m)
    | some a =>
      let rating := max 0 (min 4 (m.ratings (channel, user) a + delta))
      (.ok (.adjusted rating), m.setRating (channel, user) a rating)
  | .view channel user => (.ok (.shown channel user (m.ratings (channel, user))), m)
  | .unsupported s => (.error (.unsupported s), m)

/-- What a request comes to. -/
def step (faces : Nat → Option Int) (m : Machine) (r : Request) : Except Refusal Answer × Machine :=
  if r.isShort then m.respond faces r else (.error .tooLong, m)

/-- What requests come to, one after the other: the answer to each and the machine behind it. -/
def run (faces : Nat → Option Int) : List Request → Machine → List (Except Refusal Answer × Machine)
  | [], _ => []
  | r :: rest, m => m.step faces r :: run faces rest (m.step faces r).2

/-! ### Refused requests -/

section Refused

variable {faces : Nat → Option Int} {m : Machine} {why : Refusal}

/-- Dice that have been drawn stay drawn, even if there are no more of them. Nothing else of the
machine changes when a request is refused. -/
def IsLeft (m : Machine) (why : Refusal) (m' : Machine) : Prop :=
  m'.ratings = m.ratings ∧ (why = .noMoreDice ∨ m' = m)

theorem isLeft_of_roll {pool : Int} (h : (m.roll faces pool).1 = .error why) :
    m.IsLeft why (m.roll faces pool).2 := by
  unfold roll at h ⊢
  split
  · exact ⟨rfl, .inr rfl⟩
  · next hpool =>
    rw [if_neg hpool] at h
    refine ⟨rfl, .inl ?_⟩
    dsimp only at h
    split at h
    · exact (Except.error.inj h).symm
    · cases h

theorem isLeft_of_withDice {number : Int} {next : Except Refusal Answer × Machine}
    (hnext : next.1 = .error why → m.IsLeft why next.2)
    (h : (m.withDice number next).1 = .error why) : m.IsLeft why (m.withDice number next).2 := by
  unfold withDice at h ⊢
  split
  · exact ⟨rfl, .inr rfl⟩
  · next hnegative =>
    rw [if_neg hnegative] at h
    split
    · exact ⟨rfl, .inr rfl⟩
    · next hlarge =>
      rw [if_neg hlarge] at h
      exact hnext h

theorem isLeft_of_respond {r : Request} (h : (m.respond faces r).1 = .error why) :
    m.IsLeft why (m.respond faces r).2 := by
  cases r with
  | roll channel user name bonus =>
    simp only [respond] at h ⊢
    cases hn : Action.named? name with
    | none => exact ⟨rfl, .inr rfl⟩
    | some a =>
      simp only [hn] at h
      exact isLeft_of_withDice isLeft_of_roll h
  | resist channel user name =>
    simp only [respond] at h ⊢
    cases hn : Attribute.named? name with
    | none => exact ⟨rfl, .inr rfl⟩
    | some t =>
      simp only [hn] at h
      exact isLeft_of_roll h
  | dice number => exact isLeft_of_withDice isLeft_of_roll h
  | adjust channel user name delta =>
    simp only [respond] at h ⊢
    cases hn : Action.named? name with
    | none => exact ⟨rfl, .inr rfl⟩
    | some a =>
      simp only [hn] at h
      cases h
  | view channel user => cases h
  | unsupported s => exact ⟨rfl, .inr rfl⟩

/-- **A refused request changes nothing**, except that dice may have been drawn. -/
theorem isLeft_of_step {r : Request} (h : (m.step faces r).1 = .error why) :
    m.IsLeft why (m.step faces r).2 := by
  unfold step at h ⊢
  split
  · next hshort =>
    rw [if_pos hshort] at h
    exact isLeft_of_respond h
  · exact ⟨rfl, .inr rfl⟩

end Refused

end Machine

end CharacterLedger.Ledger.Reference
