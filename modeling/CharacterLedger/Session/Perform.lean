import CharacterLedger.Session.Advance

/-!
# How the steps of a session are carried out

A step of the session has been carried out when its process has come to its end; only then does the
next one begin.
-/

namespace CharacterLedger.Session

open CharacterLedger.Ledger CharacterLedger.Number

/-- How long tasks wait for a connection unless something else is said, in nanoseconds. -/
def usualPatience : Nat := 5000000000

/-- How long tasks wait for a connection if that is given as a number of seconds, in nanoseconds. A
number of seconds that is not above zero leaves no time; any other leaves some. -/
def patienceOfSeconds (seconds : Value) : Option Nat :=
  seconds.number?.map fun
    | .finite false m e =>
      if m = 0 then 0 else max 1 (m * tenTo 9 * twoTo e.toNat / twoTo (-e).toNat)
    | .infinite false => tenTo 18
    | _ => 0

namespace Course

/-- What is done at a turn. -/
def take (c : Course) : Turn → Course
  | .resume i | .look i =>
    match c.progress? i with
    | some p => c.goOn i p
    | none => c
  | .partEnded i => c.endPart i
  | t => c.withAgenda (c.agenda.take t)

/-- Whether a turn changes nothing: a process looks and finds nothing new. -/
def isVain (c : Course) : Turn → Bool
  | .look i =>
    match c.progress? i with
    | some (.looking holder child) => !(c.hasEnded child || c.isWanted holder)
    | _ => false
  | _ => false

/-- The next turn, or what time brings when there are only vain ones. -/
def step (c : Course) : Option Course :=
  match c.agenda.urgent, c.agenda.turns with
  | t :: urgent, _ => some ((c.withAgenda { c.agenda with urgent := urgent }).take t)
  | [], turns =>
    if turns.all c.isVain then c.agenda.passTime.map c.withAgenda
    else
      match turns with
      | t :: turns => some ((c.withAgenda { c.agenda with turns := turns }).take t)
      | [] => none

/-- Takes turns until a process has come to its end. -/
def run (i : Nat) : Nat → Course → Course
  | 0, c => c
  | count + 1, c =>
    if c.hasEnded i then c
    else
      match c.step with
      | some c => run i count c
      | none => c

/-- A number of turns that no step needs. -/
def turnLimit : Nat := 100000000

end Course

/-- Carries out a step of a session. -/
def perform (patience : Nat) (step : Step) (w : World) : Except Error Answer × World :=
  let c : Course := ⟨.ofWorld w patience, [⟨.free, 0, .begun step⟩], patience⟩
  let c := (c.ask (.resume 0)).run 0 Course.turnLimit
  (c.answer 0, c.atLast.world)

/-- Carries out a single call in a world where nothing else is going on. -/
def callOn (w : World) (call : Call) : Except Error Reply × World :=
  let s := (System.add ⟨w, []⟩ call).settle
  ((s.result? 0).getD (.ok .done), s.world)

end CharacterLedger.Session
