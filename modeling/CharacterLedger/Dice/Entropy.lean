import CharacterLedger.Dice.Pool
import CharacterLedger.Dice.Twister

/-!
# Where faces come from

Dice take their faces from a script, which is replayed value by value, or from a seeded generator.
A script may hold any values and it may end; a seeded die shows one of its six faces. Drawing
several dice is drawing one after the other, and what was drawn before a script ended stays drawn.
-/

namespace CharacterLedger.Dice

open CharacterLedger.Number

/-- A source of faces. -/
inductive Entropy where
  /-- The faces still to come, and how many have been drawn. -/
  | script (drawn : Nat) (rest : List Value)
  | seeded (generator : Twister)

namespace Entropy

/-- How often a word that belongs to no face is redrawn. One word in four belongs to none, so the
limit is never met. -/
def mostRedraws : Nat := 1000000

/-- The face of the first word that belongs to one. The top three bits of a word number eight
cases, of which the last two belong to no face. -/
def seededFace : Nat → Twister → Option (Int × Twister)
  | 0, _ => none
  | redraws + 1, t =>
    let (w, t) := t.next
    let n := (w >>> 29).toNat
    if n < faceCount then some ((n : Int) + 1, t) else seededFace redraws t

/-- The next face, and the source behind it. -/
def next : Entropy → Option (Value × Entropy)
  | script _ [] => none
  | script drawn (face :: rest) => some (face, script (drawn + 1) rest)
  | seeded t => (seededFace mostRedraws t).map fun r => (.int r.1, seeded r.2)

/-- Draws faces for `n` dice: the faces drawn, whether that is all of them, and the source behind
them. -/
def draw : Nat → Entropy → List Value × Bool × Entropy
  | 0, e => ([], true, e)
  | n + 1, e =>
    match e.next with
    | none => ([], false, e)
    | some (face, e) =>
      let (faces, complete, e) := draw n e
      (face :: faces, complete, e)

/-- How many faces of a script have been drawn. -/
def drawn? : Entropy → Option Nat
  | script drawn _ => some drawn
  | seeded _ => none

/-- The source that a seed gives. Without one, no dice are at hand. -/
def ofSeed : Option Int → Entropy
  | some seed => seeded (.ofSeed seed)
  | none => script 0 []

/-- The prime number by which the seed of a real is reduced. -/
def realModulus : Nat := twoTo 61 - 1

/-- The integer that seeds for a finite real: the residue of the real, for which the powers of two
repeat after 61. A negative real counts down from `2 ^ 64`, and nothing stands for minus one. -/
def realSeed? : Binary64 → Option Int
  | .finite negative m e =>
    let residue := m * twoTo (e % 61).toNat % realModulus
    some (if negative && residue != 0 then (twoTo 64 : Int) - max residue 2 else residue)
  | .infinite _ | .nan => none

/-- The source that a value gives as a seed. -/
def ofValue : Value → Entropy
  | .real x => ofSeed (realSeed? x)
  | v => ofSeed v.toInteger?

theorem draw_length_of_complete (n : Nat) (e : Entropy) (h : (draw n e).2.1 = true) :
    (draw n e).1.length = n := by
  induction n generalizing e with
  | zero => simp [draw]
  | succ n ih =>
    unfold draw at h ⊢
    split
    · next he => simp [he] at h
    · next face e' he =>
      simp only [he] at h
      simpa using ih e' h

end Entropy

end CharacterLedger.Dice
