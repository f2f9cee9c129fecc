import CharacterLedger.Dice.Entropy
import CharacterLedger.Proofs.Dice.Recurrence
import Mathlib.Algebra.Field.ZMod
import Mathlib.LinearAlgebra.Eigenspace.Charpoly
import Mathlib.LinearAlgebra.Dimension.Constructions

/-!
# Redrawing ends

A die takes words from the generator until one of them belongs to a face.  The words that belong to
none are those whose two top bits are set, and no generator hands those out for ever: a bit of the
words to come is a linear function of the state, over the field of two elements, and the state moves
on by a linear map that leaves nothing but zero where it is.  Such a function cannot be one for more
steps than the state has bits.

* `exists_ne_one` — a linear function that is read along an orbit does not stay one;
* `Twister.bits`, `Twister.bits_twist`, `Twister.bit_temper` — the arithmetic of words, on their
  bits;
* `Twister.advanceBits`, `Twister.advanceBits_window` — moving on by one word is linear on states;
* `Twister.eq_zero_of_fixed` — it leaves nothing but zero where it is;
* `Entropy.exists_seededFace` — a seeded die shows one of its faces before the limit is met.
-/

namespace CharacterLedger.Dice

/-- **A linear function does not stay one along an orbit** of a linear map that leaves nothing but
zero where it is.  The map is a root of its characteristic polynomial, so that the values along an
orbit obey a recurrence.  If they were all one, its coefficients would sum to zero, and the map
would have the eigenvalue one. -/
theorem exists_ne_one {K V : Type*} [Field K] [AddCommGroup V] [Module K V] [Module.Finite K V]
    (step : Module.End K V) (hfixed : ∀ v, step v = v → v = 0) (f : V →ₗ[K] K) (v : V) :
    ∃ i ≤ Module.finrank K V, f ((step ^ i) v) ≠ 1 := by
  by_contra hone
  push Not at hone
  have hroot : (LinearMap.charpoly step).IsRoot 1 := by
    have hzero : f (Polynomial.aeval step (LinearMap.charpoly step) v) = 0 := by
      rw [LinearMap.aeval_self_charpoly, LinearMap.zero_apply, map_zero]
    rw [Polynomial.aeval_eq_sum_range, LinearMap.sum_apply, map_sum,
      LinearMap.charpoly_natDegree] at hzero
    rw [Polynomial.IsRoot, Polynomial.eval_eq_sum_range, LinearMap.charpoly_natDegree, ← hzero]
    apply Finset.sum_congr rfl
    intro i hi
    rw [LinearMap.smul_apply, map_smul, hone i (by simpa [Nat.lt_succ_iff] using hi), one_pow,
      smul_eq_mul]
  obtain ⟨w, hw⟩ :=
    ((Module.End.hasEigenvalue_iff_isRoot_charpoly step 1).2 hroot).exists_hasEigenvector
  have hsame : step w = w := by
    rw [hw.apply_eq_smul, one_smul]
  exact hw.2 (hfixed w hsame)

namespace Twister

variable {x : Nat → UInt32} {n k : Nat} {t : Twister}

/-! ### The bits of words -/

/-- A bit as an element of the field of two elements. -/
def bit (b : Bool) : ZMod 2 := if b then 1 else 0

@[simp] theorem bit_xor (a b : Bool) : bit (a ^^ b) = bit a + bit b := by
  cases a <;> cases b <;> decide

/-- The bits of a word. -/
def bits (w : UInt32) : Fin 32 → ZMod 2 := fun i => bit (w.toBitVec.getLsbD i)

theorem bits_xor (a b : UInt32) : bits (a ^^^ b) = bits a + bits b := by
  funext i
  rw [bits, UInt32.toBitVec_xor, BitVec.getLsbD_xor, bit_xor]
  rfl

/-- The top bit of the one and the other bits of the other. -/
def joinBits (u v : Fin 32 → ZMod 2) : Fin 32 → ZMod 2 := fun i => if i = 31 then u i else v i

/-- The bits of a word moved down by one place, with a constant added to them if the lowest one,
which is lost, was set. -/
def twistBits (u : Fin 32 → ZMod 2) : Fin 32 → ZMod 2 := fun i =>
  (if h : i.val + 1 < 32 then u ⟨i + 1, h⟩ else 0) + u 0 * bits 0x9908b0df i

theorem bits_join (a b : UInt32) :
    bits ((a &&& 0x80000000) ||| (b &&& 0x7fffffff)) = joinBits (bits a) (bits b) := by
  have htop : ∀ i : Fin 32, (0x80000000 : UInt32).toBitVec.getLsbD i = decide (i = 31) := by decide
  have hrest : ∀ i : Fin 32, (0x7fffffff : UInt32).toBitVec.getLsbD i = decide (i ≠ 31) := by decide
  funext i
  simp only [bits, joinBits, UInt32.toBitVec_or, UInt32.toBitVec_and, BitVec.getLsbD_or,
    BitVec.getLsbD_and, htop, hrest]
  by_cases hi : i = 31 <;> simp [hi]

theorem and_one_eq_zero_iff (w : UInt32) : w &&& 1 = 0 ↔ w.toBitVec.getLsbD 0 = false := by
  rw [← UInt32.toNat_inj, UInt32.toNat_and, BitVec.getLsbD, UInt32.toNat_toBitVec]
  simp [Nat.and_one_is_mod, Nat.testBit_zero]

/-- A word moved down by one place. -/
theorem bits_shiftRight_one (w : UInt32) (i : Fin 32) :
    bits (w >>> 1) i = if h : i.val + 1 < 32 then bits w ⟨i + 1, h⟩ else 0 := by
  have hmove : (w >>> 1).toBitVec.getLsbD i = w.toBitVec.getLsbD (1 + i) := by simp
  rw [bits, hmove]
  split
  · rw [Nat.add_comm, bits]
  · rw [BitVec.getLsbD_of_ge _ _ (by omega)]
    rfl

/-- A constant that is taken if the lowest bit of a word is set. -/
theorem bits_ite_and_one (w a : UInt32) :
    bits (if w &&& 1 = 0 then 0 else a) = bits w 0 • bits a := by
  have hlowest : bits w 0 = bit (w.toBitVec.getLsbD 0) := rfl
  rw [hlowest]
  cases hlow : w.toBitVec.getLsbD 0 with
  | false =>
    rw [if_pos ((and_one_eq_zero_iff w).2 hlow)]
    funext i
    simp [bits, bit]
  | true =>
    have hset : w &&& 1 ≠ 0 := by
      rw [ne_eq, and_one_eq_zero_iff, hlow]
      decide
    rw [if_neg hset]
    simp [bit]

theorem bits_twist (a b : UInt32) :
    bits (twist a b) = twistBits (joinBits (bits a) (bits b)) := by
  funext i
  rw [← bits_join, twist, bits_xor, bits_ite_and_one, Pi.add_apply, bits_shiftRight_one]
  rfl

/-- The top bit of a word that is handed out. -/
theorem bit_temper (w : UInt32) :
    bit ((temper w).toBitVec.getLsbD 31) = bits w 31 + bits w 24 + bits w 16 + bits w 27 := by
  have htop : (temper w).toBitVec.getLsbD 31 = (w.toBitVec.getLsbD 31 ^^ w.toBitVec.getLsbD 24 ^^
      w.toBitVec.getLsbD 16 ^^ w.toBitVec.getLsbD 27) := by
    simp [temper]
  rw [htop, bit_xor, bit_xor, bit_xor]
  rfl

/-- A word that belongs to no face has its top bit set. -/
theorem top_of_redrawn {w : UInt32} (h : ¬(w >>> 29).toNat < faceCount) :
    w.toBitVec.getLsbD 31 = true := by
  have hlt := w.toNat_lt
  rw [UInt32.toNat_shiftRight, Nat.shiftRight_eq_div_pow, faceCount] at h
  rw [BitVec.getLsbD, UInt32.toNat_toBitVec, Nat.testBit_eq_decide_div_mod_eq, decide_eq_true_eq]
  simp only [UInt32.reduceToNat, Nat.reduceMod, Nat.reducePow] at h hlt ⊢
  omega

/-! ### Moving on by one word -/

/-- The bits of the words of a state. -/
abbrev StateBits : Type := Fin size → Fin 32 → ZMod 2

/-- Moving on by one word: the words move up, and the last one is settled by the recurrence. -/
def advanceBits : StateBits →ₗ[ZMod 2] StateBits where
  toFun s i :=
    if h : i.val + 1 < size then s ⟨i + 1, h⟩
    else
      s ⟨offset, by decide⟩ + twistBits (joinBits (s ⟨0, by decide⟩) (s ⟨1, by decide⟩))
  map_add' s s' := by
    funext i j
    by_cases h : i.val + 1 < size
    · simp only [h, dif_pos, Pi.add_apply]
    · simp only [h, dif_neg, not_false_eq_true, Pi.add_apply, twistBits, joinBits]
      split_ifs <;> ring
  map_smul' c s := by
    funext i j
    by_cases h : i.val + 1 < size
    · simp only [h, dif_pos, Pi.smul_apply, RingHom.id_apply]
    · simp only [h, dif_neg, not_false_eq_true, Pi.add_apply, Pi.smul_apply, RingHom.id_apply,
        smul_eq_mul, twistBits, joinBits]
      split_ifs <;> ring

/-- The bits of the words of a sequence that a state holds from the `k`-th on. -/
def window (x : Nat → UInt32) (k : Nat) : StateBits := fun i => bits (x (k + i))

/-- **Moving on takes the words of a sequence to the next ones.** -/
theorem advanceBits_window (hx : Recurs x) (k : Nat) :
    advanceBits (window x k) = window x (k + 1) := by
  funext i
  by_cases hi : i.val + 1 < size
  · have hplace : k + (i.val + 1) = k + 1 + i.val := by omega
    simp only [advanceBits, LinearMap.coe_mk, AddHom.coe_mk, hi, dif_pos, window, hplace]
  · have hlast : k + 1 + i.val = k + size := by omega
    simp only [advanceBits, LinearMap.coe_mk, AddHom.coe_mk, hi, dif_neg, not_false_eq_true, window,
      hlast, hx k, bits_xor, bits_twist, Nat.add_zero]

theorem advanceBits_pow_window (hx : Recurs x) (k m : Nat) :
    (advanceBits ^ m) (window x k) = window x (k + m) := by
  induction m with
  | zero => rfl
  | succ m ih => rw [pow_succ', Module.End.mul_apply, ih, advanceBits_window hx, Nat.add_assoc]

/-- **Moving on leaves nothing but zero where it is.**  The words of a state that stays are all the
same, and one that is twisted to zero is zero: its lowest bit is lost, and would set the top bit. -/
theorem eq_zero_of_fixed {s : StateBits} (hfixed : advanceBits s = s) : s = 0 := by
  have hnext : ∀ i (h : i + 1 < size), s ⟨i + 1, h⟩ = s ⟨i, Nat.lt_of_succ_lt h⟩ := by
    intro i h
    have hsame := congrFun hfixed ⟨i, Nat.lt_of_succ_lt h⟩
    simpa only [advanceBits, LinearMap.coe_mk, AddHom.coe_mk, h, dif_pos] using hsame
  have hall : ∀ i (h : i < size), s ⟨i, h⟩ = s ⟨0, by decide⟩ := by
    intro i
    induction i with
    | zero => exact fun _ => rfl
    | succ i ih => exact fun h => (hnext i h).trans (ih (Nat.lt_of_succ_lt h))
  have htwisted : twistBits (s ⟨0, by decide⟩) = 0 := by
    have hlast := congrFun hfixed ⟨size - 1, by decide⟩
    have hjoin : ∀ u : Fin 32 → ZMod 2, joinBits u u = u := by
      intro u
      funext i
      simp only [joinBits, ite_self]
    have hno : ¬size - 1 + 1 < size := by decide
    simp only [advanceBits, LinearMap.coe_mk, AddHom.coe_mk, hno, dif_neg, not_false_eq_true, hall,
      hjoin] at hlast
    simpa using hlast
  have hlowest : s ⟨0, by decide⟩ 0 = 0 := by
    have htop := congrFun htwisted 31
    have hset : bits 0x9908b0df 31 = 1 := by decide
    simpa [twistBits, hset] using htop
  have hbits : ∀ i (h : i < 32), s ⟨0, by decide⟩ ⟨i, h⟩ = 0 := by
    intro i h
    cases i with
    | zero => exact hlowest
    | succ i =>
      have hbit := congrFun htwisted ⟨i, Nat.lt_of_succ_lt h⟩
      simpa [twistBits, h, hlowest] using hbit
  funext i j
  rw [hall i i.isLt]
  exact hbits j j.isLt

/-- The top bit of the first word of a state that is handed out. -/
def topBit : StateBits →ₗ[ZMod 2] ZMod 2 where
  toFun s :=
    s ⟨0, by decide⟩ 31 + s ⟨0, by decide⟩ 24 + s ⟨0, by decide⟩ 16 + s ⟨0, by decide⟩ 27
  map_add' s s' := by
    simp only [Pi.add_apply]
    ring
  map_smul' c s := by
    simp only [Pi.smul_apply, smul_eq_mul, RingHom.id_apply]
    ring

theorem topBit_window (x : Nat → UInt32) (k : Nat) :
    topBit (window x k) = bit ((temper (x k)).toBitVec.getLsbD 31) := by
  rw [bit_temper]
  rfl

theorem finrank_stateBits : Module.finrank (ZMod 2) StateBits = size * 32 := by
  rw [Module.finrank_pi_fintype]
  simp

/-- **No sequence has more words in a row that belong to no face** than a state has bits. -/
theorem exists_face (hx : Recurs x) (k : Nat) :
    ∃ i ≤ size * 32, (temper (x (k + i)) >>> 29).toNat < faceCount := by
  by_contra hnone
  push Not at hnone
  obtain ⟨i, hi, hne⟩ := exists_ne_one advanceBits (fun _ => eq_zero_of_fixed) topBit (window x k)
  rw [finrank_stateBits] at hi
  rw [advanceBits_pow_window hx, topBit_window, top_of_redrawn (Nat.not_lt.2 (hnone i hi))] at hne
  exact hne rfl

end Twister

/-! ### Seeded dice -/

namespace Entropy

open Twister

variable {x : Nat → UInt32} {k : Nat} {t : Twister}

/-- A die takes the face of the next word, or is redrawn. -/
theorem seededFace_succ (n : Nat) (t : Twister) :
    seededFace (n + 1) t =
      if (t.next.1 >>> 29).toNat < faceCount then
        some (((t.next.1 >>> 29).toNat : Int) + 1, t.next.2)
      else seededFace n t.next.2 := rfl

/-- A die that is redrawn until the limit is met has met words only that belong to no face. -/
theorem redrawn_of_seededFace {n : Nat} (h : t.Follows x k) (hnone : seededFace n t = none) :
    ∀ i < n, ¬(temper (x (k + i)) >>> 29).toNat < faceCount := by
  induction n generalizing t k with
  | zero => exact fun i hi => absurd hi (Nat.not_lt_zero i)
  | succ n ih =>
    obtain ⟨hword, hfollows⟩ := h.next
    rw [seededFace_succ] at hnone
    split at hnone
    · cases hnone
    · next hhigh =>
      rw [hword] at hhigh
      intro i hi
      cases i with
      | zero => exact hhigh
      | succ i =>
        have hrest := ih hfollows hnone i (Nat.lt_of_succ_lt_succ hi)
        rw [Nat.add_assoc, Nat.add_comm 1] at hrest
        exact hrest

/-- A seeded die shows one of its faces. -/
theorem seededFace_within {n : Nat} {face : Int} {t' : Twister} (h : t.Follows x k)
    (hface : seededFace n t = some (face, t')) :
    1 ≤ face ∧ face ≤ faceCount ∧ t'.IsSound := by
  induction n generalizing t k with
  | zero => cases hface
  | succ n ih =>
    obtain ⟨-, hfollows⟩ := h.next
    rw [seededFace_succ] at hface
    split at hface
    · next hlow =>
      cases hface
      exact ⟨by omega, by omega, hfollows.isSound⟩
    · exact ih hfollows hface

/-- **A seeded die shows one of its faces before the limit of redraws is met.** -/
theorem exists_seededFace (h : t.IsSound) :
    ∃ face t', seededFace mostRedraws t = some (face, t') ∧ 1 ≤ face ∧ face ≤ faceCount ∧
      t'.IsSound := by
  cases hface : seededFace mostRedraws t with
  | none =>
    obtain ⟨i, hi, hlow⟩ := exists_face (recurs_sequence t.words) t.used
    have hlimit : i < mostRedraws := Nat.lt_of_le_of_lt hi (by decide)
    exact absurd hlow (redrawn_of_seededFace h.follows hface i hlimit)
  | some shown => exact ⟨shown.1, shown.2, rfl, seededFace_within h.follows hface⟩

end Entropy

end CharacterLedger.Dice
