import CharacterLedger.Dice.Twister

/-!
# The words of the generator as one sequence

The generator renews its state in place, word by word, and hands the words out block by block.  Seen
from outside there are no blocks: the words, before they are mixed on their way out, are a sequence
in which each one is settled by three others before it.

* `Twister.Recurs` — sequences of which each word is settled so;
* `Twister.Holds` — a state holds the words of a sequence from a place on, which moves on by one
  with each word that is renewed (`Holds.renewWord`) and by a block with `renew` (`Holds.renew`);
* `Twister.Follows` — a generator hands a sequence out from a place on, and `Follows.next` says that
  it goes on to do so;
* `Twister.IsSound` — the states that seeding gives, each of which follows a sequence.
-/

namespace CharacterLedger.Dice.Twister

variable {words : Array UInt32} {x : Nat → UInt32} {n k : Nat} {t : Twister}

/-! ### Places of a state -/

theorem word_mod (words : Array UInt32) (i k : Nat) :
    word words (i % size + k) = word words (i + k) := by
  rw [word, word, Nat.mod_add_mod]

theorem word_setIfInBounds (hsize : words.size = size) {i : Nat} (hi : i < size) (w : UInt32)
    (j : Nat) :
    word (words.setIfInBounds i w) j = if i = j % size then w else word words j := by
  rw [word, word, Array.getD_eq_getD_getElem?, Array.getD_eq_getD_getElem?,
    Array.getElem?_setIfInBounds]
  split
  · next he => rw [if_pos (hsize ▸ hi), Option.getD_some]
  · rfl

/-! ### The recurrence -/

/-- The word that two words in a row contribute to a later one: the top bit of the one and the other
bits of the other, twisted. -/
def twist (first second : UInt32) : UInt32 :=
  let joined := (first &&& 0x80000000) ||| (second &&& 0x7fffffff)
  (joined >>> 1) ^^^ (if joined &&& 1 = 0 then 0 else 0x9908b0df)

/-- Each word is settled by the three that stand `size`, `size - 1` and `size - offset` places
before it. -/
def Recurs (x : Nat → UInt32) : Prop :=
  ∀ n, x (n + size) = x (n + offset) ^^^ twist (x n) (x (n + 1))

theorem renewWord_eq (words : Array UInt32) (i : Nat) :
    renewWord words i = words.setIfInBounds i
      (word words (i + offset) ^^^ twist (word words i) (word words (i + 1))) := by
  simp only [renewWord, twist, UInt32.xor_assoc]

/-- The sequence that begins with the words of a state. -/
def sequence (words : Array UInt32) (n : Nat) : UInt32 :=
  if n < size then word words n
  else
    sequence words (n - size + offset) ^^^
      twist (sequence words (n - size)) (sequence words (n - size + 1))
termination_by n
decreasing_by
  all_goals
    simp only [size, offset] at *
    omega

theorem recurs_sequence (words : Array UInt32) : Recurs (sequence words) := by
  intro n
  rw [sequence, if_neg (by omega), Nat.add_sub_cancel]

/-! ### States and sequences -/

/-- A state holds the words of a sequence from the `n`-th on, each in its place. -/
structure Holds (words : Array UInt32) (x : Nat → UInt32) (n : Nat) : Prop where
  full : words.size = size
  word : ∀ j, n ≤ j → j < n + size → word words j = x j

@[simp] theorem size_renewWord (words : Array UInt32) (i : Nat) :
    (renewWord words i).size = words.size := by
  rw [renewWord_eq, Array.size_setIfInBounds]

/-- **Renewing one word** puts the next word of the sequence in the place of the oldest. -/
theorem Holds.renewWord (h : Holds words x n) (hx : Recurs x) :
    Holds (renewWord words (n % size)) x (n + 1) := by
  have hi : n % size < size := Nat.mod_lt n (by decide)
  have hnew : Twister.renewWord words (n % size) =
      words.setIfInBounds (n % size) (x (n + size)) := by
    rw [renewWord_eq, word_mod, word_mod, ← Nat.add_zero (n % size), word_mod, Nat.add_zero,
      Nat.add_zero, hx n]
    rw [h.word n (by omega) (by simp only [size]; omega),
      h.word (n + 1) (by omega) (by simp only [size]; omega),
      h.word (n + offset) (by omega) (by simp only [size, offset]; omega)]
  refine ⟨(size_renewWord _ _).trans h.full, ?_⟩
  intro j hn hj
  rw [hnew, word_setIfInBounds h.full hi]
  by_cases he : n % size = j % size
  · have hlast : j = n + size := by
      simp only [size] at he hj ⊢
      omega
    rw [if_pos he, hlast]
  · have hbefore : j ≠ n + size := by
      rintro rfl
      exact he (Nat.add_mod_right n size).symm
    rw [if_neg he]
    exact h.word j (by omega) (by omega)

/-- **Renewing the whole state** goes on to the next block of the sequence. -/
theorem Holds.renew (h : Holds words x n) (hx : Recurs x) (hn : n % size = 0) :
    Holds (renew words) x (n + size) := by
  have hrange : ∀ m, m ≤ size →
      Holds ((List.range m).foldl Twister.renewWord words) x (n + m) := by
    intro m
    induction m with
    | zero => exact fun _ => h
    | succ m ih =>
      intro hm
      have hplace : (n + m) % size = m := by
        simp only [size] at hn hm ⊢
        omega
      have hnext := (ih (by omega)).renewWord hx
      rw [hplace] at hnext
      rw [List.range_succ, List.foldl_append]
      exact hnext
  exact hrange size (Nat.le_refl size)

/-! ### Generators and sequences -/

/-- The states of a generator that seeding gives, and all that come after them. -/
structure IsSound (t : Twister) : Prop where
  full : t.words.size = size
  used_le : t.used ≤ size

/-- A generator hands out the words of a sequence from the `k`-th on: its state holds a block of
them, of which the words before the `k`-th have been handed out. -/
structure Follows (t : Twister) (x : Nat → UInt32) (k : Nat) : Prop where
  recurs : Recurs x
  used_le : t.used ≤ size
  block : ∃ b, Holds t.words x (b * size) ∧ k = b * size + t.used

theorem Follows.isSound (h : t.Follows x k) : t.IsSound := by
  obtain ⟨_, hholds, _⟩ := h.block
  exact ⟨hholds.full, h.used_le⟩

/-- **The next word of a generator** is that of the sequence, and the generator follows it from the
next place on. -/
theorem Follows.next (h : t.Follows x k) :
    t.next.1 = temper (x k) ∧ t.next.2.Follows x (k + 1) := by
  obtain ⟨b, hholds, rfl⟩ := h.block
  have hle := h.used_le
  unfold Twister.next
  split
  · next hused =>
    have hplace : t.used % size = (b * size + t.used) % size := by
      rw [Nat.mul_add_mod_self_right]
    have hword : word t.words t.used = x (b * size + t.used) := by
      rw [← hholds.word (b * size + t.used) (by omega) (by omega), word, word, hplace]
    exact ⟨congrArg temper hword, h.recurs, hused, b, hholds, by dsimp only; omega⟩
  · next hused =>
    have hall : t.used = size := by omega
    have hrenewed := hholds.renew h.recurs (Nat.mul_mod_left b size)
    have hplace : 0 % size = (b * size + size) % size := by
      rw [Nat.add_mod_right, Nat.mul_mod_left, Nat.zero_mod]
    have hword : word (renew t.words) 0 = x (b * size + t.used) := by
      rw [hall, ← hrenewed.word (b * size + size) (by omega) (by simp only [size]; omega), word,
        word, hplace]
    have hnext : (b + 1) * size = b * size + size := Nat.succ_mul b size
    dsimp only
    rw [hword]
    refine ⟨rfl, h.recurs, show 1 ≤ size by decide, b + 1, ?_, ?_⟩
    · dsimp only
      rw [hnext]
      exact hrenewed
    · rw [hnext, hall]

/-- A sound generator follows the sequence that begins with its state. -/
theorem IsSound.follows (h : t.IsSound) : t.Follows (sequence t.words) t.used := by
  refine ⟨recurs_sequence t.words, h.used_le, 0, ⟨h.full, ?_⟩, by omega⟩
  intro j _ hj
  rw [sequence, if_pos (by omega)]

/-! ### Seeding -/

theorem size_advance (words : Array UInt32) (i : Nat) : (advance words i).1.size = words.size := by
  unfold advance
  split
  · rfl
  · exact Array.size_setIfInBounds

/-- A fold whose steps keep the size of the state keeps it. -/
theorem size_foldl {step : Array UInt32 × Nat → Nat → Array UInt32 × Nat}
    (hstep : ∀ s i, (step s i).1.size = s.1.size) (rounds : List Nat) (s : Array UInt32 × Nat) :
    (rounds.foldl step s).1.size = s.1.size := by
  induction rounds generalizing s with
  | nil => rfl
  | cons i rounds ih => rw [List.foldl_cons, ih, hstep]

theorem size_mixKey (key words : Array UInt32) : (mixKey key words).1.size = words.size := by
  refine size_foldl ?_ _ _
  intro s i
  rw [size_advance, Array.size_setIfInBounds]

theorem size_mixState (words : Array UInt32) (start : Nat) :
    (mixState words start).size = words.size := by
  refine size_foldl ?_ _ _
  intro s i
  rw [size_advance, Array.size_setIfInBounds]

theorem size_fill (start : UInt32) : (fill start).size = size := by
  have hpush : ∀ (places : List Nat) (words : Array UInt32),
      (places.foldl (fun ws i => ws.push (spread (ws.getD i 0) (i + 1))) words).size =
        words.size + places.length := by
    intro places
    induction places with
    | nil => exact fun _ => rfl
    | cons i places ih =>
      intro words
      rw [List.foldl_cons, ih, Array.size_push, List.length_cons]
      omega
  rw [fill, hpush, List.length_range]
  rfl

/-- **Seeding gives a sound generator.** -/
theorem isSound_ofSeed (seed : Int) : (ofSeed seed).IsSound := by
  refine ⟨?_, Nat.le_refl size⟩
  simp only [ofSeed, ofKey, Array.size_setIfInBounds, size_mixState, size_mixKey, size_fill]

end CharacterLedger.Dice.Twister
