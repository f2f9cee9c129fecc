/-!
# A seeded generator of 32-bit words

The Mersenne Twister: 624 words of state, renewed all at once when they have been handed out, and
mixed once more on the way out. It is seeded by an integer of any size, of which the sign does not
count, through its 32-bit words.
-/

namespace CharacterLedger.Dice

/-- The words of the state, and how many of them have been handed out. -/
structure Twister where
  words : Array UInt32
  used : Nat

namespace Twister

/-- The number of words of the state. -/
def size : Nat := 624

/-- How far behind a word the one lies that it is mixed with. -/
def offset : Nat := 397

/-- The word at a place; places wrap around. -/
def word (words : Array UInt32) (i : Nat) : UInt32 := words.getD (i % size) 0

/-- One step of the linear recurrence that fills the state from a single word. -/
def spread (previous : UInt32) (i : Nat) : UInt32 :=
  (1812433253 : UInt32) * (previous ^^^ (previous >>> 30)) + UInt32.ofNat i

/-- The state filled from a single word. -/
def fill (start : UInt32) : Array UInt32 :=
  (List.range (size - 1)).foldl (fun ws i => ws.push (spread (ws.getD i 0) (i + 1))) #[start]

/-- The word that the one behind it contributes while a key is mixed in. -/
def carry (words : Array UInt32) (i : Nat) : UInt32 :=
  let previous := word words (i - 1)
  previous ^^^ (previous >>> 30)

/-- The place after `i` in the cycle of places 1 to 623. On wrapping, the last word is copied to
place 0. -/
def advance (words : Array UInt32) (i : Nat) : Array UInt32 × Nat :=
  if i + 1 < size then (words, i + 1) else (words.setIfInBounds 0 (word words (size - 1)), 1)

/-- Mixes the key in: as many rounds as the longer of state and key has words. -/
def mixKey (key : Array UInt32) (words : Array UInt32) : Array UInt32 × Nat :=
  (List.range (max size key.size)).foldl
    (fun (ws, i) round =>
      let j := round % key.size
      let mixed := (word ws i ^^^ (carry ws i * 1664525)) + key.getD j 0 + UInt32.ofNat j
      advance (ws.setIfInBounds i mixed) i)
    (words, 1)

/-- Mixes the state with itself, starting at a place. -/
def mixState (words : Array UInt32) (start : Nat) : Array UInt32 :=
  ((List.range (size - 1)).foldl
    (fun (ws, i) _ =>
      let mixed := (word ws i ^^^ (carry ws i * 1566083941)) - UInt32.ofNat i
      advance (ws.setIfInBounds i mixed) i)
    (words, start)).1

/-- The generator of a key, with a state to be renewed before the first word. -/
def ofKey (key : Array UInt32) : Twister :=
  let (words, i) := mixKey key (fill 19650218)
  ⟨(mixState words i).setIfInBounds 0 0x80000000, size⟩

/-- The 32-bit words of a number, the least significant first. -/
def wordsOf (n : Nat) : List UInt32 :=
  if n < UInt32.size then [UInt32.ofNat n] else UInt32.ofNat n :: wordsOf (n / UInt32.size)
termination_by n
decreasing_by
  simp only [UInt32.size] at *
  omega

/-- The generator of a seed. -/
def ofSeed (seed : Int) : Twister := ofKey (wordsOf seed.natAbs).toArray

/-- Renews one word from itself, the next one and the one `offset` places on. -/
def renewWord (words : Array UInt32) (i : Nat) : Array UInt32 :=
  let joined := (word words i &&& 0x80000000) ||| (word words (i + 1) &&& 0x7fffffff)
  let twist : UInt32 := if joined &&& 1 = 0 then 0 else 0x9908b0df
  words.setIfInBounds i (word words (i + offset) ^^^ (joined >>> 1) ^^^ twist)

/-- Renews the whole state. -/
def renew (words : Array UInt32) : Array UInt32 := (List.range size).foldl renewWord words

/-- The last mixing of a word on its way out. -/
def temper (y : UInt32) : UInt32 :=
  let y := y ^^^ (y >>> 11)
  let y := y ^^^ ((y <<< 7) &&& 0x9d2c5680)
  let y := y ^^^ ((y <<< 15) &&& 0xefc60000)
  y ^^^ (y >>> 18)

/-- The next word. -/
def next (t : Twister) : UInt32 × Twister :=
  if t.used < size then (temper (word t.words t.used), ⟨t.words, t.used + 1⟩)
  else
    let words := renew t.words
    (temper (word words 0), ⟨words, 1⟩)

end Twister

end CharacterLedger.Dice
