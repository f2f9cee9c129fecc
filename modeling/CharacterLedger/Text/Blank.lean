import CharacterLedger.Text.CodeRange

/-!
# Blank characters and trimming

Two classes of blank characters occur. `isWhiteSpace` is the Unicode property White_Space; the
readers of numbers trim by it. `isBlank` has the four information separators U+001C to U+001F as
well; names and settings files are trimmed by it. Neither has U+200B, U+FEFF or U+180E.
-/

namespace CharacterLedger.Text

/-- The ranges of the Unicode property White_Space. -/
def whiteSpace : List CodeRange := [
  ⟨0x9, 0xd⟩, ⟨0x20, 0x20⟩, ⟨0x85, 0x85⟩, ⟨0xa0, 0xa0⟩, ⟨0x1680, 0x1680⟩, ⟨0x2000, 0x200a⟩,
  ⟨0x2028, 0x2029⟩, ⟨0x202f, 0x202f⟩, ⟨0x205f, 0x205f⟩, ⟨0x3000, 0x3000⟩]

/-- The information separators, blank by their bidirectional class though not White_Space. -/
def separators : List CodeRange := [⟨0x1c, 0x1f⟩]

/-- The ranges of the characters that end a line. -/
def lineBreaks : List CodeRange :=
  [⟨0xa, 0xd⟩, ⟨0x1c, 0x1e⟩, ⟨0x85, 0x85⟩, ⟨0x2028, 0x2029⟩]

/-- Unicode white space. -/
def isWhiteSpace (c : Char) : Bool := inTable whiteSpace c

/-- White space or an information separator. -/
def isBlank (c : Char) : Bool := inTable whiteSpace c || inTable separators c

/-- Whether the character ends a line. -/
def isLineBreak (c : Char) : Bool := inTable lineBreaks c

/-- The first line of a text. -/
def firstLine (s : String) : String := String.ofList (s.toList.takeWhile fun c => !isLineBreak c)

/-- The list without its longest suffix of characters of the class `p`. -/
def trimRight (p : Char → Bool) (cs : List Char) : List Char := (cs.reverse.dropWhile p).reverse

/-- The list without its longest prefix and its longest suffix of characters of the class `p`. -/
def trim (p : Char → Bool) (cs : List Char) : List Char := trimRight p (cs.dropWhile p)

theorem trimRight_append_of_all (p : Char → Bool) (cs pad : List Char)
    (h : ∀ c ∈ pad, p c = true) : trimRight p (cs ++ pad) = trimRight p cs := by
  simp only [trimRight, List.reverse_append]
  rw [List.dropWhile_append_of_pos]
  simpa using h

theorem trim_append_left (p : Char → Bool) (pad cs : List Char)
    (h : ∀ c ∈ pad, p c = true) : trim p (pad ++ cs) = trim p cs := by
  rw [trim, List.dropWhile_append_of_pos h, trim]

/-- A text that neither starts nor ends in the class is its own trimmed form. -/
theorem trim_eq_self (p : Char → Bool) (cs : List Char) (hfirst : ∀ c ∈ cs.head?, p c = false)
    (hlast : ∀ c ∈ cs.getLast?, p c = false) : trim p cs = cs := by
  have hdrop : ∀ ds : List Char, (∀ c ∈ ds.head?, p c = false) → ds.dropWhile p = ds := by
    intro ds hds
    cases ds with
    | nil => rfl
    | cons d ds => simp [hds d (by simp)]
  rw [trim, hdrop cs hfirst, trimRight, hdrop, List.reverse_reverse]
  intro c hc
  exact hlast c (by simpa [List.head?_reverse] using hc)

end CharacterLedger.Text
