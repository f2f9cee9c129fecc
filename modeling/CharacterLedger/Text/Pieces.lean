/-!
# The pieces of a text

A text falls into pieces at every occurrence of a separator; there is always one piece more than
there are separators, and no piece has the separator in it.
-/

namespace CharacterLedger.Text

/-- The pieces of a text between separators. -/
def pieces (separator : Char) : List Char → List (List Char)
  | [] => [[]]
  | c :: cs =>
    match pieces separator cs with
    | [] => [[c]]
    | piece :: others =>
      if c = separator then [] :: piece :: others else (c :: piece) :: others

@[simp] theorem pieces_nil (separator : Char) : pieces separator [] = [[]] := rfl

theorem pieces_ne_nil (separator : Char) (cs : List Char) : pieces separator cs ≠ [] := by
  cases cs with
  | nil => simp [pieces]
  | cons c cs =>
    unfold pieces
    split
    · simp
    · split <;> simp

theorem pieces_separator (separator : Char) (cs : List Char) :
    pieces separator (separator :: cs) = [] :: pieces separator cs := by
  have h := pieces_ne_nil separator cs
  rw [pieces]
  split
  · next he => exact absurd he h
  · next piece others he => rw [he, if_pos rfl]

theorem pieces_of_ne {separator c : Char} {cs piece : List Char} {others : List (List Char)}
    (hc : c ≠ separator) (h : pieces separator cs = piece :: others) :
    pieces separator (c :: cs) = (c :: piece) :: others := by
  rw [pieces, h]
  exact if_neg hc

/-- The pieces have no characters but those of the text. -/
theorem mem_of_mem_pieces {separator c : Char} {cs piece : List Char}
    (h : piece ∈ pieces separator cs) (hc : c ∈ piece) : c ∈ cs := by
  induction cs generalizing piece with
  | nil =>
    rw [pieces_nil, List.mem_singleton] at h
    rwa [h] at hc
  | cons d cs ih =>
    by_cases hd : d = separator
    · subst hd
      rw [pieces_separator, List.mem_cons] at h
      obtain rfl | h := h
      · cases hc
      · exact List.mem_cons_of_mem _ (ih h hc)
    · obtain ⟨first, others, hp⟩ := List.exists_cons_of_ne_nil (pieces_ne_nil separator cs)
      rw [pieces_of_ne hd hp, List.mem_cons] at h
      obtain rfl | h := h
      · obtain rfl | hc := List.mem_cons.1 hc
        · exact List.mem_cons_self
        · exact List.mem_cons_of_mem _ (ih (hp ▸ List.mem_cons_self) hc)
      · exact List.mem_cons_of_mem _ (ih (hp ▸ List.mem_cons_of_mem _ h) hc)

end CharacterLedger.Text
