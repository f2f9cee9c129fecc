import CharacterLedger.Proofs.Character.Records
import CharacterLedger.Proofs.Ledger.Runs

/-!
# Looking characters up

A visit that asks for a character is answered with its row as it is at that moment.  The key of a
character may be given by any values; the row and the record have the texts that these stand for.

* `rowAt`, `recordAt` — the row and the record of a character among the rows of a table;
* `System.row_of_answer` — the answer that a visit is given;
* `key_of_loaded`, `key_of_recordAt` — the key of the record that is read.
-/

namespace CharacterLedger.Ledger

open CharacterLedger.Storage CharacterLedger.Table

/-- The row of a character. -/
def rowAt (rows : List Row) (channel user : Value) : Option Row :=
  match Database.keyTexts channel user with
  | .ok (some channel, some user) => rows.find? fun r => r.hasKey channel user
  | _ => none

/-- The record of a character, which is blank if it has no row. -/
def recordAt (rows : List Row) (channel user : Value) : Except Error Character :=
  (loaded channel user (.ok (rowAt rows channel user))).2

theorem rowAt_text (rows : List Row) (channel user : String) :
    rowAt rows (.text channel) (.text user) = rows.find? fun r => r.hasKey channel user :=
  rfl

/-- A row that is selected is the one of the character. -/
theorem rowAt_of_select {d : Database} {channel user : Value} {r : Option Row}
    (h : d.select channel user = .ok r) : r = rowAt d.rows channel user := by
  obtain ⟨⟨x, y⟩, htexts, rfl⟩ := Database.select_eq_ok h
  unfold rowAt
  rw [htexts]
  cases x with
  | none => rfl
  | some x => cases y <;> rfl

/-- Putting a row in its place is seen under its own key only. -/
theorem rowAt_replaceRow_of_ne {r : Row} (rows : List Row) {channel user : String}
    (h : r.key ≠ (channel, user)) :
    rowAt (CharacterTable.replaceRow r rows) (.text channel) (.text user) =
      rowAt rows (.text channel) (.text user) := by
  rw [rowAt_text, rowAt_text, CharacterTable.find?_replaceRow, if_neg]
  exact fun hk => h ((Row.hasKey_iff_key r channel user).1 hk)

/-- The row of a character has its key. -/
theorem key_of_rowAt {rows : List Row} {channel user : Value} {r : Row}
    (h : rowAt rows channel user = some r) :
    Database.keyTexts channel user = .ok (some r.channel, some r.user) := by
  unfold rowAt at h
  split at h
  · next x y hk =>
    have hkey := List.find?_some h
    obtain ⟨hx, hy⟩ := (Row.hasKey_iff r x y).1 hkey
    rw [hk, hx, hy]
  · cases h

/-- The record that is read from a row of a character, or from none, has the key of the character.
-/
theorem key_of_loaded {channel user : Value} {row : Option Row} {c : Character}
    (hrow : ∀ r, row = some r →
      Database.keyTexts channel user = .ok (some r.channel, some r.user))
    (h : (loaded channel user (.ok row)).2 = .ok c) :
    Database.keyTexts channel user = .ok (some c.channel, some c.user) := by
  cases row with
  | none =>
    obtain ⟨hc, hu, -⟩ := absentCharacter_eq_ok h
    rw [hc, hu]
    rfl
  | some r =>
    obtain ⟨hc, hu, -⟩ := (Row.toCharacter_eq_ok_iff channel user r c).1 h
    rw [hrow r rfl, hc, hu]

theorem key_of_recordAt {rows : List Row} {channel user : Value} {c : Character}
    (h : recordAt rows channel user = .ok c) :
    Database.keyTexts channel user = .ok (some c.channel, some c.user) :=
  key_of_loaded (fun _ hr => key_of_rowAt hr) h

theorem key_of_recordAt_text {rows : List Row} {channel user : String} {c : Character}
    (h : recordAt rows (.text channel) (.text user) = .ok c) :
    c.channel = channel ∧ c.user = user := by
  have hkey := key_of_recordAt h
  rw [show Database.keyTexts (.text channel) (.text user) = .ok (some channel, some user) from rfl]
    at hkey
  cases hkey
  exact ⟨rfl, rfl⟩

/-- The row that a visit is answered is the one of the character. -/
theorem System.row_of_answer {s : System} (h : s.Sound) (hone : s.OneDatabase) {id : Nat}
    {channel user : Value} {q c : Nat} {row : Option Row}
    (hvisit : s.visits id = some ⟨.borrow (.ask (.character channel user)), .working q c⟩)
    (hcarried : s.world.store.CarriedOut c (Question.character channel user).ask row) :
    row = rowAt s.rows channel user :=
  rowAt_of_select (hone.place.answer_eq h.store.slots h.store.drafts hvisit hcarried)

end CharacterLedger.Ledger
