import CharacterLedger.Table.Row

/-!
# The table of characters

Rows in the order of their insertion, at most one for each channel and user, and triggers that
refuse insertions or changes.
-/

namespace CharacterLedger.Table

/-- The table: its rows in the order of their insertion, and for which events a trigger refuses. -/
structure CharacterTable where
  rows : List Row
  triggers : List Event
deriving DecidableEq

namespace CharacterTable

/-- The table without rows and triggers. -/
def empty : CharacterTable := ⟨[], []⟩

/-- The row of a key. -/
def find? (t : CharacterTable) (channel user : String) : Option Row :=
  t.rows.find? fun r => r.hasKey channel user

/-- The rows with this one in the place of the row of its key, or at the end if there is none. -/
def replaceRow (r : Row) : List Row → List Row
  | [] => [r]
  | s :: rows =>
    if s.hasKey r.channel r.user then r :: rows else s :: replaceRow r rows

/-- The table with the row of a record inserted, or changed if its key has one. An insertion
trigger fires in both cases. -/
def upsert (t : CharacterTable) (r : Row) : Except Fault CharacterTable :=
  if t.triggers.contains .insert then .error .refused
  else if t.triggers.contains .update && (t.find? r.channel r.user).isSome then .error .refused
  else .ok { t with rows := replaceRow r t.rows }

/-- A row whose key has none goes behind the others. -/
theorem replaceRow_of_absent {t : CharacterTable} {r : Row}
    (h : (t.find? r.channel r.user).isSome = false) : replaceRow r t.rows = t.rows ++ [r] := by
  unfold find? at h
  generalize t.rows = rows at h
  induction rows with
  | nil => rfl
  | cons s rows ih =>
    cases hs : s.hasKey r.channel r.user with
    | true => simp [hs] at h
    | false => simp [replaceRow, hs, ih (by simpa [List.find?_cons, hs] using h)]

/-- A row put in its place is found under its own key, and every other key finds what it found
before. -/
theorem find?_replaceRow (r : Row) (rows : List Row) (channel user : String) :
    (replaceRow r rows).find? (fun s => s.hasKey channel user) =
      if r.hasKey channel user then some r else rows.find? fun s => s.hasKey channel user := by
  induction rows with
  | nil => by_cases h : r.hasKey channel user = true <;> simp [replaceRow, h]
  | cons s rows ih =>
    by_cases hs : s.hasKey r.channel r.user = true
    · have same : s.hasKey channel user = r.hasKey channel user := by
        obtain ⟨hc, hu⟩ := (Row.hasKey_iff s r.channel r.user).1 hs
        simp [Row.hasKey, hc, hu]
      by_cases h : r.hasKey channel user = true <;> simp [replaceRow, hs, same, h]
    · by_cases h : r.hasKey channel user = true
      · have other : s.hasKey channel user = false := by
          obtain ⟨rfl, rfl⟩ := (Row.hasKey_iff r channel user).1 h
          simpa using hs
        simpa [replaceRow, hs, other, h] using ih
      · simp [replaceRow, hs, h, List.find?_cons, ih]

end CharacterTable

end CharacterLedger.Table
