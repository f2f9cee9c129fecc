import CharacterLedger.Table.Database

/-!
# The rows of a database

A database without a table has no rows.  Every statement of the ledger is a function of the rows, as
long as the statement succeeds:

* `Database.rows_setUp` — setting up a database adds no rows;
* `Database.rows_upsert` — storing a record puts its row in its place;
* `Database.select_eq_ok`, `Database.count_eq_ok` — the questions are answered from the rows;
* `CharacterTable.length_replaceRow`, `replaceRow_replaceRow`, `replaceRow_comm` — rows that are put
  in their places one after the other.
-/

namespace CharacterLedger.Table

namespace Database

variable {d e : Database}

/-- The rows of the table, in the order of their insertion. -/
def rows (d : Database) : List Row :=
  match d.table with
  | none => []
  | some t => t.rows

@[simp] theorem rows_empty : Database.empty.rows = [] := rfl

theorem rows_setUp (d : Database) : d.setUp.rows = d.rows := by
  unfold setUp rows
  cases setUpFor d.version with
  | upToDate => rfl
  | created | migrated =>
    cases h : d.table with
    | none => simp [withTable, h, CharacterTable.empty]
    | some t => simp [withTable, h]

theorem rows_upsert {c : Character} (h : d.upsert c = .ok e) :
    e.rows = CharacterTable.replaceRow (Row.ofCharacter c) d.rows := by
  rw [upsert_eq] at h
  cases ht : d.table with
  | none =>
    rw [ht] at h
    cases h
  | some t =>
    rw [ht] at h
    simp only at h
    unfold CharacterTable.upsert at h
    split at h
    · cases h
    · next t' ht' =>
      cases h
      split at ht'
      · cases ht'
      · split at ht'
        · cases ht'
        · cases ht'
          simp [rows, ht]

/-- Selecting a row finds it among the rows, and half a key that is null has no row. -/
theorem select_eq_ok {channel user : Value} {r : Option Row} (h : d.select channel user = .ok r) :
    ∃ texts, keyTexts channel user = .ok texts ∧
      r = match texts with
        | (some channel, some user) => d.rows.find? fun r => r.hasKey channel user
        | _ => none := by
  unfold select at h
  cases ht : d.table with
  | none =>
    rw [ht] at h
    cases h
  | some t =>
    rw [ht] at h
    simp only at h
    cases hk : keyTexts channel user with
    | error f =>
      rw [hk] at h
      cases h
    | ok texts =>
      refine ⟨texts, rfl, ?_⟩
      rw [hk] at h
      obtain ⟨_ | channel, _ | user⟩ := texts
      · exact (Except.ok.inj h).symm
      · exact (Except.ok.inj h).symm
      · exact (Except.ok.inj h).symm
      · rw [← Except.ok.inj h]
        simp [rows, ht, CharacterTable.find?]

theorem count_eq_ok {n : Nat} (h : d.count = .ok n) : n = d.rows.length := by
  unfold count at h
  cases ht : d.table with
  | none =>
    rw [ht] at h
    cases h
  | some t =>
    rw [ht] at h
    simpa [rows, ht] using (Except.ok.inj h).symm

end Database

namespace CharacterTable

variable {r r' : Row} {rows : List Row}

theorem replaceRow_cons (r s : Row) (rows : List Row) :
    replaceRow r (s :: rows) =
      if s.hasKey r.channel r.user then r :: rows else s :: replaceRow r rows := rfl

/-- The rows are one more if there was none in the place. -/
theorem length_replaceRow (r : Row) (rows : List Row) :
    (replaceRow r rows).length =
      if (rows.find? fun s => s.hasKey r.channel r.user) = none then rows.length + 1
      else rows.length := by
  induction rows with
  | nil => rfl
  | cons s rows ih =>
    rw [replaceRow_cons, List.find?_cons]
    cases hs : s.hasKey r.channel r.user with
    | true => rfl
    | false =>
      simp only [Bool.false_eq_true, if_false, List.length_cons, ih]
      split <;> rfl

/-- Of two rows for one place the second counts. -/
theorem replaceRow_replaceRow (h : r.hasKey r'.channel r'.user = true) (rows : List Row) :
    replaceRow r' (replaceRow r rows) = replaceRow r' rows := by
  obtain ⟨hchannel, huser⟩ := (Row.hasKey_iff ..).1 h
  induction rows with
  | nil => simp only [replaceRow, h, if_true]
  | cons s rows ih =>
    rw [replaceRow_cons, replaceRow_cons, hchannel, huser]
    by_cases hs : s.hasKey r'.channel r'.user = true
    · rw [if_pos hs, if_pos hs, replaceRow_cons, if_pos h]
    · rw [if_neg hs, if_neg hs, replaceRow_cons, if_neg hs, ih]

/-- Rows for two places can be put there in either order.  The order of new rows is all that
shows. -/
theorem replaceRow_comm (h : r.hasKey r'.channel r'.user = false) (rows : List Row) :
    (replaceRow r' (replaceRow r rows)).Perm (replaceRow r (replaceRow r' rows)) := by
  have h' : r'.hasKey r.channel r.user = false := by
    rw [Bool.eq_false_iff] at h ⊢
    intro hkey
    obtain ⟨hchannel, huser⟩ := (Row.hasKey_iff ..).1 hkey
    exact h ((Row.hasKey_iff ..).2 ⟨hchannel.symm, huser.symm⟩)
  induction rows with
  | nil =>
    simp only [replaceRow, h, h', Bool.false_eq_true, if_false]
    exact .swap ..
  | cons s rows ih =>
    by_cases hs : s.hasKey r.channel r.user = true
    · by_cases hs' : s.hasKey r'.channel r'.user = true
      · obtain ⟨hchannel, huser⟩ := (Row.hasKey_iff ..).1 hs
        rw [Row.hasKey_iff, hchannel, huser, ← Row.hasKey_iff, h] at hs'
        cases hs'
      · simp only [replaceRow_cons, hs, hs', h, if_true, Bool.false_eq_true, if_false]
        exact .refl _
    · by_cases hs' : s.hasKey r'.channel r'.user = true
      · simp only [replaceRow_cons, hs, hs', h', if_true, Bool.false_eq_true, if_false]
        exact .refl _
      · simp only [replaceRow_cons, hs, hs', Bool.false_eq_true, if_false]
        exact ih.cons s

end CharacterTable

end CharacterLedger.Table
