import CharacterLedger.Table.Directory
import CharacterLedger.Table.Statement

/-!
# Why statements, directories and files fail

Whatever a statement is found unsound for, and whatever keeps a directory or a file from being made
or opened, is a fault that the database or the file system reports.

* `Statement.isOfStore_of_judge` — the faults of a statement;
* `Disk.isOfStore_of_makeDirectories`, `Disk.isOfStore_of_openFile` — the faults of directories and
  files;
* `Path.mem_toText` — the characters of the text that writes a path.
-/

namespace CharacterLedger.Table

theorem Statement.isOfStore_of_judge {st : Statement} {shape : Shape} {f : Fault}
    (h : st.judge shape = .error f) : f.isOfStore = true := by
  cases st with
  | version | columns | setUp => cases h
  | character | count | rows | save | insert | dropTable =>
    cases shape with
    | none =>
      cases h
      rfl
    | some events => cases h
  | addTrigger e | dropTrigger e =>
    cases shape with
    | none =>
      cases h
      rfl
    | some events =>
      simp only [Statement.judge] at h
      split at h
      · cases h <;> rfl
      · cases h <;> rfl

/-! ### Paths -/

/-- The characters of names with slashes between them. -/
theorem mem_intercalate {c : Char} {names : List String}
    (hc : c ∈ (String.intercalate "/" names).toList) :
    c = '/' ∨ ∃ name, name ∈ names ∧ c ∈ name.toList := by
  induction names with
  | nil => cases hc
  | cons name names ih =>
    cases names with
    | nil =>
      rw [String.intercalate_singleton] at hc
      exact .inr ⟨name, List.mem_singleton.2 rfl, hc⟩
    | cons second rest =>
      rw [String.intercalate_cons_cons, String.toList_append, String.toList_append,
        List.mem_append, List.mem_append] at hc
      obtain (hc | hc) | hc := hc
      · exact .inr ⟨name, List.mem_cons_self, hc⟩
      · exact .inl (List.mem_singleton.1 hc)
      · refine (ih hc).imp_right ?_
        rintro ⟨other, hother, hc⟩
        exact ⟨other, List.mem_cons_of_mem _ hother, hc⟩

/-- The characters of the text that writes a path. -/
theorem Path.mem_toText {c : Char} {p : Path} (hc : c ∈ p.toText.toList) :
    c = '/' ∨ c = '.' ∨ ∃ name, name ∈ p ∧ c ∈ name.toList := by
  unfold toText at hc
  split at hc
  · exact .inr (.inl (List.mem_singleton.1 hc))
  · rw [String.toList_append, List.mem_append] at hc
    obtain hc | hc := hc
    · exact .inl (List.mem_singleton.1 hc)
    · refine (mem_intercalate hc).imp_right fun hname => .inr ?_
      obtain ⟨name, hname, hc⟩ := hname
      exact ⟨name, List.mem_cons_of_mem _ hname, hc⟩
  · exact (mem_intercalate hc).imp_right .inr

/-! ### Directories and files -/

namespace Disk

variable {d : Disk} {r : Route} {f : Fault}

theorem isOfStore_of_walkOn {p : Path} {name : String} (h : d.walkOn p name = .error f) :
    f.isOfStore = true := by
  unfold walkOn at h
  split at h
  · cases h
    rfl
  · cases h
    rfl
  · split at h
    · cases h
      rfl
    · cases h

theorem isOfStore_of_walk (h : d.walk r = .error f) : f.isOfStore = true := by
  unfold walk at h
  generalize r.start = p at h
  generalize r.steps = names at h
  induction names generalizing p with
  | nil => cases h
  | cons name names ih =>
    rw [List.foldlM_cons] at h
    cases hn : d.walkOn p name with
    | error g =>
      rw [hn] at h
      cases h
      exact isOfStore_of_walkOn hn
    | ok q =>
      rw [hn] at h
      exact ih q h

theorem isOfStore_of_makeDirectory {target : Except Fault Path}
    (htarget : ∀ g, target = .error g → g.isOfStore = true)
    (h : (d.makeDirectory r target).2 = .error f) : f.isOfStore = true := by
  unfold makeDirectory at h
  split at h
  · cases h
    rfl
  · split at h
    · cases h
      exact htarget f rfl
    · split at h
      · cases h
      · cases h
      · cases h
        rfl

theorem isOfStore_of_ensureDirectory {n : Nat} (h : (d.ensureDirectory n r).2 = .error f) :
    f.isOfStore = true := by
  induction n generalizing d r f with
  | zero => exact isOfStore_of_makeDirectory (fun g => isOfStore_of_walk) h
  | succ n ih =>
    unfold ensureDirectory at h
    split at h
    · split at h
      · refine isOfStore_of_makeDirectory ?_ h
        intro g hg
        unfold walkLast at hg
        split at hg
        · cases hg
        · exact isOfStore_of_walkOn hg
      · next hensure =>
        cases h
        exact ih (congrArg Prod.snd hensure)
    · exact isOfStore_of_makeDirectory (fun g => isOfStore_of_walk) h

theorem isOfStore_of_makeDirectories (h : (d.makeDirectories r).2 = .error f) :
    f.isOfStore = true := by
  unfold makeDirectories at h
  rcases he : d.ensureDirectory r.steps.length r with ⟨d', place⟩
  rw [he] at h
  cases place with
  | error g =>
    cases h
    exact isOfStore_of_ensureDirectory (congrArg Prod.snd he)
  | ok p => cases h

theorem isOfStore_of_openFile {a : Address} (h : d.openFile a = .error f) :
    f.isOfStore = true := by
  unfold openFile at h
  split at h
  · cases h
    rfl
  · split at h
    · cases h
      rfl
    · cases h
    · split at h
      · cases h
      · cases h
        rfl

end Disk

end CharacterLedger.Table
