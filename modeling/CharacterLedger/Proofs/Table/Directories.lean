import CharacterLedger.Proofs.Table.Files

/-!
# Directories and files that are there already

What has been made once is found the next time.  A directory that was made with those on the way to
it is a walk along directories from then on, which neither a new file nor another content of a file
breaks; and a file that has been opened is the one that its address leads to.

* `Disk.KeepsDirectories` — all directories stay where they are;
* `Disk.makeDirectories_again` — what has been made need not be made again;
* `Disk.openFile_eq_self_iff` — an address that leads to a file that is there;
* `Disk.openFile_again` — a file that was opened at a plain path is there from then on.
-/

namespace CharacterLedger.Table

namespace Disk

variable {d e f : Disk}

/-! ### Directories stay -/

/-- All directories are where they were. -/
def KeepsDirectories (d e : Disk) : Prop :=
  ∀ p, d.node? p = some .directory → e.node? p = some .directory

theorem KeepsDirectories.trans (h : KeepsDirectories d e) (h' : KeepsDirectories e f) :
    KeepsDirectories d f :=
  fun p hp => h' p (h p hp)

theorem keepsDirectories_addNode (d : Disk) (p : Path) (n : Node) :
    KeepsDirectories d (d.addNode p n) := by
  intro q hq
  rw [node?_addNode]
  unfold node? at hq
  split at hq
  · next htop => rw [if_pos htop]
  · next htop => rw [if_neg htop, hq, Option.some_or]

/-- A file at a path that led nowhere is no directory's place. -/
theorem keepsDirectories_withNewFile {p : Path} (hp : d.node? p = none) :
    KeepsDirectories d (d.withNewFile p) := by
  intro q hq
  have hne : q ≠ p := by
    rintro rfl
    rw [hp] at hq
    cases hq
  rw [node?_withNewFile hp, if_neg hne, hq]

theorem keepsDirectories_setContent (d : Disk) (id : Nat) (content : Database) :
    KeepsDirectories d (d.setContent id content) :=
  fun _ h => h

/-! ### Walks -/

theorem walkOn_eq_ok {p q : Path} {name : String} (h : d.walkOn p name = .ok q) :
    d.node? p = some .directory ∧ q = p.enter name := by
  unfold walkOn at h
  cases hp : d.node? p with
  | none =>
    rw [hp] at h
    cases h
  | some n =>
    rw [hp] at h
    cases n with
    | file id => cases h
    | directory =>
      simp only at h
      split at h
      · cases h
      · exact ⟨rfl, (Except.ok.inj h).symm⟩

/-- A step that could be made can be made as long as the directories stay. -/
theorem walkOn_of_keeps (hkeeps : KeepsDirectories d e) {p q : Path} {name : String}
    (h : d.walkOn p name = .ok q) : e.walkOn p name = .ok q := by
  obtain ⟨hp, -⟩ := walkOn_eq_ok h
  rw [← h]
  unfold walkOn
  rw [hp, hkeeps p hp]

theorem foldlM_walkOn_of_keeps (hkeeps : KeepsDirectories d e) {names : List String} {p q : Path}
    (h : names.foldlM d.walkOn p = .ok q) : names.foldlM e.walkOn p = .ok q := by
  induction names generalizing p with
  | nil => exact h
  | cons name names ih =>
    rw [List.foldlM_cons] at h ⊢
    cases hp : d.walkOn p name with
    | error f =>
      rw [hp] at h
      cases h
    | ok p' =>
      rw [hp] at h
      rw [walkOn_of_keeps hkeeps hp]
      exact ih h

/-- **A walk that could be made** can be made as long as the directories stay. -/
theorem walk_of_keeps (hkeeps : KeepsDirectories d e) {r : Route} {p : Path}
    (h : d.walk r = .ok p) : e.walk r = .ok p :=
  foldlM_walkOn_of_keeps hkeeps h

/-- A walk is the walk to the place before, and the last step. -/
theorem walk_eq_walkLast {r : Route} {p : Path} (h : d.walk r.parent = .ok p) :
    d.walk r = d.walkLast p r := by
  obtain ⟨start, steps⟩ := r
  unfold walk Route.parent at h
  unfold walk walkLast
  simp only at h ⊢
  cases hlast : steps.getLast? with
  | none =>
    rw [List.getLast?_eq_none_iff] at hlast
    subst hlast
    exact h
  | some name =>
    obtain ⟨front, rfl⟩ := List.getLast?_eq_some_iff.1 hlast
    rw [List.dropLast_concat] at h
    rw [List.foldlM_append, h]
    show (d.walkOn p name >>= fun q => .ok q) = d.walkOn p name
    cases d.walkOn p name <;> rfl

/-! ### Directories that have been made -/

theorem makeDirectory_eq_ok {r : Route} {target : Except Fault Path} {p : Path}
    (h : d.makeDirectory r target = (e, .ok p)) :
    target = .ok p ∧ e.node? p = some .directory ∧ r.toText.utf8ByteSize ≤ Path.longestPath ∧
      KeepsDirectories d e := by
  unfold makeDirectory at h
  split at h
  · cases h
  · next hsize =>
    cases target with
    | error f => cases h
    | ok q =>
      simp only at h
      cases hq : d.node? q with
      | none =>
        rw [hq] at h
        cases h
        refine ⟨rfl, ?_, by omega, keepsDirectories_addNode d _ _⟩
        rw [node?_addNode, if_pos rfl]
        unfold node? at hq
        split at hq
        · cases hq
        · next htop => rw [if_neg htop, hq, Option.none_or]
      | some n =>
        rw [hq] at h
        cases n with
        | file id => cases h
        | directory =>
          cases h
          exact ⟨rfl, hq, by omega, fun _ h => h⟩

/-- A directory that was made where a walk leads to is where the walk leads to. -/
theorem walk_of_makeDirectory {r : Route} {target : Except Fault Path} {p : Path}
    (htarget : ∀ q, target = .ok q → d.walk r = .ok q)
    (h : d.makeDirectory r target = (e, .ok p)) :
    e.walk r = .ok p ∧ e.node? p = some .directory ∧
      r.toText.utf8ByteSize ≤ Path.longestPath := by
  obtain ⟨hp, hnode, hsize, hkeeps⟩ := makeDirectory_eq_ok h
  exact ⟨walk_of_keeps hkeeps (htarget p hp), hnode, hsize⟩

/-- Once a directory has been made, a walk leads there. -/
theorem ensureDirectory_eq_ok {n : Nat} {r : Route} {p : Path}
    (h : d.ensureDirectory n r = (e, .ok p)) :
    e.walk r = .ok p ∧ e.node? p = some .directory ∧
      r.toText.utf8ByteSize ≤ Path.longestPath := by
  induction n generalizing d e r p with
  | zero => exact walk_of_makeDirectory (fun q hq => hq) h
  | succ n ih =>
    unfold ensureDirectory at h
    split at h
    · rcases hparent : d.ensureDirectory n r.parent with ⟨e', result⟩
      rw [hparent] at h
      cases result with
      | error f => cases h
      | ok p' =>
        obtain ⟨hwalk, -, -⟩ := ih hparent
        exact walk_of_makeDirectory (fun q hq => (walk_eq_walkLast hwalk).trans hq) h
    · exact walk_of_makeDirectory (fun q hq => hq) h

/-- Directories that have been made are a walk from then on. -/
theorem exists_walk_of_made {r : Route} (h : d.makeDirectories r = (e, .ok ())) :
    ∃ p, e.walk r = .ok p ∧ e.node? p = some .directory ∧
      r.toText.utf8ByteSize ≤ Path.longestPath := by
  unfold makeDirectories at h
  rcases hmade : d.ensureDirectory r.steps.length r with ⟨e', result⟩
  rw [hmade] at h
  cases result with
  | error f => cases h
  | ok p =>
    cases h
    exact ⟨p, ensureDirectory_eq_ok hmade⟩

/-- **Directories that have been made** need not be made again while they stay. -/
theorem makeDirectories_again {r : Route} (h : d.makeDirectories r = (e, .ok ()))
    (hkeeps : KeepsDirectories e f) : f.makeDirectories r = (f, .ok ()) := by
  obtain ⟨p, hwalk, hnode, hsize⟩ := exists_walk_of_made h
  exact makeDirectories_of_exists (walk_of_keeps hkeeps hwalk) (hkeeps p hnode) hsize

/-! ### Files that have been opened -/

/-- An address leads to a file that is there if it is opened and the disk stays as it is. -/
theorem openFile_eq_self_iff {a : Address} {p : Path} {id : Nat} :
    d.openFile a = .ok (d, p, id) ↔ d.reach a.path = some p ∧ d.node? p = some (.file id) := by
  constructor
  · intro h
    obtain ⟨hp, ⟨-, hnode⟩ | ⟨-, -, hnew⟩⟩ := openFile_eq_ok h
    · refine ⟨?_, hnode⟩
      cases hr : d.reach a.path with
      | none =>
        rw [openFile, hr] at h
        cases h
      | some q => rw [hp, ← reach_eq_some hr]
    · have hlength := congrArg (fun disk => disk.files.length) hnew
      simp only [length_withNewFile] at hlength
      omega
  · rintro ⟨hr, hnode⟩
    simp only [openFile, hr, hnode]

/-- To write to a file what is in it changes nothing. -/
theorem setContent_content (d : Disk) (id : Nat) : d.setContent id (d.content id) = d := by
  have hfiles : d.files.modify id (fun f => { f with content := d.content id }) = d.files := by
    apply List.ext_getElem?
    intro i
    rw [List.getElem?_modify]
    by_cases hi : id = i
    · subst hi
      unfold content
      cases hf : d.files[id]? <;> simp
    · simp [hi]
  unfold setContent
  rw [hfiles]

/-- The content of files decides nothing about which file is opened. -/
theorem openFile_setContent {a : Address} {p : Path} {id other : Nat} (content : Database)
    (h : d.openFile a = .ok (d, p, id)) :
    (d.setContent other content).openFile a = .ok (d.setContent other content, p, id) := by
  obtain ⟨hreach, hnode⟩ := openFile_eq_self_iff.1 h
  exact openFile_eq_self_iff.2 ⟨hreach, hnode⟩

/-- Along directories that stay, a text leads where it led. -/
theorem foldlM_approach_of_keeps (hkeeps : KeepsDirectories d e) {names : List String}
    {last : String} {p q : Path} (h : names.foldlM d.walkOn p = .ok q)
    (hq : d.node? q = some .directory) :
    (names ++ [last]).foldlM e.approach p = (names ++ [last]).foldlM d.approach p := by
  have hstep : ∀ {p : Path} (name : String), d.node? p = some .directory →
      e.approach p name = d.approach p name := by
    intro p name hp
    simp only [approach, isFile, isDirectory, hp, hkeeps p hp]
  induction names generalizing p with
  | nil =>
    cases h
    rw [List.nil_append, List.foldlM_cons, List.foldlM_cons, hstep last hq]
    rfl
  | cons name names ih =>
    rw [List.foldlM_cons] at h
    cases hp : d.walkOn p name with
    | error f =>
      rw [hp] at h
      cases h
    | ok p' =>
      rw [hp] at h
      obtain ⟨hnode, rfl⟩ := walkOn_eq_ok hp
      rw [List.cons_append, List.foldlM_cons, List.foldlM_cons, hstep name hnode]
      cases ha : d.approach p name with
      | none => rfl
      | some p' =>
        obtain rfl := approach_eq_some ha
        exact ih h

/-- **A file that was opened at a plain path**, after the directories on the way to it have been
made, is there from then on. -/
theorem openFile_again {path : String} {p : Path} {id : Nat}
    (hmade : d.makeDirectories (Route.ofText path).parent = (e, .ok ()))
    (h : e.openFile (.ofPath path) = .ok (f, p, id)) :
    f.openFile (.ofPath path) = .ok (f, p, id) := by
  obtain ⟨hp, ⟨rfl, -⟩ | ⟨hnone, rfl, rfl⟩⟩ := openFile_eq_ok h
  · exact h
  · have hreach : e.reach path = some p := by
      cases hr : e.reach path with
      | none =>
        rw [openFile, show (Address.ofPath path).path = path from rfl, hr] at h
        cases h
      | some q => rw [hp, reach_eq_some hr]; rfl
    refine openFile_eq_self_iff.2 ⟨?_, by rw [node?_withNewFile hnone, if_pos rfl]⟩
    show (e.withNewFile p).reach path = some p
    rw [← hreach]
    obtain ⟨q, hwalk, hnode, -⟩ := exists_walk_of_made hmade
    unfold walk Route.parent Route.ofText at hwalk
    simp only at hwalk
    unfold reach
    cases hlast : (Path.steps path).getLast? with
    | none =>
      rw [List.getLast?_eq_none_iff] at hlast
      rw [hlast]
      rfl
    | some last =>
      obtain ⟨front, hsteps⟩ := List.getLast?_eq_some_iff.1 hlast
      rw [hsteps, List.dropLast_concat] at hwalk
      rw [hsteps]
      exact foldlM_approach_of_keeps (keepsDirectories_withNewFile hnone) hwalk hnode

end Disk

end CharacterLedger.Table
