import CharacterLedger.Table.Directory

/-!
# Files stay where they are

The disk is a tree of nodes and a list of files.  Making directories adds nodes and never touches a
file; opening a file finds one or adds one at the end of the list.

* `Disk.KeepsFiles` — the same files, at the same paths;
* `Disk.keepsFiles_makeDirectories` — making directories keeps all files;
* `Disk.openFile_eq_ok` — the file at an address is the one its path leads to, or a new one there.
-/

namespace CharacterLedger.Table

namespace Disk

variable {d e : Disk}

/-! ### Nodes -/

theorem node?_addNode (d : Disk) (p q : Path) (n : Node) :
    (d.addNode p n).node? q = if q.isTop then some .directory
      else (d.nodes.lookup q).or (if q = p then some n else none) := by
  unfold node? addNode
  by_cases hq : q.isTop = true
  · rw [if_pos hq, if_pos hq]
  · rw [if_neg hq, if_neg hq, List.lookup_append]
    by_cases h : q = p
    · simp [h]
    · have : (q == p) = false := by simpa using h
      simp [List.lookup_cons, h, this]

@[simp] theorem length_setContent (d : Disk) (id : Nat) (db : Database) :
    (d.setContent id db).files.length = d.files.length :=
  List.length_modify ..

@[simp] theorem isForeign_setContent (d : Disk) (id : Nat) (db : Database) :
    (d.setContent id db).isForeign id = d.isForeign id := by
  cases hf : d.files[id]? <;> simp [isForeign, setContent, hf]

@[simp] theorem hold?_setContent (d : Disk) (id : Nat) (db : Database) :
    (d.setContent id db).hold? id = d.hold? id := by
  simp [hold?, setContent, Function.comp_def]

theorem content_addFile (d : Disk) (id : Nat) :
    (d.addFile .empty).1.content id = d.content id := by
  unfold content addFile
  rw [List.getElem?_append]
  by_cases h : id < d.files.length
  · rw [if_pos h]
  · rw [if_neg h]
    have hnone : d.files[id]? = none := List.getElem?_eq_none (by omega)
    rw [hnone]
    cases hi : id - d.files.length with
    | zero => rfl
    | succ n => rfl

/-- The file that a path leads to. -/
def fileAt? (d : Disk) (p : Path) : Option Nat :=
  match d.node? p with
  | some (.file id) => some id
  | _ => none

@[simp] theorem fileAt?_empty (p : Path) : empty.fileAt? p = none := by
  unfold fileAt? node?
  cases p.isTop <;> rfl

theorem fileAt?_eq_some_iff (d : Disk) (p : Path) (id : Nat) :
    d.fileAt? p = some id ↔ d.node? p = some (.file id) := by
  unfold fileAt?
  split
  · next found h => simp [h]
  · next h =>
    constructor
    · intro hf
      cases hf
    · exact fun hf => absurd hf (h id)

/-- With a new file at a path, all paths still lead to files that there are. -/
theorem lt_of_fileAt?_addFile {d : Disk} (h : ∀ p id, d.fileAt? p = some id → id < d.files.length)
    (content : Database) (q : Path) {p : Path} {id : Nat}
    (hid : ((d.addFile content).1.addNode q (.file d.files.length)).fileAt? p = some id) :
    id < ((d.addFile content).1.addNode q (.file d.files.length)).files.length := by
  have hlength : ((d.addFile content).1.addNode q (.file d.files.length)).files.length =
      d.files.length + 1 := by simp [addNode, addFile]
  rw [hlength]
  rw [fileAt?_eq_some_iff, node?_addNode] at hid
  by_cases htop : p.isTop = true
  · rw [if_pos htop] at hid
    cases hid
  · rw [if_neg htop] at hid
    cases hold : (d.addFile content).1.nodes.lookup p with
    | some node =>
      rw [hold, Option.some_or, Option.some.injEq] at hid
      have hbefore : d.node? p = some (.file id) := by
        rw [node?, if_neg htop, ← hid]
        exact hold
      exact Nat.lt_succ_of_lt (h p id ((fileAt?_eq_some_iff d p id).2 hbefore))
    | none =>
      rw [hold, Option.none_or] at hid
      by_cases hp : p = q
      · rw [if_pos hp] at hid
        cases hid
        exact Nat.lt_succ_self _
      · rw [if_neg hp] at hid
        cases hid

/-! ### Making directories -/

/-- The same files are at the same paths. -/
structure KeepsFiles (d e : Disk) : Prop where
  files : e.files = d.files
  node? : ∀ p id, e.node? p = some (.file id) ↔ d.node? p = some (.file id)

namespace KeepsFiles

theorem refl (d : Disk) : KeepsFiles d d := ⟨rfl, fun _ _ => Iff.rfl⟩

theorem trans {f : Disk} (h : KeepsFiles d e) (h' : KeepsFiles e f) : KeepsFiles d f :=
  ⟨h'.files.trans h.files, fun p id => (h'.node? p id).trans (h.node? p id)⟩

theorem content (h : KeepsFiles d e) (id : Nat) : e.content id = d.content id := by
  unfold Disk.content
  rw [h.files]

theorem fileAt? (h : KeepsFiles d e) (p : Path) : e.fileAt? p = d.fileAt? p := by
  apply Option.ext
  intro id
  rw [fileAt?_eq_some_iff, fileAt?_eq_some_iff]
  exact h.node? p id

end KeepsFiles

theorem keepsFiles_addNode (d : Disk) (p : Path) : KeepsFiles d (d.addNode p .directory) := by
  refine ⟨rfl, ?_⟩
  intro q id
  rw [node?_addNode]
  unfold node?
  by_cases hq : q.isTop = true
  · rw [if_pos hq, if_pos hq]
  · rw [if_neg hq, if_neg hq]
    cases d.nodes.lookup q with
    | none =>
      by_cases hp : q = p
      · simp [hp]
      · simp [hp]
    | some n => simp

theorem keepsFiles_makeDirectory (d : Disk) (r : Route) (target : Except Fault Path) :
    KeepsFiles d (d.makeDirectory r target).1 := by
  unfold makeDirectory
  split
  · exact .refl d
  · split
    · exact .refl d
    · next p =>
      cases d.node? p with
      | none => exact keepsFiles_addNode d p
      | some n => cases n <;> exact .refl d

theorem keepsFiles_ensureDirectory (n : Nat) (d : Disk) (r : Route) :
    KeepsFiles d (d.ensureDirectory n r).1 := by
  induction n generalizing d r with
  | zero => exact keepsFiles_makeDirectory d r _
  | succ n ih =>
    unfold ensureDirectory
    split
    · -- a directory on the way is missing, and is made first
      have hparent := ih d r.parent
      rcases hp : d.ensureDirectory n r.parent with ⟨e, result⟩
      rw [hp] at hparent
      cases result with
      | error f => exact hparent
      | ok p => exact hparent.trans (keepsFiles_makeDirectory e r _)
    · exact keepsFiles_makeDirectory d r _

/-- **Making directories keeps all files.** -/
theorem keepsFiles_makeDirectories (d : Disk) (r : Route) : KeepsFiles d (d.makeDirectories r).1 :=
  keepsFiles_ensureDirectory r.steps.length d r

/-! ### Opening files -/

theorem approach_eq_some {p q : Path} {name : String} (h : d.approach p name = some q) :
    q = p.enter name := by
  unfold approach at h
  unfold Path.enter
  split at h
  · next hb => rw [if_pos hb, Option.some.inj h]
  · next hb =>
    rw [if_neg hb]
    split at h
    · cases h
    · split at h
      · cases h
      · split at h
        · cases h
        · exact (Option.some.inj h).symm

theorem foldlM_approach_eq_some {names : List String} {p q : Path}
    (h : names.foldlM d.approach p = some q) : q = names.foldl Path.enter p := by
  induction names generalizing p with
  | nil => exact (Option.some.inj h).symm
  | cons name names ih =>
    rw [List.foldlM_cons, Option.bind_eq_bind, Option.bind_eq_some_iff] at h
    obtain ⟨p', hp', hrest⟩ := h
    rw [List.foldl_cons, ← approach_eq_some hp']
    exact ih hrest

/-- A text leads where its path does, if it leads anywhere. -/
theorem reach_eq_some {text : String} {p : Path} (h : d.reach text = some p) :
    p = Path.ofText text :=
  foldlM_approach_eq_some h

/-- The disk with a new file without content at a path. -/
def withNewFile (d : Disk) (p : Path) : Disk :=
  (d.addFile .empty).1.addNode p (.file d.files.length)

/-- **The file at an address** is the one that its path leads to, or a new one there. -/
theorem openFile_eq_ok {a : Address} {p : Path} {id : Nat}
    (h : d.openFile a = .ok (e, p, id)) :
    p = Path.ofText a.path ∧
      ((e = d ∧ d.node? p = some (.file id)) ∨
        (d.node? p = none ∧ id = d.files.length ∧ e = d.withNewFile p)) := by
  unfold openFile at h
  cases hr : d.reach a.path with
  | none =>
    rw [hr] at h
    cases h
  | some q =>
    rw [hr] at h
    simp only at h
    have hq := reach_eq_some hr
    cases hn : d.node? q with
    | none =>
      rw [hn] at h
      simp only at h
      split at h
      · cases h
        exact ⟨hq, .inr ⟨hn, rfl, rfl⟩⟩
      · cases h
    | some n =>
      rw [hn] at h
      cases n with
      | directory => cases h
      | file found =>
        cases h
        exact ⟨hq, .inl ⟨rfl, hn⟩⟩

@[simp] theorem content_withNewFile (d : Disk) (p : Path) (id : Nat) :
    (d.withNewFile p).content id = d.content id :=
  content_addFile d id

@[simp] theorem length_withNewFile (d : Disk) (p : Path) :
    (d.withNewFile p).files.length = d.files.length + 1 := by
  simp [withNewFile, addFile, addNode]

theorem node?_withNewFile {p : Path} (h : d.node? p = none) (q : Path) :
    (d.withNewFile p).node? q =
      if q = p then some (.file d.files.length) else d.node? q := by
  unfold withNewFile
  rw [node?_addNode]
  unfold node? at h ⊢
  by_cases hq : q.isTop = true
  · rw [if_pos hq, if_pos hq]
    by_cases hp : q = p
    · rw [← hp, if_pos hq] at h
      cases h
    · rw [if_neg hp]
  · rw [if_neg hq, if_neg hq]
    by_cases hp : q = p
    · rw [← hp, if_neg hq] at h
      simp [addFile, hp ▸ h, hp]
    · simp [addFile, hp]

theorem fileAt?_withNewFile {p : Path} (h : d.node? p = none) :
    (d.withNewFile p).fileAt? p = some d.files.length := by
  rw [fileAt?_eq_some_iff, node?_withNewFile h, if_pos rfl]

end Disk

end CharacterLedger.Table
