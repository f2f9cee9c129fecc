import CharacterLedger.Proofs.Ledger.Runs
import Mathlib.Data.Finset.Card

/-!
# One holder for each character

A lock is forgotten when nobody needs it, and made anew when somebody asks for it again.  It may be
forgotten at any moment at which nobody holds it or waits for it, and need not be.  Tasks of any
kind come to locks, wait for them, take them and give them back, whether they succeed or fail.

* `System.collect` — the system once some idle locks are forgotten;
* `CollectedRun` — the runs in which that may happen at any time;
* `Lines.isIdle_iff`, `Lines.size_forgetIdle` — which locks can be forgotten, and how many are left;
* `CollectedRun.exclusive` — what is true of locks and tasks in every state of such a run.
-/

namespace CharacterLedger.Ledger

open CharacterLedger.Storage

/-! ### What the lines say of the register -/

namespace Lines

variable {l : KeyLocks} {standing : Nat → Option Standing}

/-- A key is registered with the lock that its tasks hold or wait for. -/
theorem lookup_eq (h : Lines l standing) {id : Nat} {st : Standing} (hid : standing id = some st) :
    l.register.lookup st.key = some st.lock :=
  (lookup_eq_some_iff_mem h.sound.keys).2 (h.registered id st hid)

/-- The tasks in the line of a registered lock are those that are there for its key. -/
theorem mem_line_iff (h : Lines l standing) {key : Key} {lock id : Nat}
    (hkey : (key, lock) ∈ l.register) :
    id ∈ l.line lock ↔ ∃ st, standing id = some st ∧ st.key = key := by
  rw [h.line]
  constructor
  · rintro ⟨st, hst, rfl⟩
    exact ⟨st, hst, h.sound.key_unique (h.registered id st hst) hkey⟩
  · rintro ⟨st, hst, rfl⟩
    exact ⟨st, hst, h.sound.lock_unique (h.registered id st hst) hkey⟩

/-- A registered lock is idle when no task is there for its key. -/
theorem isIdle_iff (h : Lines l standing) {key : Key} {lock : Nat}
    (hkey : (key, lock) ∈ l.register) :
    l.isIdle lock = true ↔ ∀ id st, standing id = some st → st.key ≠ key := by
  rw [KeyLocks.isIdle, List.isEmpty_iff, List.eq_nil_iff_forall_not_mem]
  constructor
  · intro hempty id st hst heq
    exact hempty id ((h.mem_line_iff hkey).2 ⟨st, hst, heq⟩)
  · intro hnone id hid
    obtain ⟨st, hst, heq⟩ := (h.mem_line_iff hkey).1 hid
    exact hnone id st hst heq

/-- Once all idle locks are forgotten, the keys that are left are those of the tasks. -/
theorem mem_keys_forgetIdle (h : Lines l standing) (key : Key) :
    key ∈ l.forgetIdle.register.map Prod.fst ↔ ∃ id st, standing id = some st ∧ st.key = key := by
  obtain ⟨-, -, hregister⟩ := KeyLocks.forgetIdle_spec h.sound
  constructor
  · intro hkey
    obtain ⟨⟨key, lock⟩, hm, rfl⟩ := List.mem_map.1 hkey
    obtain ⟨hold, hbusy⟩ := (hregister key lock).1 hm
    obtain ⟨id, hid⟩ := List.exists_mem_of_ne_nil _ hbusy
    exact ⟨id, (h.mem_line_iff hold).1 hid⟩
  · rintro ⟨id, st, hst, rfl⟩
    have hold := h.registered id st hst
    have hid : id ∈ l.line st.lock := (h.line id st.lock).2 ⟨st, hst, rfl⟩
    exact List.mem_map.2 ⟨_, (hregister _ _).2 ⟨hold, List.ne_nil_of_mem hid⟩, rfl⟩

/-- Once all idle locks are forgotten, there are as many as there are keys in use. -/
theorem size_forgetIdle (h : Lines l standing) {keys : Finset Key}
    (hkeys : ∀ key, key ∈ keys ↔ ∃ id st, standing id = some st ∧ st.key = key) :
    l.forgetIdle.size = keys.card := by
  have hnodup : (l.forgetIdle.register.map Prod.fst).Nodup :=
    (KeyLocks.forgetIdle_spec h.sound).1.keys
  have hsame : (l.forgetIdle.register.map Prod.fst).toFinset = keys := by
    ext key
    rw [List.mem_toFinset, h.mem_keys_forgetIdle, hkeys]
  rw [← hsame, List.toFinset_card_of_nodup hnodup, List.length_map]
  rfl

end Lines

namespace System

variable {s s' : System}

/-- The keys that some task holds the lock of or waits for. -/
def keysInUse (s : System) : Finset Key :=
  ((s.tasks.filterMap Task.standing?).map Standing.key).toFinset

theorem mem_keysInUse (s : System) (key : Key) :
    key ∈ s.keysInUse ↔ ∃ id st, s.standing id = some st ∧ st.key = key := by
  simp only [keysInUse, List.mem_toFinset, List.mem_map, List.mem_filterMap, standing]
  constructor
  · rintro ⟨st, ⟨t, ht, hst⟩, rfl⟩
    obtain ⟨id, hid⟩ := List.getElem?_of_mem ht
    exact ⟨id, st, by rw [hid]; exact hst, rfl⟩
  · rintro ⟨id, st, hst, rfl⟩
    obtain ⟨t, ht, hst⟩ := Option.bind_eq_some_iff.1 hst
    exact ⟨st, ⟨t, List.mem_of_getElem? ht, hst⟩, rfl⟩

/-- The system without those locks that are not kept. -/
def collect (s : System) (kept : Nat → Bool) : System :=
  { s with world := s.world.withLocks (s.world.locks.keep kept) }

/-- The stages of the tasks and the lines of the locks are in order. -/
structure Lined (s : System) : Prop where
  fits : ∀ (id : Nat) (t : Task), s.tasks[id]? = some t → Task.Fits t.call t.stage
  lines : Lines s.world.locks s.standing

theorem Lined.step (h : s.Lined) {id : Nat} {choice : Choice} (hstep : s.step id choice = some s') :
    s'.Lined := by
  obtain ⟨t, t', ht, hset, hcall, hmove⟩ := moves_of_step hstep
  exact ⟨fits_of_step h.fits hstep,
    lines_of_step h.lines (h.fits id t ht) ht hset hcall hmove⟩

theorem Lined.collect (h : s.Lined) {kept : Nat → Bool}
    (hidle : ∀ lock, kept lock = false → s.world.locks.isIdle lock = true) :
    (s.collect kept).Lined :=
  ⟨h.fits, h.lines.keep fun lock hlock => List.isEmpty_iff.1 (hidle lock hlock)⟩

theorem lined_start {w : World} {calls : List Call} (hsound : w.locks.Sound)
    (hidle : ∀ lock, w.locks.line lock = []) : (start w calls).Lined := by
  refine ⟨fits_start, ?_⟩
  · rw [standing_start]
    refine ⟨hsound, ?_, ?_, nofun, nofun⟩
    · intro id lock
      rw [show (start w calls).world.locks.line lock = [] from hidle lock]
      exact ⟨nofun, nofun⟩
    · intro lock
      rw [show (start w calls).world.locks.line lock = [] from hidle lock]
      exact List.nodup_nil

/-- Forgetting all idle locks is one way to forget some. -/
theorem Lined.forgetLocks_eq (h : s.Lined) :
    s.forgetLocks = s.collect fun lock => !s.world.locks.isIdle lock := by
  rw [forgetLocks, System.collect, KeyLocks.forgetIdle_eq_keep h.lines.sound]

end System

/-! ### Runs -/

/-- The runs of a system in which any locks that nobody holds or waits for may be forgotten at any
time. -/
inductive CollectedRun (s₀ : System) : System → Prop
  | start : CollectedRun s₀ s₀
  /-- A task takes a step. -/
  | step {s s' : System} {id : Nat} {choice : Choice} (run : CollectedRun s₀ s)
      (step : s.step id choice = some s') : CollectedRun s₀ s'
  /-- Some idle locks are forgotten. -/
  | collect {s : System} {kept : Nat → Bool} (run : CollectedRun s₀ s)
      (idle : ∀ lock, kept lock = false → s.world.locks.isIdle lock = true) :
      CollectedRun s₀ (s.collect kept)

namespace CollectedRun

variable {s₀ s : System}

theorem lined (h : CollectedRun s₀ s) (hlined : s₀.Lined) : s.Lined := by
  induction h with
  | start => exact hlined
  | step _ step ih => exact ih.step step
  | collect _ idle ih => exact ih.collect idle

/-- The runs in which all idle locks are forgotten at once are among these. -/
theorem of_run {es : List Event} (h : Run s₀ es s) (hlined : s₀.Lined) : CollectedRun s₀ s := by
  induction h with
  | start => exact .start
  | step _ step ih => exact ih.step step
  | forget _ ih =>
    rw [(ih.lined hlined).forgetLocks_eq]
    exact ih.collect (by simp)

/-- **In every state of every run there is one lock for each key, and one holder.**  Two tasks that
are inside the lock of one key are the same task.  Every task that holds a lock or waits for it does
so with the lock that its key is registered with, and no lock is registered for two keys.  A
registered lock is idle, and may be forgotten, exactly when no task is there for its key; and once
all that may be are forgotten, there are as many locks as keys in use. -/
theorem exclusive {w : World} {calls : List Call} (hsound : w.locks.Sound)
    (hidle : ∀ lock, w.locks.line lock = []) (hrun : CollectedRun (System.start w calls) s) :
    (∀ id other st st', s.standing id = some st → s.standing other = some st' →
      st.key = st'.key → st.holds = true → st'.holds = true → id = other) ∧
    (∀ id st, s.standing id = some st → s.world.locks.register.lookup st.key = some st.lock) ∧
    (∀ key key' lock, (key, lock) ∈ s.world.locks.register →
      (key', lock) ∈ s.world.locks.register → key = key') ∧
    (∀ key lock, (key, lock) ∈ s.world.locks.register →
      (s.world.locks.isIdle lock = true ↔ ∀ id st, s.standing id = some st → st.key ≠ key)) ∧
    s.forgetLocks.world.locks.size = s.keysInUse.card := by
  have hlines := (hrun.lined (System.lined_start hsound hidle)).lines
  refine ⟨?_, ?_, ?_, ?_, ?_⟩
  · intro id other st st' hid hother hkey hholds hholds'
    exact hlines.holder_unique hid hother hholds hholds' hkey
  · exact fun id st hid => hlines.lookup_eq hid
  · exact fun key key' lock hkey hkey' => hlines.sound.key_unique hkey hkey'
  · exact fun key lock hkey => hlines.isIdle_iff hkey
  · exact hlines.size_forgetIdle s.mem_keysInUse

/-- One task holds the lock of a character and another waits for it.  The lock of a second character
has been given back and forgotten, and a third task has got a new one for it. -/
theorem exclusive_of_two_characters :
    ∃ s, CollectedRun (System.start (World.withRow (.blank "c" "u") 2 (.script 0 []))
        [.holdLock (.text "c") (.text "u"), .execute (.method (.view (.text "c") (.text "u"))),
          .holdLock (.text "c") (.text "v"), .holdLock (.text "c") (.text "v")]) s ∧
      s.standing 0 = some ⟨0, ⟨.text "c", .text "u"⟩, true⟩ ∧
      s.standing 1 = some ⟨0, ⟨.text "c", .text "u"⟩, false⟩ ∧
      s.standing 3 = some ⟨2, ⟨.text "c", .text "v"⟩, true⟩ ∧
      (∀ id st, s.standing id = some st → st.key = ⟨.text "c", .text "u"⟩ → st.holds = true →
        id = 0) ∧
      s.world.locks.register.lookup ⟨.text "c", .text "v"⟩ = some 2 ∧
      s.forgetLocks.world.locks.size = 2 := by
  let calls : List Call := [.holdLock (.text "c") (.text "u"),
    .execute (.method (.view (.text "c") (.text "u"))), .holdLock (.text "c") (.text "v"),
    .holdLock (.text "c") (.text "v")]
  let w := World.withRow (.blank "c" "u") 2 (.script 0 [])
  let before : List (Nat × Choice) :=
    [(0, .go), (0, .go), (1, .go), (2, .go), (2, .go), (2, .finish)]
  have hlined : (System.start w calls).Lined :=
    System.lined_start KeyLocks.sound_empty fun _ => rfl
  have hview : (((System.start w calls).follow before).bind fun r =>
      (r.2.forgetLocks.follow [(3, .go), (3, .go)]).map fun r =>
        ([r.2.standing 0, r.2.standing 1, r.2.standing 3], r.2.keysInUse.card)) =
      some ([some ⟨0, ⟨.text "c", .text "u"⟩, true⟩, some ⟨0, ⟨.text "c", .text "u"⟩, false⟩,
        some ⟨2, ⟨.text "c", .text "v"⟩, true⟩], 2) := by decide +kernel
  obtain ⟨⟨es₁, s₁⟩, hfirst, hview⟩ := Option.bind_eq_some_iff.1 hview
  obtain ⟨⟨es₂, s⟩, hsecond, hview⟩ := Option.map_eq_some_iff.1 hview
  have hrun : CollectedRun (System.start w calls) s :=
    of_run ((Run.start.of_follow hfirst).forget.of_follow hsecond) hlined
  simp only [Prod.mk.injEq, List.cons.injEq, and_true] at hview
  obtain ⟨⟨hholder, hwaiter, hother⟩, hcount⟩ := hview
  obtain ⟨hone, hregistered, -, -, hsize⟩ :=
    hrun.exclusive KeyLocks.sound_empty fun _ => rfl
  refine ⟨s, hrun, hholder, hwaiter, hother, ?_, hregistered 3 _ hother, hsize.trans hcount⟩
  intro id st hst hkey hholds
  exact hone id 0 st _ hst hholder hkey hholds rfl

end CollectedRun

end CharacterLedger.Ledger
