import CharacterLedger.Ledger.KeyLocks

/-!
# The lines of the locks

Every key has a line of its own: the one of the lock that it is registered with.  Tasks stand in one
line at most, the first of each line may hold its lock, and the others get it in the order in which
they came.

* `KeyLocks.Sound` — the register and the lines list the same locks, each once;
* `KeyLocks.keep` — the locks once some that nobody stands in line for are forgotten;
* `Lines` — who stands in which line, and who holds the lock;
* `Lines.reach`, `Lines.acquire`, `Lines.release`, `Lines.keep` — each thing that is done with the
  locks keeps it so;
* `KeyLocks.lineOf` — the line of a key, and what becomes of it.
-/

namespace CharacterLedger.Ledger

/-! ### Lists of pairs -/

section Pairs

variable {α β : Type} [BEq α] [LawfulBEq α]

theorem lookup_eq_some_iff_mem {pairs : List (α × β)} (h : (pairs.map Prod.fst).Nodup) {a : α}
    {b : β} : pairs.lookup a = some b ↔ (a, b) ∈ pairs := by
  induction pairs with
  | nil => simp
  | cons p pairs ih =>
    obtain ⟨a', b'⟩ := p
    rw [List.map_cons, List.nodup_cons] at h
    rw [List.lookup_cons, List.mem_cons, Prod.mk.injEq]
    by_cases ha : a = a'
    · subst ha
      have hnot : (a, b) ∉ pairs := fun hm => h.1 (List.mem_map.2 ⟨(a, b), hm, rfl⟩)
      simp [hnot, eq_comm]
    · have : (a == a') = false := by simpa using ha
      simp [this, ha, ih h.2]

theorem lookup_eq_none_of_not_mem {pairs : List (α × β)} {a : α} (h : a ∉ pairs.map Prod.fst) :
    pairs.lookup a = none := by
  induction pairs with
  | nil => rfl
  | cons p pairs ih =>
    rw [List.map_cons, List.mem_cons, not_or] at h
    have : (a == p.1) = false := by simpa using h.1
    rw [List.lookup_cons, this]
    exact ih h.2

omit [BEq α] [LawfulBEq α] in
theorem nodup_map_fst_append {pairs : List (α × β)} {a : α} (h : (pairs.map Prod.fst).Nodup)
    (ha : a ∉ pairs.map Prod.fst) (b : β) : ((pairs ++ [(a, b)]).map Prod.fst).Nodup := by
  rw [List.map_append, List.nodup_append]
  refine ⟨h, by simp, ?_⟩
  intro x hx y hy hxy
  have hy' : y = a := List.mem_singleton.1 hy
  exact ha (hy' ▸ hxy ▸ hx)

end Pairs

namespace KeyLocks

variable {l : KeyLocks}

/-- The register and the lines list the same locks, each once, and the next lock is a new one. -/
structure Sound (l : KeyLocks) : Prop where
  matched : l.register.map Prod.snd = l.lines.map Prod.fst
  keys : (l.register.map Prod.fst).Nodup
  locks : (l.lines.map Prod.fst).Nodup
  fresh : ∀ lock, lock ∈ l.lines.map Prod.fst → lock < l.fresh

theorem sound_empty : empty.Sound := by
  refine ⟨rfl, List.nodup_nil, List.nodup_nil, ?_⟩
  intro lock hlock
  cases hlock

/-- A key is registered with one lock. -/
theorem Sound.lock_unique (h : l.Sound) {k : Key} {lock lock' : Nat} (hk : (k, lock) ∈ l.register)
    (hk' : (k, lock') ∈ l.register) : lock = lock' := by
  rw [← lookup_eq_some_iff_mem h.keys] at hk hk'
  rw [hk] at hk'
  exact Option.some.inj hk'

/-- A lock is that of one key. -/
theorem Sound.key_unique (h : l.Sound) {k k' : Key} {lock : Nat} (hk : (k, lock) ∈ l.register)
    (hk' : (k', lock) ∈ l.register) : k = k' := by
  have hswap : ((l.register.map Prod.swap).map Prod.fst).Nodup := by
    rw [List.map_map, show Prod.fst ∘ Prod.swap = (Prod.snd : Key × Nat → Nat) from rfl, h.matched]
    exact h.locks
  have hm : (lock, k) ∈ l.register.map Prod.swap := List.mem_map.2 ⟨_, hk, rfl⟩
  have hm' : (lock, k') ∈ l.register.map Prod.swap := List.mem_map.2 ⟨_, hk', rfl⟩
  rw [← lookup_eq_some_iff_mem hswap] at hm hm'
  rw [hm] at hm'
  exact Option.some.inj hm'

theorem Sound.mem_locks (h : l.Sound) {k : Key} {lock : Nat} (hk : (k, lock) ∈ l.register) :
    lock ∈ l.lines.map Prod.fst := by
  rw [← h.matched]
  exact List.mem_map.2 ⟨_, hk, rfl⟩

/-! ### Changing a line -/

theorem map_fst_setLine (l : KeyLocks) (lock : Nat) (tasks : List Nat) :
    (l.setLine lock tasks).lines.map Prod.fst = l.lines.map Prod.fst := by
  unfold setLine
  rw [List.map_map]
  apply List.map_congr_left
  intro p _
  by_cases h : p.1 = lock
  · simp [h]
  · simp [h]

theorem Sound.setLine (h : l.Sound) (lock : Nat) (tasks : List Nat) :
    (l.setLine lock tasks).Sound := by
  have hmap := map_fst_setLine l lock tasks
  refine ⟨?_, h.keys, ?_, ?_⟩
  · rw [hmap]
    exact h.matched
  · rw [hmap]
    exact h.locks
  · intro lock' hlock'
    rw [hmap] at hlock'
    exact h.fresh lock' hlock'

theorem line_setLine {lock : Nat} (h : lock ∈ l.lines.map Prod.fst) (tasks : List Nat)
    (other : Nat) :
    (l.setLine lock tasks).line other = if other = lock then tasks else l.line other := by
  unfold line setLine
  simp only
  revert h
  induction l.lines with
  | nil => exact fun h => nomatch h
  | cons p lines ih =>
    intro h
    obtain ⟨lock', tasks'⟩ := p
    rw [List.map_cons, List.lookup_cons, List.lookup_cons]
    by_cases hlock : lock' = lock
    · subst hlock
      by_cases hother : other = lock'
      · simp [hother]
      · have hne : (other == lock') = false := by simpa using hother
        simp only [if_true, hne, hother, if_false]
        by_cases hm : lock' ∈ lines.map Prod.fst
        · rw [ih hm, if_neg hother]
        · -- no other entry is that of the lock
          congr 2
          rw [List.map_congr_left (g := id), List.map_id]
          intro p hp
          have : p.1 ≠ lock' := fun he => hm (List.mem_map.2 ⟨p, hp, he⟩)
          simp [this]
    · have hm : lock ∈ lines.map Prod.fst := by
        rw [List.map_cons, List.mem_cons] at h
        exact h.resolve_left fun he => hlock he.symm
      simp only [hlock, if_false]
      by_cases hother : other = lock'
      · subst hother
        simp [hlock]
      · have hne : (other == lock') = false := by simpa using hother
        simp only [hne]
        exact ih hm

/-! ### The lock of a key -/

theorem lockFor_of_mem (h : l.Sound) {k : Key} {lock : Nat} (hk : (k, lock) ∈ l.register) :
    l.lockFor k = (l, lock) := by
  unfold lockFor
  rw [(lookup_eq_some_iff_mem h.keys).2 hk]

theorem lockFor_of_not_mem {k : Key} (hk : k ∉ l.register.map Prod.fst) :
    l.lockFor k = (⟨l.register ++ [(k, l.fresh)], l.lines ++ [(l.fresh, [])], l.fresh + 1⟩,
      l.fresh) := by
  unfold lockFor
  rw [lookup_eq_none_of_not_mem hk]

/-- Asking for the lock of a key registers it, and changes no line. -/
theorem lockFor_spec (h : l.Sound) (k : Key) :
    (l.lockFor k).1.Sound ∧ (k, (l.lockFor k).2) ∈ (l.lockFor k).1.register ∧
      (∀ other, (l.lockFor k).1.line other = l.line other) ∧
      (∀ p, p ∈ l.register → p ∈ (l.lockFor k).1.register) ∧
      ∀ p, p ∈ (l.lockFor k).1.register → p ∈ l.register ∨ p = (k, (l.lockFor k).2) := by
  by_cases hk : k ∈ l.register.map Prod.fst
  · obtain ⟨⟨k', lock⟩, hm, rfl⟩ := List.mem_map.1 hk
    rw [lockFor_of_mem h hm]
    exact ⟨h, hm, fun _ => rfl, fun _ hp => hp, fun _ hp => .inl hp⟩
  · rw [lockFor_of_not_mem hk]
    have hnew : l.fresh ∉ l.lines.map Prod.fst := fun hm => Nat.lt_irrefl _ (h.fresh _ hm)
    refine ⟨⟨?_, ?_, ?_, ?_⟩, ?_, ?_, ?_, ?_⟩
    · simp [h.matched]
    · exact nodup_map_fst_append h.keys hk l.fresh
    · exact nodup_map_fst_append h.locks hnew []
    · intro lock hlock
      rw [List.map_append, List.mem_append] at hlock
      obtain hm | hm := hlock
      · exact Nat.lt_succ_of_lt (h.fresh lock hm)
      · rw [List.map_cons, List.map_nil, List.mem_singleton] at hm
        rw [hm]
        exact Nat.lt_succ_self _
    · exact List.mem_append_right _ (List.mem_singleton.2 rfl)
    · intro other
      unfold line
      simp only
      rw [List.lookup_append]
      by_cases ho : other = l.fresh
      · rw [ho, lookup_eq_none_of_not_mem hnew]
        simp
      · have : (other == l.fresh) = false := by simpa using ho
        simp [List.lookup_cons, this]
    · exact fun p hp => List.mem_append_left _ hp
    · intro p hp
      rw [List.mem_append, List.mem_singleton] at hp
      exact hp

/-! ### Forgetting -/

theorem line_eq_nil_of_not_mem {lock : Nat} (h : lock ∉ l.lines.map Prod.fst) :
    l.line lock = [] := by
  rw [line, lookup_eq_none_of_not_mem h, Option.getD_none]

theorem line_of_mem (h : l.Sound) {lock : Nat} {tasks : List Nat} (hm : (lock, tasks) ∈ l.lines) :
    l.line lock = tasks := by
  rw [line, (lookup_eq_some_iff_mem h.locks).2 hm, Option.getD_some]

/-- The locks without those that are not to be kept. -/
def keep (l : KeyLocks) (kept : Nat → Bool) : KeyLocks :=
  { l with
    register := l.register.filter (kept ∘ Prod.snd)
    lines := l.lines.filter (kept ∘ Prod.fst) }

/-- Forgetting locks that nobody stands in line for changes no line, and keeps what is registered
for the others. -/
theorem keep_spec (h : l.Sound) {kept : Nat → Bool}
    (hidle : ∀ lock, kept lock = false → l.line lock = []) :
    (l.keep kept).Sound ∧ (∀ lock, (l.keep kept).line lock = l.line lock) ∧
      ∀ k lock, (k, lock) ∈ (l.keep kept).register ↔ (k, lock) ∈ l.register ∧ kept lock = true := by
  have hmatched : (l.keep kept).register.map Prod.snd = (l.keep kept).lines.map Prod.fst := by
    show (l.register.filter (kept ∘ Prod.snd)).map Prod.snd =
      (l.lines.filter (kept ∘ Prod.fst)).map Prod.fst
    rw [← List.filter_map, ← List.filter_map, h.matched]
  have hkeys : ((l.keep kept).register.map Prod.fst).Sublist (l.register.map Prod.fst) :=
    List.filter_sublist.map Prod.fst
  have hlocks : ((l.keep kept).lines.map Prod.fst).Sublist (l.lines.map Prod.fst) :=
    List.filter_sublist.map Prod.fst
  have hsound : (l.keep kept).Sound :=
    ⟨hmatched, h.keys.sublist hkeys, h.locks.sublist hlocks,
      fun lock hlock => h.fresh lock (hlocks.subset hlock)⟩
  refine ⟨hsound, ?_, ?_⟩
  · intro lock
    by_cases hm : lock ∈ l.lines.map Prod.fst
    · obtain ⟨⟨lock', tasks⟩, hp, rfl⟩ := List.mem_map.1 hm
      cases hkept : kept lock' with
      | true => rw [line_of_mem h hp, line_of_mem hsound (List.mem_filter.2 ⟨hp, hkept⟩)]
      | false =>
        -- a lock that is not kept is forgotten with its empty line
        rw [hidle lock' hkept]
        apply line_eq_nil_of_not_mem
        intro hforgotten
        obtain ⟨⟨lock, tasks⟩, hp', rfl⟩ := List.mem_map.1 hforgotten
        have : kept lock = true := (List.mem_filter.1 hp').2
        rw [hkept] at this
        cases this
    · rw [line_eq_nil_of_not_mem hm]
      exact line_eq_nil_of_not_mem fun hforgotten => hm (hlocks.subset hforgotten)
  · intro k lock
    exact List.mem_filter

/-- Forgetting idle locks is to keep those that are not idle. -/
theorem forgetIdle_eq_keep (h : l.Sound) : l.forgetIdle = l.keep fun lock => !l.isIdle lock := by
  have hlines : l.lines.filter (fun p => !p.2.isEmpty) =
      l.lines.filter ((fun lock => !l.isIdle lock) ∘ Prod.fst) := by
    apply List.filter_congr
    rintro ⟨lock, tasks⟩ hp
    show (!tasks.isEmpty) = !(l.line lock).isEmpty
    rw [line_of_mem h hp]
  unfold forgetIdle keep
  rw [hlines]
  rfl

/-- Forgetting idle locks changes no line, and keeps what is registered for the others. -/
theorem forgetIdle_spec (h : l.Sound) :
    l.forgetIdle.Sound ∧ (∀ lock, l.forgetIdle.line lock = l.line lock) ∧
      ∀ k lock, (k, lock) ∈ l.forgetIdle.register ↔
        (k, lock) ∈ l.register ∧ l.line lock ≠ [] := by
  have hidle : ∀ lock, (!l.isIdle lock) = false → l.line lock = [] := by simp [isIdle]
  rw [forgetIdle_eq_keep h]
  obtain ⟨hsound, hline, hregister⟩ := keep_spec h hidle
  refine ⟨hsound, hline, ?_⟩
  intro k lock
  rw [hregister]
  simp [isIdle]

/-! ### The line of a key -/

/-- The line of the lock of a key, which is empty as long as the key has none. -/
def lineOf (l : KeyLocks) (k : Key) : List Nat :=
  match l.register.lookup k with
  | some lock => l.line lock
  | none => []

theorem lineOf_of_mem (h : l.Sound) {k : Key} {lock : Nat} (hk : (k, lock) ∈ l.register) :
    l.lineOf k = l.line lock := by
  rw [lineOf, (lookup_eq_some_iff_mem h.keys).2 hk]

theorem lineOf_of_not_mem {k : Key} (hk : k ∉ l.register.map Prod.fst) : l.lineOf k = [] := by
  rw [lineOf, lookup_eq_none_of_not_mem hk]

/-- The locks once a task has come to the lock of a key. -/
def reach (l : KeyLocks) (k : Key) (me : Nat) : KeyLocks :=
  (l.lockFor k).1.join (l.lockFor k).2 me

theorem reach_spec (h : l.Sound) (k : Key) (me : Nat) :
    (l.reach k me).Sound ∧ (k, (l.lockFor k).2) ∈ (l.reach k me).register ∧
      (∀ p, p ∈ l.register → p ∈ (l.reach k me).register) ∧
      ∀ other, (l.reach k me).line other =
        if other = (l.lockFor k).2 then l.line other ++ [me] else l.line other := by
  obtain ⟨hsound, hmem, hline, hkept, -⟩ := lockFor_spec h k
  refine ⟨hsound.setLine _ _, hmem, hkept, ?_⟩
  intro other
  rw [reach, join, line_setLine (hsound.mem_locks hmem), hline, hline]
  by_cases ho : other = (l.lockFor k).2
  · rw [if_pos ho, if_pos ho, ho]
  · rw [if_neg ho, if_neg ho]

/-- A task that comes to the lock of a key is the last in the line of that key, and no other line
changes. -/
theorem lineOf_reach (h : l.Sound) (k key : Key) (me : Nat) :
    (l.reach k me).lineOf key = if key = k then l.lineOf key ++ [me] else l.lineOf key := by
  obtain ⟨hsound, hmem, hkept, hline⟩ := reach_spec h k me
  obtain ⟨-, -, -, -, hback⟩ := lockFor_spec h k
  by_cases hkey : key = k
  · subst hkey
    rw [if_pos rfl, lineOf_of_mem hsound hmem, hline, if_pos rfl]
    by_cases hk : key ∈ l.register.map Prod.fst
    · obtain ⟨⟨k', lock⟩, hm, rfl⟩ := List.mem_map.1 hk
      rw [lineOf_of_mem h hm, lockFor_of_mem h hm]
    · rw [lineOf_of_not_mem hk, lockFor_of_not_mem hk, line_eq_nil_of_not_mem]
      exact fun hm => Nat.lt_irrefl _ (h.fresh _ hm)
  · rw [if_neg hkey]
    by_cases hk : key ∈ l.register.map Prod.fst
    · obtain ⟨⟨k', lock⟩, hm, rfl⟩ := List.mem_map.1 hk
      rw [lineOf_of_mem h hm, lineOf_of_mem hsound (hkept _ hm), hline, if_neg]
      rintro rfl
      exact hkey (hsound.key_unique (hkept _ hm) hmem)
    · rw [lineOf_of_not_mem hk, lineOf_of_not_mem]
      intro hreached
      obtain ⟨⟨k', lock⟩, hm, rfl⟩ := List.mem_map.1 hreached
      obtain hold | hnew := hback _ hm
      · exact hk (List.mem_map.2 ⟨_, hold, rfl⟩)
      · exact hkey (Prod.mk.inj hnew).1

theorem release_spec (h : l.Sound) {k : Key} {lock : Nat} (hk : (k, lock) ∈ l.register) :
    (l.release lock).Sound ∧ (l.release lock).register = l.register ∧
      ∀ other, (l.release lock).line other =
        if other = lock then (l.line other).tail else l.line other := by
  refine ⟨h.setLine _ _, rfl, ?_⟩
  intro other
  rw [release, line_setLine (h.mem_locks hk)]
  by_cases ho : other = lock
  · rw [if_pos ho, if_pos ho, ho]
  · rw [if_neg ho, if_neg ho]

/-- When a lock is given back, the first leaves the line of its key, and no other line changes. -/
theorem lineOf_release (h : l.Sound) {k : Key} {lock : Nat} (hk : (k, lock) ∈ l.register)
    (key : Key) :
    (l.release lock).lineOf key = if key = k then (l.lineOf key).tail else l.lineOf key := by
  obtain ⟨hsound, hregister, hline⟩ := release_spec h hk
  by_cases hkey : key ∈ l.register.map Prod.fst
  · obtain ⟨⟨k', lock'⟩, hm, rfl⟩ := List.mem_map.1 hkey
    rw [lineOf_of_mem h hm, lineOf_of_mem hsound (hregister ▸ hm), hline]
    by_cases hk' : k' = k
    · subst hk'
      rw [if_pos rfl, if_pos (h.lock_unique hm hk)]
    · rw [if_neg hk', if_neg]
      rintro rfl
      exact hk' (h.key_unique hm hk)
  · rw [lineOf_of_not_mem hkey, lineOf_of_not_mem (hregister ▸ hkey)]
    split <;> rfl

theorem lineOf_forgetIdle (h : l.Sound) (key : Key) : l.forgetIdle.lineOf key = l.lineOf key := by
  obtain ⟨hsound, hline, hregister⟩ := forgetIdle_spec h
  by_cases hkey : key ∈ l.register.map Prod.fst
  · obtain ⟨⟨k', lock⟩, hm, rfl⟩ := List.mem_map.1 hkey
    rw [lineOf_of_mem h hm]
    by_cases hidle : l.line lock = []
    · rw [hidle]
      apply lineOf_of_not_mem
      intro hkept
      obtain ⟨⟨k'', lock'⟩, hm', rfl⟩ := List.mem_map.1 hkept
      obtain ⟨hold, hbusy⟩ := (hregister _ _).1 hm'
      rw [h.lock_unique hold hm] at hbusy
      exact hbusy hidle
    · rw [lineOf_of_mem hsound ((hregister _ _).2 ⟨hm, hidle⟩), hline]
  · rw [lineOf_of_not_mem hkey]
    apply lineOf_of_not_mem
    intro hkept
    obtain ⟨⟨k', lock⟩, hm, rfl⟩ := List.mem_map.1 hkept
    exact hkey (List.mem_map.2 ⟨_, ((hregister _ _).1 hm).1, rfl⟩)

end KeyLocks

/-! ### Who stands where -/

/-- Where a task stands: the lock, the key that it is the lock of, and whether the task holds it. -/
structure Standing where
  lock : Nat
  key : Key
  holds : Bool
deriving DecidableEq

/-- The lines of the locks, and where the tasks stand by their numbers. -/
structure Lines (l : KeyLocks) (standing : Nat → Option Standing) : Prop where
  sound : l.Sound
  line : ∀ id lock, id ∈ l.line lock ↔ ∃ st, standing id = some st ∧ st.lock = lock
  nodup : ∀ lock, (l.line lock).Nodup
  /-- Whoever holds a lock is the first in its line. -/
  holder : ∀ id st, standing id = some st → st.holds = true →
    (l.line st.lock).head? = some id
  /-- Nobody stands in the line of a lock that is not that of the key any more. -/
  registered : ∀ id st, standing id = some st → (st.key, st.lock) ∈ l.register

namespace Lines

variable {l : KeyLocks} {me : Nat} {standing standing' : Nat → Option Standing}

/-- Where nobody stands in any line, nothing is said of anybody. -/
theorem of_idle (hsound : l.Sound) (hidle : ∀ lock, l.line lock = []) : Lines l fun _ => none := by
  refine ⟨hsound, ?_, ?_, nofun, nofun⟩
  · intro id lock
    rw [hidle]
    exact ⟨(fun hm => nomatch hm), fun ⟨_, hst, _⟩ => nomatch hst⟩
  · intro lock
    rw [hidle]
    exact List.nodup_nil

/-- **Two tasks never hold the locks of one key.** -/
theorem holder_unique (h : Lines l standing) {id other : Nat} {st st' : Standing}
    (hid : standing id = some st) (hother : standing other = some st') (hholds : st.holds = true)
    (hholds' : st'.holds = true) (hkey : st.key = st'.key) : id = other := by
  have hlock : st.lock = st'.lock :=
    h.sound.lock_unique (h.registered id st hid) (hkey ▸ h.registered other st' hother)
  have := h.holder id st hid hholds
  rw [hlock, h.holder other st' hother hholds'] at this
  exact (Option.some.inj this).symm

/-- The line of the key of a task is the one that it stands in. -/
theorem lineOf_eq (h : Lines l standing) {id : Nat} {st : Standing} (hid : standing id = some st) :
    l.lineOf st.key = l.line st.lock :=
  KeyLocks.lineOf_of_mem h.sound (h.registered id st hid)

/-- Nothing is done with the locks. -/
theorem congr (h : Lines l standing) (hsame : ∀ id, standing' id = standing id) :
    Lines l standing' := by
  rw [show standing' = standing from funext hsame]
  exact h

/-- A task comes to the lock of a key. -/
theorem reach (h : Lines l standing) (k : Key) (hbefore : standing me = none)
    (hafter : standing' me = some ⟨(l.lockFor k).2, k, false⟩)
    (hothers : ∀ id, id ≠ me → standing' id = standing id) :
    Lines (l.reach k me) standing' := by
  obtain ⟨hsound, hmem, hkept, hline⟩ := KeyLocks.reach_spec h.sound k me
  have hnot : ∀ lock, me ∉ l.line lock := by
    intro lock hm
    obtain ⟨st, hst, -⟩ := (h.line me lock).1 hm
    rw [hbefore] at hst
    cases hst
  refine ⟨hsound, ?_, ?_, ?_, ?_⟩
  · intro id lock
    rw [hline]
    by_cases hid : id = me
    · subst hid
      rw [hafter]
      by_cases hlock : lock = (l.lockFor k).2
      · rw [if_pos hlock]
        exact ⟨fun _ => ⟨_, rfl, hlock.symm⟩,
          fun _ => List.mem_append_right _ (List.mem_singleton.2 rfl)⟩
      · rw [if_neg hlock]
        refine ⟨fun hm => absurd hm (hnot lock), ?_⟩
        rintro ⟨st, hst, rfl⟩
        rw [← Option.some.inj hst] at hlock
        exact absurd rfl hlock
    · rw [hothers id hid, ← h.line id lock]
      split
      · rw [List.mem_append, List.mem_singleton]
        exact ⟨fun hor => hor.resolve_right hid, .inl⟩
      · exact Iff.rfl
  · intro lock
    rw [hline]
    split
    · rw [List.nodup_append]
      refine ⟨h.nodup lock, by simp, ?_⟩
      intro a ha b hb hab
      rw [List.mem_singleton.1 hb] at hab
      exact hnot lock (hab ▸ ha)
    · exact h.nodup lock
  · intro id st hst hholds
    by_cases hid : id = me
    · rw [hid, hafter, Option.some.injEq] at hst
      rw [← hst] at hholds
      cases hholds
    · rw [hothers id hid] at hst
      have := h.holder id st hst hholds
      rw [hline]
      split
      · rw [List.head?_append, this]
        rfl
      · exact this
  · intro id st hst
    by_cases hid : id = me
    · rw [hid, hafter, Option.some.injEq] at hst
      rw [← hst]
      exact hmem
    · rw [hothers id hid] at hst
      exact hkept _ (h.registered id st hst)

/-- The first in a line takes the lock. -/
theorem acquire (h : Lines l standing) {lock : Nat} {k : Key}
    (hbefore : standing me = some ⟨lock, k, false⟩) (hfirst : l.isHeldBy lock me = true)
    (hafter : standing' me = some ⟨lock, k, true⟩)
    (hothers : ∀ id, id ≠ me → standing' id = standing id) : Lines l standing' := by
  refine ⟨h.sound, ?_, h.nodup, ?_, ?_⟩
  · intro id lock'
    rw [h.line]
    by_cases hid : id = me
    · rw [hid, hbefore, hafter]
      simp
    · rw [hothers id hid]
  · intro id st hst hholds
    by_cases hid : id = me
    · rw [hid, hafter, Option.some.injEq] at hst
      rw [← hst, hid]
      simpa [KeyLocks.isHeldBy] using hfirst
    · rw [hothers id hid] at hst
      exact h.holder id st hst hholds
  · intro id st hst
    by_cases hid : id = me
    · rw [hid, hafter, Option.some.injEq] at hst
      have hregistered := h.registered me _ hbefore
      rw [← hst]
      exact hregistered
    · rw [hothers id hid] at hst
      exact h.registered id st hst

/-- The holder of a lock gives it back. -/
theorem release (h : Lines l standing) {lock : Nat} {k : Key}
    (hbefore : standing me = some ⟨lock, k, true⟩) (hafter : standing' me = none)
    (hothers : ∀ id, id ≠ me → standing' id = standing id) :
    Lines (l.release lock) standing' := by
  obtain ⟨hsound, hregister, hline⟩ :=
    KeyLocks.release_spec h.sound (h.registered me _ hbefore)
  have hfirst : (l.line lock).head? = some me := h.holder me _ hbefore rfl
  obtain ⟨rest, hrest⟩ : ∃ rest, l.line lock = me :: rest := List.head?_eq_some_iff.1 hfirst
  have hnodup := h.nodup lock
  rw [hrest, List.nodup_cons] at hnodup
  refine ⟨hsound, ?_, ?_, ?_, ?_⟩
  · intro id lock'
    rw [hline]
    by_cases hid : id = me
    · subst hid
      rw [hafter]
      refine ⟨?_, fun ⟨_, hst, _⟩ => nomatch hst⟩
      intro hm
      split at hm
      · next hlock =>
        rw [hlock, hrest] at hm
        exact absurd hm hnodup.1
      · next hlock =>
        obtain ⟨st, hst, rfl⟩ := (h.line id lock').1 hm
        rw [hbefore, Option.some.injEq] at hst
        rw [← hst] at hlock
        exact absurd rfl hlock
    · rw [hothers id hid, ← h.line id lock']
      split
      · next hlock =>
        rw [hlock, hrest, List.tail_cons, List.mem_cons]
        exact ⟨.inr, fun hm => hm.resolve_left hid⟩
      · exact Iff.rfl
  · intro lock'
    rw [hline]
    split
    · exact (h.nodup lock').sublist (List.tail_sublist _)
    · exact h.nodup lock'
  · intro id st hst hholds
    by_cases hid : id = me
    · rw [hid, hafter] at hst
      cases hst
    · rw [hothers id hid] at hst
      have hhead := h.holder id st hst hholds
      rw [hline, if_neg]
      · exact hhead
      · intro hlock
        rw [hlock, hfirst] at hhead
        exact hid (Option.some.inj hhead).symm
  · intro id st hst
    by_cases hid : id = me
    · rw [hid, hafter] at hst
      cases hst
    · rw [hothers id hid] at hst
      rw [hregister]
      exact h.registered id st hst

/-- Locks that nobody stands in line for are forgotten. -/
theorem keep (h : Lines l standing) {kept : Nat → Bool}
    (hidle : ∀ lock, kept lock = false → l.line lock = []) : Lines (l.keep kept) standing := by
  obtain ⟨hsound, hline, hregister⟩ := KeyLocks.keep_spec h.sound hidle
  refine ⟨hsound, ?_, ?_, ?_, ?_⟩
  · intro id lock
    rw [hline]
    exact h.line id lock
  · intro lock
    rw [hline]
    exact h.nodup lock
  · intro id st hst hholds
    rw [hline]
    exact h.holder id st hst hholds
  · intro id st hst
    refine (hregister _ _).2 ⟨h.registered id st hst, ?_⟩
    have hm : id ∈ l.line st.lock := (h.line id st.lock).2 ⟨st, hst, rfl⟩
    cases hkept : kept st.lock with
    | true => rfl
    | false =>
      rw [hidle st.lock hkept] at hm
      cases hm

/-- All locks that nobody needs are forgotten. -/
theorem forget (h : Lines l standing) : Lines l.forgetIdle standing := by
  rw [KeyLocks.forgetIdle_eq_keep h.sound]
  exact h.keep (by simp [KeyLocks.isIdle])

end Lines

end CharacterLedger.Ledger
