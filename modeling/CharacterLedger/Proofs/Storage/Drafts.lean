import CharacterLedger.Proofs.Storage.Effects
import CharacterLedger.Proofs.Storage.Slots

/-!
# Unfinished transactions

A draft is what an unfinished transaction has made of its database.  It belongs to the visit that
has the connection in its hands, and to nobody else:

* `Drafts` — every draft is that of a visit in the middle of a transaction; what such a visit is
  about to commit was made from the database as it still is; and no two visits are about to commit
  to the same file;
* `Drafts.moves` — a move of any visit keeps it so;
* `Drafts.none_of_working` — a connection on which no transaction has begun has no draft.
-/

namespace CharacterLedger.Storage

open CharacterLedger.Table

namespace Visiting

/-- The visit is about to end a transaction on the open connection `k`, which has the number `c`. -/
structure Committing (s : Store) (v : Option Visiting) (p : Purpose) (c : Nat) (k : Connection) :
    Prop where
  phase : ∃ q, v = some ⟨p, .committing q c⟩
  found : s.connection? c = some k
  isOpen : k.isOpen = true

theorem mem_held_of_transaction? {v : Option Visiting} {c : Nat} (h : transaction? v = some c) :
    held? v = [c] := by
  cases v with
  | none => cases h
  | some v =>
    obtain ⟨p, phase⟩ := v
    cases phase <;> cases h <;> rfl

theorem Committing.transaction? {s : Store} {v : Option Visiting} {p : Purpose} {c : Nat}
    {k : Connection} (h : Committing s v p c k) : Visiting.transaction? v = some c := by
  obtain ⟨q, rfl⟩ := h.phase
  rfl

theorem transaction?_of_isIdle {v : Option Visiting} (h : IsIdle v) : transaction? v = none :=
  yields_of_isIdle (fun _ => rfl) h

theorem transaction?_of_follows {p : Purpose} {next : Progress p.Answer} {v : Option Visiting}
    (h : Follows next v) : transaction? v = next.transaction? :=
  yields_of_follows (fun _ => rfl) h

end Visiting

/-- Unfinished transactions, with the visits of all tasks by the numbers of the tasks. -/
structure Drafts (s : Store) (visits : Nat → Option Visiting) : Prop where
  /-- Every draft is that of a visit. -/
  owned : ∀ c k, s.connection? c = some k → k.draft ≠ none →
    ∃ id, Visiting.transaction? (visits id) = some c
  /-- Closed connections have no drafts. -/
  closed : ∀ c k, s.connection? c = some k → k.isOpen = false → k.draft = none
  /-- What is about to be committed was made from the database as it is. -/
  meant : ∀ id p c k, Visiting.Committing s (visits id) p c k →
    ∃ d, k.draft = some d ∧ p.Writes (s.disk.content k.file) d
  /-- No two visits are about to commit to the same file. -/
  alone : ∀ id id' p p' c c' k k', Visiting.Committing s (visits id) p c k →
    Visiting.Committing s (visits id') p' c' k' → k.file = k'.file → id = id'

namespace Drafts

variable {me : Nat} {p : Purpose} {s t : Store} {visits visits' : Nat → Option Visiting}

/-- A connection in the hands of a visit that has not begun a transaction has no draft. -/
theorem none_of_held (h : Drafts s visits) (hslots : Slots s visits) {id c : Nat} {k : Connection}
    (hheld : c ∈ Visiting.held? (visits id)) (hno : Visiting.transaction? (visits id) = none)
    (hk : s.connection? c = some k) : k.draft = none := by
  cases hd : k.draft with
  | none => rfl
  | some d =>
    obtain ⟨other, hother⟩ := h.owned c k hk (by simp [hd])
    have hmem : c ∈ Visiting.held? (visits other) := by
      rw [Visiting.mem_held_of_transaction? hother]
      exact List.mem_singleton.2 rfl
    have hid := hslots.alone id other c hheld hmem
    rw [hid, hother] at hno
    cases hno

/-- What a connection sees that is in the hands of a visit without a transaction is what is on the
disk. -/
theorem content_of_held (h : Drafts s visits) (hslots : Slots s visits) {id c : Nat}
    {k : Connection} (hheld : c ∈ Visiting.held? (visits id))
    (hno : Visiting.transaction? (visits id) = none) (hk : s.connection? c = some k) :
    s.content k = s.disk.content k.file := by
  rw [Store.content, h.none_of_held hslots hheld hno hk, Option.getD_none]

/-- A task that begins a visit has no transaction yet. -/
theorem began (h : Drafts s visits) (hbegan : Visiting.Began me visits visits') :
    Drafts s visits' := by
  have hsame : ∀ id, Visiting.transaction? (visits' id) = Visiting.transaction? (visits id) :=
    Visiting.Began.yields (fun _ => rfl) hbegan
  have hback : ∀ id p c k, Visiting.Committing s (visits' id) p c k →
      Visiting.Committing s (visits id) p c k := by
    intro id p c k hc
    by_cases hid : id = me
    · have := hc.transaction?
      rw [hid, Visiting.transaction?_of_isIdle hbegan.after] at this
      cases this
    · rw [← hbegan.others id hid]
      exact hc
  refine ⟨?_, h.closed, ?_, ?_⟩
  · intro c k hk hd
    obtain ⟨id, hid⟩ := h.owned c k hk hd
    exact ⟨id, (hsame id).trans hid⟩
  · intro id p c k hc
    exact h.meant id p c k (hback id p c k hc)
  · intro id id' p p' c c' k k' hc hc'
    exact h.alone id id' p p' c c' k k' (hback _ _ _ _ hc) (hback _ _ _ _ hc')

/-! ### Other visits are not disturbed -/

section Others

variable {phase : Phase p.Answer} {next : Progress p.Answer}

/-- What another visit is about to commit, it was about to commit before a move of `me`, and the
file is as it was. -/
theorem committing_of_other (h : Drafts s visits) (hslots : Slots s visits)
    (heffect : Visit.Effect p s phase t next)
    (hmoved : Visiting.Moved me phase next visits visits') {id c : Nat} {r : Purpose}
    {k' : Connection} (hid : id ≠ me) (hc : Visiting.Committing t (visits' id) r c k') :
    ∃ k, Visiting.Committing s (visits id) r c k ∧ k'.file = k.file ∧ k'.draft = k.draft ∧
      t.disk.content k.file = s.disk.content k.file := by
  obtain ⟨hphase, hfound, hopen⟩ := hc
  rw [hmoved.others id hid] at hphase
  have hmine : c ∈ Visiting.held? (visits id) := by
    obtain ⟨q, hq⟩ := hphase
    rw [hq]
    exact List.mem_singleton.2 rfl
  have hnot : c ∉ phase.held := by
    intro hm
    exact hid (hslots.alone id me c hmine (hmoved.held?.1 ▸ hm))
  -- the connection is neither new nor in the hands of `me`, and it is open, so it is kept
  have hkept : ∃ k, s.connection? c = some k ∧ k'.file = k.file ∧ k'.isOpen = k.isOpen ∧
      k'.draft = k.draft := by
    cases heffect.fate hfound with
    | kept found file isOpen draft => exact ⟨_, found, file, isOpen, draft⟩
    | closed _ _ isClosed => rw [hopen] at isClosed; cases isClosed
    | new _ _ number => exact absurd (hslots.lt_length_of_held hmine) (by omega)
    | begun _ _ _ _ mine => exact absurd (mine ▸ List.mem_singleton.2 rfl) hnot
    | settled _ _ _ _ mine => exact absurd (mine ▸ List.mem_singleton.2 rfl) hnot
  obtain ⟨k, hk, hfile, hopen', hdraft⟩ := hkept
  have hwas : Visiting.Committing s (visits id) r c k := ⟨hphase, hk, hopen' ▸ hopen⟩
  refine ⟨k, hwas, hfile, hdraft, ?_⟩
  obtain hsame | ⟨b, kb, hheld, hkb, hfileb, hcause⟩ := heffect.content_eq k.file
  · exact hsame
  · have hb : c ≠ b := by
      rintro rfl
      exact hnot (hheld ▸ List.mem_singleton.2 rfl)
    obtain ⟨d, hd, -⟩ := h.meant id r c k hwas
    obtain hfree | ⟨q, hcommit, hkopen⟩ := hcause
    · -- `me` could write because nobody else had a draft
      have := (Store.isBusy_eq_false_iff hkb).1 hfree c k hk hb hfileb.symm
      rw [hd] at this
      cases this
    · -- `me` was about to commit to the same file
      have hme : Visiting.Committing s (visits me) p b kb :=
        ⟨⟨q, by rw [hmoved.before, hcommit]⟩, hkb, hkopen⟩
      exact absurd (h.alone id me r p c b k kb hwas hme hfileb.symm) hid

end Others

/-- What `me` is about to commit after a move, its statement has just made of the database as it
is. -/
theorem committing_of_mover (h : Drafts s visits) (hslots : Slots s visits)
    {phase : Phase p.Answer} {next : Progress p.Answer} (heffect : Visit.Effect p s phase t next)
    (hmoved : Visiting.Moved me phase next visits visits') {r : Purpose} {c : Nat}
    {k' : Connection} (hc : Visiting.Committing t (visits' me) r c k') :
    ∃ k d, s.connection? c = some k ∧ k'.file = k.file ∧ s.isBusy c = false ∧
      k'.draft = some d ∧ r.Writes (t.disk.content k.file) d := by
  obtain ⟨⟨q, hphase⟩, hfound, hopen⟩ := hc
  have hnext : ∃ hr : r = p, next = hr ▸ .going (.committing q c) := by
    have hafter := hmoved.after
    cases next with
    | going after =>
      have hv : visits' me = some ⟨p, after⟩ := hafter
      rw [hphase] at hv
      cases hv
      exact ⟨rfl, rfl⟩
    | ended result =>
      obtain hidle | ⟨p', hidle⟩ := (show Visiting.IsIdle (visits' me) from hafter)
      · rw [hidle] at hphase
        cases hphase
      · rw [hidle] at hphase
        cases hphase
  obtain ⟨rfl, hnext⟩ := hnext
  simp only at hnext
  subst hnext
  cases heffect with
  | nothing _ _ noCommit => exact absurd rfl (noCommit q c)
  | directories _ _ _ _ after | connects _ _ _ after | setsUp _ _ _ after | closes _ _ after =>
    cases after
  | @drafts _ _ _ k d free found isOpen writes same =>
    have hu := Store.connection?_setDraft s c c (some d)
    rw [if_pos rfl] at hu
    obtain ⟨k₁, hk₁, hfile, -, hdraft⟩ := Visit.exists_changed same hu hfound
    obtain rfl : k₁ = k := by
      rw [found] at hk₁
      exact (Option.some.inj hk₁).symm
    have hheld : c ∈ Visiting.held? (visits me) := by
      rw [hmoved.before]
      exact List.mem_singleton.2 rfl
    have hno : Visiting.transaction? (visits me) = none := by
      rw [hmoved.before]
      rfl
    refine ⟨k₁, d, hk₁, hfile, free, hdraft, ?_⟩
    rw [same.disk]
    show r.Writes (s.disk.content k₁.file) d
    rw [← h.content_of_held hslots hheld hno hk₁]
    exact writes

/-- **A move of any visit keeps the transactions in order.** -/
theorem moves (h : Drafts s visits) (hslots : Slots s visits) {phase : Phase p.Answer}
    {next : Progress p.Answer} (hmove : Visit.Moves me p s phase t next)
    (hmoved : Visiting.Moved me phase next visits visits') : Drafts t visits' := by
  have heffect := hmove.effect
  refine ⟨?_, ?_, ?_, ?_⟩
  · intro c k' hk' hd
    cases heffect.fate hk' with
    | @kept k found _ isOpen draft goesOn =>
      obtain ⟨id, hid⟩ := h.owned c k found (draft ▸ hd)
      by_cases hme : id = me
      · subst hme
        rw [hmoved.before] at hid
        obtain hnext | hclosed := goesOn hid
        · exact ⟨id, (Visiting.transaction?_of_follows hmoved.after).trans hnext⟩
        · exact absurd (h.closed c k found hclosed) (draft ▸ hd)
      · exact ⟨id, (congrArg Visiting.transaction? (hmoved.others id hme)).trans hid⟩
    | closed _ _ _ draft | new _ _ _ _ _ _ draft | settled _ _ _ draft => exact absurd draft hd
    | begun _ _ _ _ _ goesOn =>
      exact ⟨me, (Visiting.transaction?_of_follows hmoved.after).trans goesOn⟩
  · intro c k' hk' hclosed
    cases heffect.fate hk' with
    | @kept k found _ isOpen draft => exact draft.trans (h.closed c k found (isOpen ▸ hclosed))
    | closed _ _ _ draft | new _ _ _ _ _ _ draft | settled _ _ _ draft => exact draft
    | begun _ _ _ isOpen =>
      rw [hclosed] at isOpen
      cases isOpen
  · intro id r c k' hc
    by_cases hme : id = me
    · subst hme
      obtain ⟨k, d, -, hfile, -, hdraft, hwrites⟩ := h.committing_of_mover hslots heffect hmoved hc
      exact ⟨d, hdraft, hfile ▸ hwrites⟩
    · obtain ⟨k, hwas, hfile, hdraft, hcontent⟩ :=
        h.committing_of_other hslots heffect hmoved hme hc
      obtain ⟨d, hd, hwrites⟩ := h.meant id r c k hwas
      refine ⟨d, hdraft.trans hd, ?_⟩
      rw [hfile, hcontent]
      exact hwrites
  · -- whoever else is about to commit had a draft before the move, which kept `me` from making one
    have hmine : ∀ id r r' c c' k k', id ≠ me → Visiting.Committing t (visits' me) r c k →
        Visiting.Committing t (visits' id) r' c' k' → k.file ≠ k'.file := by
      intro id r r' c c' k k' hme hc hc' hfile
      obtain ⟨k₀, d, hk₀, hfile₀, hfree, -⟩ := h.committing_of_mover hslots heffect hmoved hc
      obtain ⟨k₁, hwas, hfile₁, -⟩ := h.committing_of_other hslots heffect hmoved hme hc'
      obtain ⟨d', hd', -⟩ := h.meant id r' c' k₁ hwas
      have hne : c' ≠ c := by
        rintro rfl
        have hheld : c' ∈ Visiting.held? (visits id) := by
          rw [Visiting.mem_held_of_transaction? hwas.transaction?]
          exact List.mem_singleton.2 rfl
        have hheld' : c' ∈ Visiting.held? (visits' me) := by
          rw [Visiting.mem_held_of_transaction? hc.transaction?]
          exact List.mem_singleton.2 rfl
        have hheld'' : c' ∈ Visiting.held? (visits' id) := by
          rw [hmoved.others id hme]
          exact hheld
        exact hme ((hslots.moves hmove hmoved).alone id me c' hheld'' hheld')
      have := (Store.isBusy_eq_false_iff hk₀).1 hfree c' k₁ hwas.found hne
        (hfile₁.symm.trans (hfile.symm.trans hfile₀))
      rw [hd'] at this
      cases this
    intro id id' r r' c c' k k' hc hc' hfile
    by_cases hme : id = me
    · by_cases hme' : id' = me
      · rw [hme, hme']
      · subst hme
        exact absurd hfile (hmine id' r r' c c' k k' hme' hc hc')
    · by_cases hme' : id' = me
      · subst hme'
        exact absurd hfile.symm (hmine id r' r c' c k' k hme hc' hc)
      · obtain ⟨k₀, hwas, hfile₀, -⟩ := h.committing_of_other hslots heffect hmoved hme hc
        obtain ⟨k₁, hwas', hfile₁, -⟩ := h.committing_of_other hslots heffect hmoved hme' hc'
        exact h.alone id id' r r' c c' k₀ k₁ hwas hwas'
          (hfile₀.symm.trans (hfile.trans hfile₁))

end Drafts

end CharacterLedger.Storage
