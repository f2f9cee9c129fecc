import CharacterLedger.Proofs.Storage.Failures

/-!
# The faults of visits

A visit ends with a fault that it has met, at once or on its way to the end.  It meets three kinds
whatever it is for: what the database or the file system reports, a path that no file can have, and
a connection that has been closed while the visit uses it.  The last kind is out of the question for
a pool on a file that nobody closes, where a connection is found open or made anew before it is
used.

* `Purpose.IsPlain` — visits that read, write or count records, and whose statements are at fault
  for nothing but what the database reports;
* `Visit.Moves.fault` — the fault that a visit ends with has been met on its way;
* `UsesOpen`, `UsesOpen.moves` — every connection that is used is open;
* `Visiting.Transacts` — only a visit for a transaction begins one;
* `Visit.exists_step` — a visit that reads, writes or counts records can go on, unless others are
  before it in the line to open the pool.
-/

namespace CharacterLedger.Storage

open CharacterLedger.Table

/-! ### Plain visits -/

namespace Purpose

/-- To read the record of a character, to write a record or to count them. -/
inductive IsPlain : Purpose → Prop
  | load (channel user : String) :
      IsPlain (.borrow (.ask (.character (.text channel) (.text user))))
  | save (c : Character) : IsPlain (.borrow (.save c))
  | count : IsPlain (.borrow (.ask .count))

/-- The statement of a plain visit is at fault only for what the database reports. -/
theorem IsPlain.isOfStore {p : Purpose} (h : p.IsPlain) {f : Fault} (hf : p.Objects f) :
    f.isOfStore = true := by
  cases h with
  | load channel user =>
    obtain hbound | ⟨d, hd⟩ := hf
    · cases hbound
    · simp only [Question.ask, Database.select] at hd
      split at hd
      · cases hd
        rfl
      · cases hd
  | save c =>
    obtain ⟨d, hd⟩ := hf
    rw [Database.upsert_eq] at hd
    unfold CharacterTable.upsert at hd
    split at hd
    · cases hd
      rfl
    · split at hd
      · next hrefused =>
        cases hd
        split at hrefused
        · cases hrefused
          rfl
        · split at hrefused
          · cases hrefused
            rfl
          · cases hrefused
      · cases hd
  | count =>
    obtain hbound | ⟨d, hd⟩ := hf
    · cases hbound
    · simp only [Question.ask, Database.count] at hd
      split at hd
      · cases hd
        rfl
      · cases hd

end Purpose

/-! ### Faults on their way -/

/-- The fault that a visit has met and is going to end with, unless its connection is closed. -/
def Phase.fault? {α : Type} : Phase α → Option Fault
  | .abandoning f | .undoing _ _ f => some f
  | _ => none

/-- The fault that a visit has ended with, or has met. -/
def Progress.fault? {α : Type} : Progress α → Option Fault
  | .going phase => phase.fault?
  | .ended (.error (.fault f)) => some f
  | .ended _ => none

/-- The fault that a visit has met. -/
def Visiting.fault? (v : Option Visiting) : Option Fault := yields @Phase.fault? none v

/-- The connection that a visit runs its statements on. -/
def Visiting.inUse? (v : Option Visiting) : Option Nat := yields @Phase.inUse? none v

/-- The connection that a visit that goes on runs its statements on. -/
def Progress.inUse? {α : Type} (next : Progress α) : Option Nat := next.yields @Phase.inUse? none

theorem Phase.mem_held_of_inUse? {α : Type} {phase : Phase α} {c : Nat}
    (h : phase.inUse? = some c) : c ∈ phase.held := by
  cases phase with
  | preparing | working | committing | undoing =>
    cases h
    exact List.mem_singleton.2 rfl
  | _ => cases h

theorem Visiting.mem_held_of_inUse? {v : Option Visiting} {c : Nat} (h : inUse? v = some c) :
    c ∈ held? v := by
  cases v with
  | none => cases h
  | some v => exact Phase.mem_held_of_inUse? h

theorem Progress.mem_held_of_inUse? {α : Type} {next : Progress α} {c : Nat}
    (h : next.inUse? = some c) : c ∈ next.held := by
  cases next with
  | going phase =>
    have hphase : phase.inUse? = some c := h
    exact Phase.mem_held_of_inUse? hphase
  | ended => cases h

namespace Visit

variable {me : Nat} {p : Purpose} {s t : Store} {phase : Phase p.Answer}
  {next : Progress p.Answer}

@[simp] theorem fault?_arrival (p : Purpose) (q : Nat) : (arrival p q).fault? = none := by
  cases p <;> rfl

theorem CountsIn.fault? {made : List Nat} {c : Nat} (h : CountsIn p s made c t next) :
    next.fault? = none := by
  cases h with
  | last => exact fault?_arrival p _
  | more => rfl

theorem Begins.fault {u : Store} (h : Begins p u t next)
    (place : u.pool.location = s.pool.location) {f : Fault} (hf : next.fault? = some f) :
    Cause p s phase f := by
  cases h with
  | refused made =>
    cases hf
    refine .ofPath ((Store.makeDirectory_eq_error made).imp_right ?_)
    rintro ⟨hzero, path, hnamed, hpath⟩
    exact ⟨hzero, path, place.symm.trans hnamed, hpath⟩
  | empty =>
    rw [fault?_arrival] at hf
    cases hf
  | going => cases hf

/-- **The fault that a visit ends with has been met on its way**, or there is a cause for it now. -/
theorem Moves.fault (h : Moves me p s phase t next) {f : Fault} (hf : next.fault? = some f) :
    phase.fault? = some f ∨ Cause p s phase f := by
  cases h with
  | arrive | arriveLater =>
    rw [fault?_arrival] at hf
    cases hf
  | beginFirst _ _ begins | beginLater _ _ begins =>
    exact .inr (begins.fault (s := s) rfl hf)
  | connectNext _ _ counts | prepared _ counts | setUp _ _ _ counts =>
    rw [counts.fault?] at hf
    cases hf
  | turnAway _ cause | turnAwayLater _ cause | connectFails cause | preparingFails _ cause
  | replaceFails cause | strike _ _ cause | keptOut _ cause | refuse _ cause | commitFails cause =>
    cases hf
    exact .inr cause
  | commitLost isClosed | undoLost isClosed =>
    cases hf
    exact .inr (.mishap (.closed rfl isClosed))
  | abandonOne | abandoned | undo =>
    cases hf
    exact .inl rfl
  | _ => cases hf

end Visit

/-! ### Connections in use -/

/-- A connection is open when it has just been made. -/
theorem Store.isOpen_of_connect {s t : Store} {c : Nat} (h : s.connect = .ok (t, c)) :
    t.isOpen c = true := by
  obtain ⟨rfl, -, k, hconn, hopen, -⟩ := connect_eq_ok h
  exact (isOpen_eq_true_iff t _).2 ⟨k, by simp [connection?, hconn], hopen⟩

namespace Visit

variable {me : Nat} {p : Purpose} {s t : Store} {phase : Phase p.Answer}
  {next : Progress p.Answer}

/-- An open connection stays open, unless the visit that has it in its hands closes it, or one that
opens the pool, and keeps none. -/
theorem Moves.isOpen (h : Moves me p s phase t next) {c : Nat} (hopen : s.isOpen c = true) :
    t.isOpen c = true ∨ (c ∈ phase.held ∨ phase.isOpening = true) ∧ next.held = [] := by
  obtain ⟨k, hk, hkopen⟩ := (Store.isOpen_eq_true_iff s c).1 hopen
  have hlt := Store.lt_length_of_connection? hk
  obtain ⟨k', hk'⟩ := Store.connection?_isSome (Nat.lt_of_lt_of_le hlt (h.count_le c).1)
  have hsame : ∀ {k₁ : Connection}, s.connection? c = some k₁ → k'.isOpen = k₁.isOpen →
      t.isOpen c = true := by
    intro k₁ hk₁ hkeeps
    rw [hk, Option.some.injEq] at hk₁
    exact (Store.isOpen_eq_true_iff t c).2 ⟨k', hk', hkeeps.trans (hk₁ ▸ hkopen)⟩
  cases h.effect.fate hk' with
  | kept found _ same | settled found _ same => exact .inl (hsame found same)
  | closed _ _ _ _ reach empty => exact .inr ⟨reach, empty⟩
  | new _ _ _ _ _ isOpen => exact .inl ((Store.isOpen_eq_true_iff t c).2 ⟨k', hk', isOpen⟩)
  | begun _ _ _ isOpen => exact .inl ((Store.isOpen_eq_true_iff t c).2 ⟨k', hk', isOpen⟩)

@[simp] theorem inUse?_arrival (p : Purpose) (q : Nat) : (arrival p q).inUse? = none := by
  cases p <;> rfl

theorem CountsIn.inUse? {made : List Nat} {c : Nat} (h : CountsIn p s made c t next) :
    next.inUse? = none := by
  cases h with
  | last => exact inUse?_arrival p _
  | more => rfl

theorem Begins.inUse? (h : Begins p s t next) : next.inUse? = none := by
  cases h with
  | empty => exact inUse?_arrival p _
  | refused | going => rfl

/-- A connection to a file is found open or made anew before it is used. -/
theorem Moves.inUse (h : Moves me p s phase t next) (hfile : s.pool.location ≠ .memory) {c : Nat}
    (hused : next.inUse? = some c) : t.isOpen c = true ∨ phase.inUse? = some c := by
  cases h with
  | connectFirst made | replace made =>
    cases hused
    have hopen := Store.isOpen_of_connect made
    exact .inl hopen
  | sound isOpen =>
    cases hused
    exact .inl isOpen
  | takeInMemory inMemory => exact absurd inMemory hfile
  | draft | strike | keptOut | commitFails => exact .inr hused
  | arrive | arriveLater =>
    rw [inUse?_arrival] at hused
    cases hused
  | beginFirst _ _ begins | beginLater _ _ begins =>
    rw [begins.inUse?] at hused
    cases hused
  | connectNext _ _ counts | prepared _ counts | setUp _ _ _ counts =>
    rw [counts.inUse?] at hused
    cases hused
  | _ => cases hused

end Visit

/-- Every connection that a visit uses is open. -/
def UsesOpen (s : Store) (visits : Nat → Option Visiting) : Prop :=
  ∀ id c, Visiting.inUse? (visits id) = some c → s.isOpen c = true

namespace UsesOpen

variable {me : Nat} {p : Purpose} {s t : Store} {phase : Phase p.Answer}
  {next : Progress p.Answer} {visits visits' : Nat → Option Visiting}

theorem began (h : UsesOpen s visits) (hbegan : Visiting.Began me visits visits') :
    UsesOpen s visits' := by
  intro id c hc
  have hsame : Visiting.inUse? (visits' id) = Visiting.inUse? (visits id) :=
    hbegan.yields (fun _ => rfl) id
  rw [hsame] at hc
  exact h id c hc

/-- **No move closes a connection to a file that is used**, as long as nobody closes the pool. -/
theorem moves (h : UsesOpen s visits) (hslots : Slots s visits)
    (hopenings : Openings s.pool visits) (hfile : s.pool.location ≠ .memory)
    (hmove : Visit.Moves me p s phase t next)
    (hmoved : Visiting.Moved me phase next visits visits') : UsesOpen t visits' := by
  have hinUse : ∀ id, Visiting.inUse? (visits' id) =
      if id = me then next.inUse? else Visiting.inUse? (visits id) :=
    hmoved.yields_eq fun _ => rfl
  have hheld : Visiting.held? (visits me) = phase.held := by rw [hmoved.before]; rfl
  intro id c hc
  rw [hinUse] at hc
  split at hc
  · obtain hopen | hwas := hmove.inUse hfile hc
    · exact hopen
    · obtain hopen | ⟨-, hempty⟩ := hmove.isOpen (h me c (by rw [hmoved.before]; exact hwas))
      · exact hopen
      · have hmem := Progress.mem_held_of_inUse? hc
        rw [hempty] at hmem
        cases hmem
  · next hid =>
    have hother := Visiting.mem_held_of_inUse? hc
    obtain hopen | ⟨hmine | hopening, -⟩ := hmove.isOpen (h id c hc)
    · exact hopen
    · exact absurd (hslots.alone id me c hother (hheld ▸ hmine)) hid
    · have hme : Visiting.isOpening (visits me) = true := by
        rw [hmoved.before]
        exact hopening
      -- nothing is lent while the pool is being opened
      have hclosed := (hopenings.turn me hme).2
      refine absurd hother (hopenings.held?_of_closed hclosed ?_)
      cases hopens : Visiting.isOpening (visits id) with
      | false => rfl
      | true => exact absurd (hopenings.opener_unique hopens hme) hid

end UsesOpen

/-! ### Going on -/

/-- A visit that has begun a transaction is for one. -/
def Visiting.Transacts (v : Option Visiting) : Prop :=
  ∀ p, ∀ phase : Phase p.Answer, v = some ⟨p, phase⟩ → phase.transaction? ≠ none →
    p.IsTransaction

theorem Visiting.transacts_of_isIdle {v : Option Visiting} (h : IsIdle v) : Transacts v := by
  intro p phase hvisit htransaction
  obtain rfl | ⟨p', rfl⟩ := h
  · cases hvisit
  · cases hvisit
    exact absurd rfl htransaction

theorem Visiting.Transacts.moves {me : Nat} {p : Purpose} {s t : Store} {phase : Phase p.Answer}
    {next : Progress p.Answer} {visits visits' : Nat → Option Visiting}
    (h : Transacts (visits me)) (hmove : Visit.Moves me p s phase t next)
    (hmoved : Moved me phase next visits visits') : Transacts (visits' me) := by
  have hfollows := hmoved.after
  cases next with
  | going next =>
    intro p' phase' hvisit htransaction
    rw [hvisit] at hfollows
    cases hfollows
    exact hmove.transacting (h p phase hmoved.before) htransaction
  | ended => exact transacts_of_isIdle hfollows

namespace Visit

variable {me : Nat} {p : Purpose} {s t : Store} {phase : Phase p.Answer}
  {next : Progress p.Answer}

/-- The database of a new pool can be set up, or the wait for other transactions can expire. -/
theorem exists_step_preparing (me : Nat) (p : Purpose) (s : Store) (c : Nat) :
    ∃ choice st, step me p choice (.preparing c) s = some st := by
  have halike := (Store.ask_spec s c .version (.ok ()) fun d => .ok d.version).1
  cases hb : s.isBusy c with
  | true => exact ⟨.expire, _, if_pos hb⟩
  | false =>
    refine ⟨.go, ?_⟩
    simp only [step, go, prepare]
    rcases hask : s.ask c .version (.ok ()) (fun d => .ok d.version) with ⟨t, r⟩
    rw [hask] at halike
    rw [← halike.isBusy c] at hb
    cases r with
    | error f => exact ⟨_, rfl⟩
    | ok version =>
      simp only [hb, Bool.false_eq_true, if_false]
      split
      · exact ⟨_, rfl⟩
      · split
        · exact ⟨_, rfl⟩
        · exact ⟨_, rfl⟩

/-- The statement of a plain visit can be run, or the wait for other transactions can expire. -/
theorem exists_step_working (me : Nat) (hplain : p.IsPlain) (s : Store) (q c : Nat) :
    ∃ choice st, step me p choice (.working q c) s = some st := by
  have hask : ∀ question, ∃ st,
      step me (.borrow (.ask question)) .go (.working q c) s = some st := by
    intro question
    simp only [step, go, onErrand, work]
    split
    · exact ⟨_, rfl⟩
    · exact ⟨_, rfl⟩
  cases hplain with
  | load channel user => exact ⟨.go, hask _⟩
  | count => exact ⟨.go, hask _⟩
  | save character =>
    cases hb : s.isBusy c with
    | true => exact ⟨.expire, _, if_pos hb⟩
    | false =>
      refine ⟨.go, ?_⟩
      simp only [step, go, onErrand, work, workOnSave, hb, Bool.false_eq_true, if_false]
      split
      · split
        · exact ⟨_, rfl⟩
        · exact ⟨_, rfl⟩
      · exact ⟨_, rfl⟩

/-- **A plain visit can always go on**, unless others are before it in the line to open the pool. -/
theorem exists_step (me : Nat) (s : Store) (hplain : p.IsPlain)
    (htransaction : phase.transaction? ≠ none → p.IsTransaction) :
    (∃ choice st, step me p choice phase s = some st) ∨
      phase = .awaitingOpening ∧ s.pool.opening.head? ≠ some me := by
  cases phase with
  | entering => exact .inl ⟨.go, _, rfl⟩
  | awaitingOpening =>
    by_cases hfirst : s.pool.opening.head? = some me
    · exact .inl ⟨.go, _, if_pos hfirst⟩
    · exact .inr ⟨rfl, hfirst⟩
  | connecting made => exact .inl ⟨.go, _, rfl⟩
  | preparing c => exact .inl (exists_step_preparing me p s c)
  | awaiting q => exact .inl ⟨.expire, _, rfl⟩
  | checking q c =>
    refine .inl ⟨.go, ?_⟩
    simp only [step, go]
    split
    · exact ⟨_, rfl⟩
    · exact ⟨_, rfl⟩
  | replacing q c =>
    refine .inl ⟨.go, ?_⟩
    simp only [step, go]
    split
    · exact ⟨_, rfl⟩
    · exact ⟨_, rfl⟩
  | working q c => exact .inl (exists_step_working me hplain s q c)
  | committing q c =>
    refine .inl ⟨.go, ?_⟩
    cases hplain with
    | load | count => exact (htransaction (by simp [Phase.transaction?])).elim
    | save character =>
      simp only [step, go, onErrand, endTransaction]
      split
      · exact ⟨_, rfl⟩
      · exact ⟨_, rfl⟩
  | abandoning | undoing =>
    obtain ⟨st, hst, -⟩ := goes_on_of_isWrong me s rfl htransaction
    exact .inl ⟨.go, st, hst⟩
  | returning q c a => exact .inl ⟨.go, _, rfl⟩

end Visit

end CharacterLedger.Storage
