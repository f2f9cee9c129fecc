import CharacterLedger.Proofs.Ledger.Deeds
import CharacterLedger.Proofs.Ledger.Keeping
import CharacterLedger.Proofs.Ledger.Linearization
import CharacterLedger.Proofs.Ledger.Surfacing

/-!
# Corrupt rows

A row may hold anything in its cells.  A row with a cell that stands for no rating is refused
whenever it is read, and nobody writes to it, so that it stays as it is in every run of orders.  What
it is refused with depends on whether it can be fetched at all.

* `Cell.StandsFor` — a rating can be read from the cell;
* `Row.IsCorrupt`, `Row.Holds` — a row with a cell that stands for no rating, and a row whose cells
  stand for the ratings of a record;
* `Row.isCorrupt_or_holds`, `refusal`, `Row.toCharacter_of_isCorrupt` — every row is one of the two,
  and the first kind is refused;
* `Order.character?` — the character that an order is about, if it needs one;
* `VisitFails`, `IsRefused` — what an order on a corrupt row ends in: the refusal of the row, or the
  failure of the store that kept it from being read;
* `Task.refused_of_step` — no step of an order on a corrupt row draws dice or writes;
* `Quarantined`, `Run.quarantined` — a corrupt row stays in its place in every run.
-/

namespace CharacterLedger

open CharacterLedger.Table

namespace Table

/-! ### What cells stand for -/

/-- The cell stands for a rating: an integer from 0 to 4 can be read from it.  An undecodable text
stands for none. -/
def Cell.StandsFor (cell : Cell) (n : Int) : Prop :=
  Field.integer cell.toValue = .ok n ∧ 0 ≤ n ∧ n ≤ 4

/-- Some cell of the row stands for no rating. -/
def Row.IsCorrupt (r : Row) : Prop := ∃ a, ∀ n, ¬ (r.cells.get a).StandsFor n

/-- The cells of the row stand for the ratings of a record that has its key. -/
structure Row.Holds (r : Row) (c : Character) : Prop where
  channel : c.channel = r.channel
  user : c.user = r.user
  ratings : ∀ a, (r.cells.get a).StandsFor (c.rating a).toInt

theorem Row.Holds.not_isCorrupt {r : Row} {c : Character} (h : r.Holds c) : ¬ r.IsCorrupt := by
  rintro ⟨a, ha⟩
  exact ha _ (h.ratings a)

/-- A cell that no integer can be read from makes its row corrupt. -/
theorem Row.isCorrupt_of_unread {r : Row} (a : Action)
    (h : (Field.integer (r.cells.get a).toValue).toOption = none) : r.IsCorrupt := by
  refine ⟨a, ?_⟩
  rintro n ⟨hn, -⟩
  rw [hn] at h
  cases h

theorem Cell.standsFor_iff (cell : Cell) (rating : Rating) :
    cell.StandsFor rating.toInt ↔ Character.readRating cell.toValue = .ok rating := by
  have hrange : 0 ≤ rating.toInt ∧ rating.toInt ≤ 4 := by
    simp only [Rating.toInt]
    omega
  unfold StandsFor Character.readRating
  cases Field.integer cell.toValue with
  | error d => simp
  | ok n =>
    constructor
    · rintro ⟨hn, -⟩
      cases hn
      simp only [Rating.ofInt?_toInt]
    · intro h
      cases hrating : Rating.ofInt? n with
      | none => simp [hrating] at h
      | some other =>
        simp only [hrating, Except.ok.injEq] at h
        rw [← h, Rating.toInt_of_ofInt? hrating] at hrange ⊢
        exact ⟨rfl, hrange⟩

end Table

namespace Ledger

open CharacterLedger.Storage CharacterLedger.Dice

/-! ### Reading a row -/

theorem Row.toCharacter_eq_ok_iff_holds (channel user : Value) (r : Row) (c : Character) :
    (Row.toCharacter channel user r).2 = .ok c ↔ r.Holds c := by
  rw [Row.toCharacter_eq_ok_iff]
  constructor
  · rintro ⟨hchannel, huser, hratings⟩
    exact ⟨hchannel, huser, fun a => (Cell.standsFor_iff _ _).2 (hratings a)⟩
  · rintro ⟨hchannel, huser, hratings⟩
    exact ⟨hchannel, huser, fun a => (Cell.standsFor_iff _ _).1 (hratings a)⟩

/-- The row of a record holds it. -/
theorem Row.holds_ofCharacter (c : Character) : (Row.ofCharacter c).Holds c :=
  (Row.toCharacter_eq_ok_iff_holds .null .null _ c).1 (Row.toCharacter_ofCharacter ..)

/-- A row holds one record at most. -/
theorem Row.Holds.unique {r : Row} {c d : Character} (hc : r.Holds c) (hd : r.Holds d) : c = d := by
  rw [← Row.toCharacter_eq_ok_iff_holds .null .null] at hc hd
  exact Except.ok.inj (hc.symm.trans hd)

/-- The error of a row that is no record: the fault of fetching it, or all that is wrong with its
fields. -/
def refusal (r : Row) : Error :=
  match r.fault? with
  | some f => .storage (.failed f)
  | none => .storage (.corrupt (Character.issues r.toFields))

/-- The key of the error tells whether the row could be fetched. -/
theorem key?_refusal (r : Row) :
    (refusal r).key? =
      some (if r.fault?.isSome then "storage_error" else "storage_corrupt_record") := by
  unfold refusal
  cases r.fault? <;> rfl

/-- A corrupt row is refused. -/
theorem Row.toCharacter_of_isCorrupt {r : Row} (h : r.IsCorrupt) (channel user : Value) :
    (Row.toCharacter channel user r).2 = .error (refusal r) := by
  unfold refusal
  cases hfault : r.fault? with
  | some f => exact Row.toCharacter_of_fault hfault channel user
  | none =>
    cases hread : Character.ofFields r.toFields with
    | ok c =>
      have hholds : r.Holds c := by
        rw [← Row.toCharacter_eq_ok_iff_holds channel user, Row.toCharacter_of_no_fault hfault,
          hread]
        rfl
      exact absurd h hholds.not_isCorrupt
    | error issues =>
      rw [Row.toCharacter_of_no_fault hfault, hread]
      unfold Character.ofFields at hread
      split at hread
      · cases hread
      · cases hread
        rfl

/-- Every row is corrupt or holds a record. -/
theorem Row.isCorrupt_or_holds (r : Row) : r.IsCorrupt ∨ ∃ c, r.Holds c := by
  by_cases h : ∀ a, ∃ n, (r.cells.get a).StandsFor n
  · choose n hn using h
    refine .inr ⟨⟨r.channel, r.user, .ofFn fun a => Rating.clamp (n a)⟩, rfl, rfl, ?_⟩
    intro a
    have hrange := (hn a).2
    rw [Character.rating, Sheet.get_ofFn, Rating.toInt_clamp,
      show max Rating.least (min Rating.greatest (n a)) = n a by
        simp only [Rating.least, Rating.greatest]
        omega]
    exact hn a
  · simp only [not_forall, not_exists] at h
    exact .inl h

/-! ### The character of an order -/

/-- The character that an order is about: the texts of its channel and its user. -/
def Order.character? (o : Order) : Option (String × String) :=
  match o.plan with
  | .withCharacter channel user _ =>
    match Database.keyTexts channel user with
    | .ok (some channel, some user) => some (channel, user)
    | _ => none
  | .refuse _ | .rollDice _ => none

theorem Order.character?_eq_some {o : Order} {key : String × String}
    (h : o.character? = some key) : ∃ channel user use,
      o.plan = .withCharacter channel user use ∧
      Database.keyTexts channel user = .ok (some key.1, some key.2) := by
  unfold character? at h
  split at h
  · next channel user use hplan =>
    split at h
    · next x y htexts =>
      cases h
      exact ⟨channel, user, use, hplan, htexts⟩
    · cases h
  · cases h
  · cases h

/-- Whatever has texts is the key of a lock. -/
theorem keyRefusal?_of_keyTexts {channel user : Value} {texts : Option String × Option String}
    (h : Database.keyTexts channel user = .ok texts) : Call.keyRefusal? channel user = none := by
  have hpart : ∀ (index : Nat) (v : Value) text, keyText? index v = .ok text →
      ∃ part, KeyPart.ofValue v = .ok part := by
    intro index v text hv
    cases v with
    | null | flag | int | text => exact ⟨_, rfl⟩
    | real x =>
      simp only [KeyPart.ofValue]
      cases x.toInt? <;> exact ⟨_, rfl⟩
    | list | object => cases hv
  unfold Database.keyTexts at h
  cases hchannel : keyText? 1 channel with
  | error f => simp [hchannel] at h
  | ok x =>
    cases huser : keyText? 2 user with
    | error f => simp [hchannel, huser] at h
    | ok y =>
      obtain ⟨a, ha⟩ := hpart 1 channel x hchannel
      obtain ⟨b, hb⟩ := hpart 2 user y huser
      simp only [Call.keyRefusal?, Key.ofValues, ha, hb]

theorem rowAt_of_keyTexts {channel user : Value} {x y : String}
    (h : Database.keyTexts channel user = .ok (some x, some y)) (rows : List Row) :
    rowAt rows channel user = rowAt rows (.text x) (.text y) := by
  rw [rowAt, h, rowAt_text]

/-! ### What nobody writes to -/

/-- A task that is about the character of a row has read this row, and is to write nothing. -/
def Respects (r : Row) : Stage → Prop
  | .loading _ channel user _ (.returning _ _ row) =>
    Database.keyTexts channel user = .ok (some r.channel, some r.user) → row = some r
  | .saving _ channel user _ _ _ =>
    Database.keyTexts channel user ≠ .ok (some r.channel, some r.user)
  | _ => True

/-- What is written is no row of that character. -/
theorem Respects.key_ne {r : Row} {st st' : Stage} {changed : Character} (h : Respects r st)
    (hkeyed : Task.Keyed st) (hcommits : Task.Commits st st' changed) :
    (Row.ofCharacter changed).key ≠ r.key := by
  cases hcommits with
  | adjusted =>
    intro hsame
    obtain ⟨hchannel, huser⟩ := Prod.mk.inj hsame
    refine h (hkeyed.trans ?_)
    rw [show changed.channel = r.channel from hchannel, show changed.user = r.user from huser]

theorem Task.respects_of_moves {id : Nat} {call : Call} {s s' : Store} {l l' : KeyLocks}
    {st st' : Stage} {r : Row} (hmove : Task.Moves id call s l st s' l' st')
    (hcorrupt : r.IsCorrupt) (hrespects : Respects r st) {rows : List Row}
    (hanswers : Answers s rows st)
    (hrow : rowAt rows (.text r.channel) (.text r.user) = some r) : Respects r st' := by
  cases hmove with
  | @load lock channel user use phase next t move =>
    cases next with
    | returning q c row =>
      obtain ⟨rfl, hcarried⟩ := move.answered
      intro hkey
      rw [hanswers channel user q c row rfl hcarried, rowAt_of_keyTexts hkey]
      exact hrow
    | entering | awaitingOpening | connecting | preparing | abandoning | awaiting | checking
    | replacing | working | committing | undoing => exact trivial
  | @adjusts lock channel user a delta phase t result c changed adjustment move reads adjusted =>
    -- The row that has been read is not this one, which is no record.
    intro hkey
    cases result with
    | error failure =>
      simp only [loaded] at reads
      cases reads
    | ok row =>
      obtain ⟨q, connection, rfl⟩ := move.given
      rw [show row = some r from hrespects hkey] at reads
      cases (Row.toCharacter_of_isCorrupt hcorrupt channel user).symm.trans reads
  | save => exact hrespects
  | refuse | rollAtOnce | closeNothing | closeAtOnce | goVisiting | goClosing | reach | reachToHold
  | acquire | acquireToHold | closeNext | closed | visit | visited | loadFails | used | cannotAdjust
  | saveFails | saved | letGo => exact trivial

/-- The visit of a task ends with a failure of the store in a step. -/
def VisitFails (id : Nat) (choice : Choice) (s : Store) (visit? : Option Visiting)
    (failure : Failure) : Prop :=
  ∃ p phase st, visit? = some ⟨p, phase⟩ ∧ Visit.step id p choice phase s = some st ∧
    st.progress = .ended (.error failure)

/-- What comes of a step of an order on the character of a corrupt row, if it ends the order: the
row is refused, unless the store fails the visit that was to read it. -/
def IsRefused (r : Row) (fails : Failure → Prop) (result : Except Error Reply) : Prop :=
  result = .error (refusal r) ∨
    ∃ failure, fails failure ∧ result = .error (storeError none failure).2

/-- What is reported of a failure makes no difference to the error. -/
theorem storeError_report (report? : Option String) (failure : Failure) :
    (storeError report? failure).2 = (storeError none failure).2 := by
  cases failure with
  | timeout => rfl
  | fault f =>
    simp only [storeError]
    split <;> rfl

namespace Task

variable {id : Nat} {choice : Choice} {w w' : World} {t t' : Task} {o : Order} {r : Row}

/-- What is read for the character of a corrupt row is refused, and no dice are rolled for it. -/
theorem refused_at_loading {lock : Nat} {channel user : Value} {use : Use} {s : Store}
    {phase : Phase (Purpose.borrow (.ask (.character channel user))).Answer}
    {st : Storage.Step (Purpose.borrow (.ask (.character channel user))).Answer}
    (hkey : Database.keyTexts channel user = .ok (some r.channel, some r.user))
    (hst : Visit.step id (.borrow (.ask (.character channel user))) choice phase s = some st)
    (hcorrupt : r.IsCorrupt) (hrespects : Respects r (.loading lock channel user use phase))
    (dice : Entropy) :
    onceEnded (fun r => (loaded channel user r).2.toOption.bind use.dice?) st = none ∧
      ∀ result, onceEnded (fun r =>
        match (loaded channel user r).2 with
        | .error e => some (.error e)
        | .ok c => use.reply? c dice) st = some result →
          IsRefused r (VisitFails id choice s
            (some ⟨.borrow (.ask (.character channel user)), phase⟩)) result := by
  have hmove := Visit.moves_of_step hst
  unfold onceEnded
  cases hprogress : st.progress with
  | going next => exact ⟨rfl, (fun _ h => by cases h)⟩
  | ended answer =>
    rw [hprogress] at hmove
    cases answer with
    | error failure =>
      refine ⟨rfl, ?_⟩
      intro result hresult
      cases hresult
      exact .inr ⟨failure, ⟨_, phase, st, rfl, hst, hprogress⟩,
        congrArg Except.error (storeError_report _ failure)⟩
    | ok row =>
      obtain ⟨q, c, rfl⟩ := hmove.given
      have hread : (loaded channel user (.ok row)).2 = .error (refusal r) := by
        rw [show row = some r from hrespects hkey]
        exact Row.toCharacter_of_isCorrupt hcorrupt channel user
      dsimp only
      rw [hread]
      refine ⟨rfl, ?_⟩
      intro result hresult
      cases hresult
      exact .inl rfl

/-- **An order on the character of a corrupt row is refused**: its steps roll no dice and write
nothing. -/
theorem refused_of_step (hstep : t.step id choice w = some (w', t')) (hcall : t.call = .execute o)
    (hkey : o.character? = some r.key) (hfits : Fits t.call t.stage) (hcorrupt : r.IsCorrupt)
    (hrespects : Respects r t.stage) :
    w'.entropy = w.entropy ∧ (∀ changed, ¬ Commits t.stage t'.stage changed) ∧
      ∀ result, t'.result? = some result →
        IsRefused r (VisitFails id choice w.store t.stage.visit?) result := by
  have hdice : w'.entropy = diceAfter (t.dice? id choice w) w.entropy :=
    (throws_of_step hstep).entropy_eq
  have hresult : t'.result? = t.reply? id choice w o := result?_of_step hstep hcall hfits
  obtain ⟨channel, user, use, hplan, htexts⟩ := Order.character?_eq_some hkey
  have huse : t.call.use? = some (channel, user, use) := by
    rw [hcall]
    exact Call.use?_execute_eq_some_iff.2 hplan
  rw [hresult, hdice]
  unfold dice? reply?
  unfold step at hstep
  cases hs : t.stage with
  | ready =>
    refine ⟨?_, (fun _ h => by cases h), ?_⟩
    · simp only [hcall, Call.dice?, hplan]
      rfl
    · intro result hresult
      simp only [Order.replyAtOnce?, hplan, keyRefusal?_of_keyTexts htexts] at hresult
      cases hresult
  | loading lock channel' user' use' phase =>
    rw [hs] at hrespects hfits hstep
    cases huse.symm.trans hfits.1
    obtain ⟨st, hst, -⟩ := Option.map_eq_some_iff.1 hstep
    dsimp only
    rw [hst, Option.bind_some, Option.bind_some]
    obtain ⟨hno, hrefused⟩ := refused_at_loading htexts hst hcorrupt hrespects w.entropy
    rw [hno]
    exact ⟨rfl, (fun _ h => by cases h), hrefused⟩
  | saving lock channel' user' a changed phase =>
    rw [hs] at hrespects hfits
    cases huse.symm.trans hfits.1
    exact absurd htexts hrespects
  | queued | done => exact ⟨rfl, (fun _ h => by cases h), (fun _ h => by cases h)⟩
  | visiting | closing =>
    rw [hcall, hs] at hfits
    cases hfits
  | queuedToHold | holding =>
    rw [hs] at hfits
    cases huse.symm.trans hfits.1

end Task

/-- A corrupt row is in its place, and all tasks respect it. -/
structure Quarantined (r : Row) (s : System) : Prop where
  row : rowAt s.rows (.text r.channel) (.text r.user) = some r
  keyed : ∀ (id : Nat) (t : Task), s.tasks[id]? = some t → Task.Keyed t.stage
  respects : ∀ (id : Nat) (t : Task), s.tasks[id]? = some t → Respects r t.stage

namespace Quarantined

variable {r : Row} {s s' : System} {id : Nat} {choice : Choice}

theorem start {w : World} (calls : List Call)
    (hrow : rowAt w.store.rows (.text r.channel) (.text r.user) = some r) :
    Quarantined r (System.start w calls) := by
  refine ⟨hrow, ?_, ?_⟩
  all_goals
    intro id t ht
    rw [(System.stage_of_start ht).2]
    exact trivial

/-- **Every step leaves a corrupt row in its place.** -/
theorem step (h : Quarantined r s) (hcorrupt : r.IsCorrupt) (hsound : s.Sound)
    (hone : s.OneDatabase) (hstep : s.step id choice = some s') : Quarantined r s' := by
  obtain ⟨t, t', ht, hset, -, hmove⟩ := System.moves_of_step hstep
  have hanswers := System.answers hsound hone ht
  have hkeyed : Task.Keyed t'.stage := by
    refine Task.keyed_of_moves hmove (h.keyed id t ht) ?_
    intro channel user q c row hvisit hcarried r' hr'
    rw [hanswers channel user q c row hvisit hcarried] at hr'
    exact key_of_rowAt hr'
  have hrespects : Respects r t'.stage :=
    Task.respects_of_moves hmove hcorrupt (h.respects id t ht) hanswers h.row
  refine ⟨?_, ?_, ?_⟩
  · obtain ⟨changed, hcommits, hrows⟩ | ⟨hrows, -⟩ :=
      System.rows_of_move hsound hone ht hset hmove
    · have hne := (h.respects id t ht).key_ne (h.keyed id t ht) hcommits
      rw [hrows, rowAt_replaceRow_of_ne s.rows hne]
      exact h.row
    · rw [hrows]
      exact h.row
  · intro other u hu
    obtain ⟨-, rfl⟩ | hold := System.task_of_step hset hu
    · exact hkeyed
    · exact h.keyed other u hold
  · intro other u hu
    obtain ⟨-, rfl⟩ | hold := System.task_of_step hset hu
    · exact hrespects
    · exact h.respects other u hold

/-- **An order on its character is refused**, whoever goes on in between. -/
theorem refuses (h : Quarantined r s) (hcorrupt : r.IsCorrupt) (hsound : s.Sound)
    (hone : s.OneDatabase) (hstep : s.step id choice = some s') {o : Order}
    (hcall : s.calls[id]? = some (.execute o)) (hkey : o.character? = some r.key) :
    s'.rows = s.rows ∧ s'.world.entropy = s.world.entropy ∧
      ∀ result, s'.result? id = some result →
        IsRefused r (VisitFails id choice s.world.store (s.visits id)) result := by
  obtain ⟨t, t', ht, hr, ht', -⟩ := System.exists_task_step hstep
  obtain ⟨u, u', hu, hset, -, hmove⟩ := System.moves_of_step hstep
  obtain ⟨hu', -⟩ := System.tasks_of_set hu hset
  cases ht.symm.trans hu
  cases ht'.symm.trans hu'
  obtain ⟨v, hv, hexecute⟩ := System.getElem?_calls_eq_some_iff.1 hcall
  cases ht.symm.trans hv
  obtain ⟨hdice, hno, hrefused⟩ :=
    Task.refused_of_step hr hexecute hkey (hsound.fits id t ht) hcorrupt (h.respects id t ht)
  refine ⟨?_, hdice, ?_⟩
  · obtain ⟨changed, hcommits, -⟩ | ⟨hrows, -⟩ := System.rows_of_move hsound hone ht hset hmove
    · exact absurd hcommits (hno changed)
    · exact hrows
  · rw [System.result?, System.visits, ht, ht', Option.bind_some, Option.bind_some]
    exact hrefused

end Quarantined

/-- **A corrupt row stays in its place in every run of orders.** -/
theorem Run.quarantined {w : World} {orders : List Order} {es : List Event} {s : System}
    {r : Row} (hrun : Run (System.start w (orders.map .execute)) es s)
    (hsound : (System.start w (orders.map .execute)).Sound)
    (hone : (System.start w (orders.map .execute)).OneDatabase) (hcorrupt : r.IsCorrupt)
    (hrow : rowAt w.store.rows (.text r.channel) (.text r.user) = some r) : Quarantined r s := by
  induction hrun with
  | start => exact .start _ hrow
  | step run step ih => exact ih.step hcorrupt (run.sound hsound) (run.oneDatabase hsound hone) step
  | forget _ ih => exact ⟨ih.row, ih.keyed, ih.respects⟩

end Ledger

end CharacterLedger
