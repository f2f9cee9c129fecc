import CharacterLedger.Proofs.Ledger.Serializability
import CharacterLedger.Proofs.Ledger.Tracing

/-!
# Orders one after the other

Orders whose tasks take their steps in any order come to what they come to if they are carried out
at once and one after the other, in the order in which they end: the results are the same, and so are
the rows and the dice that are left.  An order that the store turns away, because there is no
connection in time or because a statement fails, changes nothing; those are left out.

* `oneByOne` — orders carried out at once, one after the other;
* `executeInTurn`, `World.Serves.executeInTurn` — orders carried out step by step, each after the
  end of the one before it, which comes to the same in a world that serves;
* `isOfStore`, `isTurnedAway` — the errors of orders that the store has turned away, and none
  that anything else ends in;
* `Acts`, `Task.acts_of_step` — what a step of an order does to the rows and to the dice;
* `endings`, `carriedOut` — the orders that have ended, and those of them that were not turned away,
  with what they have ended in;
* `Linear`, `Run.linear` — every run comes to what its orders come to one after the other;
* `inOrder`, `Linear.oneByOne_inOrder` — and so do runs in which all of them are answered.
-/

namespace CharacterLedger.Ledger

open CharacterLedger.Dice CharacterLedger.Storage CharacterLedger.Table

/-! ### Orders that are carried out one after the other -/

/-- What comes of orders that are carried out at once, one after the other: their results, the rows
and the dice. -/
def oneByOne : List Order → List Row → Entropy → List (Except Error Reply) × List Row × Entropy
  | [], rows, dice => ([], rows, dice)
  | o :: rest, rows, dice =>
    let (r, rows, dice) := o.atOnce rows dice
    let (results, rows, dice) := oneByOne rest rows dice
    (r :: results, rows, dice)

/-- One more order is carried out after all the others. -/
theorem oneByOne_concat {orders : List Order} {o : Order} {rows rows' rows'' : List Row}
    {dice dice' dice'' : Entropy} {results : List (Except Error Reply)} {r : Except Error Reply}
    (h : oneByOne orders rows dice = (results, rows', dice'))
    (ho : o.atOnce rows' dice' = (r, rows'', dice'')) :
    oneByOne (orders ++ [o]) rows dice = (results ++ [r], rows'', dice'') := by
  induction orders generalizing rows dice results with
  | nil =>
    cases h
    simp [oneByOne, ho]
  | cons first orders ih =>
    simp only [oneByOne] at h
    rcases hfirst : first.atOnce rows dice with ⟨r₁, rows₁, dice₁⟩
    rcases hrest : oneByOne orders rows₁ dice₁ with ⟨results₁, rows₂, dice₂⟩
    simp only [hfirst, hrest] at h
    cases h
    simp [oneByOne, hfirst, ih hrest]

/-- Carries orders out one after the other, in a world where nothing else is going on. -/
def executeInTurn : List Order → World → List (Except Error Reply) × World
  | [], w => ([], w)
  | o :: rest, w =>
    let (r, w) := Session.callOn w (.execute o)
    let (results, w) := executeInTurn rest w
    (r :: results, w)

/-- **In a world that serves, orders come to what they come to at once**, and the world serves on. -/
theorem World.Serves.executeInTurn {w : World} {file q : Nat} (h : w.Serves file q)
    {orders : List Order} (htexts : ∀ o ∈ orders, o.HasTexts) :
    ∃ w', executeInTurn orders w = ((oneByOne orders w.store.rows w.entropy).1, w') ∧
      w'.Serves file q ∧ w'.store.rows = (oneByOne orders w.store.rows w.entropy).2.1 ∧
      w'.entropy = (oneByOne orders w.store.rows w.entropy).2.2 := by
  induction orders generalizing w with
  | nil => exact ⟨w, rfl, h, rfl, rfl⟩
  | cons o rest ih =>
    obtain ⟨w₁, hcall, hserves₁, hrows₁, hdice₁⟩ := h.execute (htexts o List.mem_cons_self)
    obtain ⟨w₂, hrest, hserves₂, hrows₂, hdice₂⟩ :=
      ih hserves₁ fun j hj => htexts j (List.mem_cons_of_mem o hj)
    rw [hrows₁, hdice₁] at hrest hrows₂ hdice₂
    refine ⟨w₂, ?_, hserves₂, hrows₂, hdice₂⟩
    simp only [Ledger.executeInTurn, oneByOne, hcall, hrest]

/-! ### Errors of the store -/

/-- Whether the store has failed: no connection in time, or a fault. -/
def isOfStore : Error → Bool
  | .storage .timeout | .storage (.failed _) | .fault _ => true
  | _ => false

/-- Whether the store has turned an order away. -/
def isTurnedAway : Except Error Reply → Bool
  | .ok _ => false
  | .error e => isOfStore e

theorem isOfStore_storeError (report? : Option String) (failure : Failure) :
    isOfStore (storeError report? failure).2 = true := by
  cases failure with
  | timeout => rfl
  | fault f =>
    simp only [storeError]
    split <;> rfl

@[simp] theorem isOfStore_ofRoll (e : RollError) : isOfStore (Error.ofRoll e) = false := by
  cases e <;> rfl

theorem rolled_eq (pool : Value) (rows : List Row) (dice : Entropy) :
    rolled pool rows dice = (rollResult (roll pool dice).1, rows, (roll pool dice).2) := by
  unfold rolled
  rcases roll pool dice with ⟨result, left⟩
  cases result <;> rfl

theorem isTurnedAway_rollResult (r : Except RollError Outcome) :
    isTurnedAway (rollResult r) = false := by
  cases r with
  | ok o => rfl
  | error e => exact isOfStore_ofRoll e

theorem isTurnedAway_apply (use : Use) (c : Character) (rows : List Row) (dice : Entropy) :
    isTurnedAway (use.apply c rows dice).1 = false := by
  cases use with
  | rating | view => rfl
  | resist which =>
    rw [Use.apply, rolled_eq]
    exact isTurnedAway_rollResult _
  | roll a bonus =>
    simp only [Use.apply]
    cases Value.plus (c.rating a).toInt bonus with
    | error m => rfl
    | ok pool =>
      dsimp only
      rw [rolled_eq]
      exact isTurnedAway_rollResult _
  | adjust a delta =>
    simp only [Use.apply, Task.adjust]
    cases changedRating (c.rating a) delta with
    | error m => rfl
    | ok after =>
      dsimp only
      cases c.withField a.name after <;> rfl

/-- **An order that the store turns away**, though it is carried out at once, changes nothing: the
row of its character cannot be fetched. -/
theorem atOnce_of_isTurnedAway {o : Order} {rows rows' : List Row} {dice dice' : Entropy}
    {r : Except Error Reply} (h : o.atOnce rows dice = (r, rows', dice'))
    (haway : isTurnedAway r = true) : rows' = rows ∧ dice' = dice := by
  unfold Order.atOnce at h
  split at h
  · cases h
    exact ⟨rfl, rfl⟩
  · rw [rolled_eq] at h
    cases h
    rw [isTurnedAway_rollResult] at haway
    cases haway
  · next use _ =>
    split at h
    · cases h
      exact ⟨rfl, rfl⟩
    · next c _ =>
      have hused := isTurnedAway_apply use c rows dice
      rw [h, haway] at hused
      cases hused

/-- An order that succeeds can be written. -/
theorem isWritable_of_ok {o : Order} {rows rows' : List Row} {dice dice' : Entropy} {reply : Reply}
    (h : o.atOnce rows dice = (.ok reply, rows', dice')) : o.isWritable = true := by
  by_contra hnot
  simp [Order.atOnce, Order.plan, hnot] at h

/-! ### What the steps of an order do -/

/-- What a step of an order does to the rows and the dice, by what the order ends in if it ends:
nothing, unless it ends, and then what the order does that is carried out at once, unless the store
turns it away. -/
inductive Acts (o : Order) (rows rows' : List Row) (dice dice' : Entropy) :
    Option (Except Error Reply) → Prop
  | goesOn (sameRows : rows' = rows) (sameDice : dice' = dice) : Acts o rows rows' dice dice' none
  | turnedAway {r : Except Error Reply} (away : isTurnedAway r = true) (sameRows : rows' = rows)
      (sameDice : dice' = dice) : Acts o rows rows' dice dice' (some r)
  | atOnce {r : Except Error Reply} (effect : o.atOnce rows dice = (r, rows', dice')) :
      Acts o rows rows' dice dice' (some r)

/-- The dice that are left once a pool has been rolled, if one has. -/
def diceAfter (pool? : Option Value) (dice : Entropy) : Entropy :=
  match pool? with
  | none => dice
  | some pool => (roll pool dice).2

theorem Task.Throws.entropy_eq {w w' : World} {st : Stage} {pool? : Option Value}
    (h : Task.Throws w w' st pool?) : w'.entropy = diceAfter pool? w.entropy := by
  cases h with
  | nothing same => exact same
  | roll dice => exact dice

/-- What comes of a record that is used without being written. -/
theorem Use.apply_of_reply? {use : Use} {c : Character} {dice : Entropy} {r : Except Error Reply}
    (h : use.reply? c dice = some r) (rows : List Row) :
    use.apply c rows dice = (r, rows, diceAfter (use.dice? c) dice) := by
  cases use with
  | rating | view =>
    cases h
    rfl
  | resist which =>
    cases h
    exact rolled_eq _ _ _
  | roll a bonus =>
    simp only [reply?, apply, dice?] at h ⊢
    cases hpool : Value.plus (c.rating a).toInt bonus with
    | error m =>
      rw [hpool] at h
      cases h
      rfl
    | ok pool =>
      rw [hpool] at h
      cases h
      exact rolled_eq _ _ _
  | adjust a delta =>
    simp only [reply?, apply, dice?] at h ⊢
    cases hadjust : Task.adjust c a delta with
    | error e =>
      rw [hadjust] at h
      cases h
      rfl
    | ok => simp [hadjust] at h

namespace Task

variable {id : Nat} {choice : Choice} {w w' : World} {t t' : Task} {o : Order}
  {rows rows' : List Row}

/-- The first step of an order does all of it, unless the order needs a record. -/
theorem acts_at_ready (ho : o.HasTexts) (dice : Entropy) (rows : List Row) :
    Acts o rows rows dice (diceAfter (Call.execute o).dice? dice) (o.replyAtOnce? dice) := by
  simp only [Order.replyAtOnce?, Call.dice?]
  cases hplan : o.plan with
  | refuse e =>
    refine .atOnce ?_
    simp only [Order.atOnce, hplan, diceAfter]
  | rollDice n =>
    refine .atOnce ?_
    simp only [Order.atOnce, hplan, diceAfter]
    exact rolled_eq n rows dice
  | withCharacter channel user use =>
    obtain ⟨x, y, rfl, rfl⟩ := ho channel user use hplan
    exact .goesOn rfl rfl

/-- **Once the record has been read**, the step does all that the order does, unless the record has
to be written. -/
theorem acts_at_reading {channel user : Value} {use : Use}
    (hplan : o.plan = .withCharacter channel user use) (dice : Entropy) {row : Option Row}
    (hrow : row = rowAt rows channel user) :
    Acts o rows rows dice
      (diceAfter ((loaded channel user (.ok row)).2.toOption.bind use.dice?) dice)
      (match (loaded channel user (.ok row)).2 with
        | .error e => some (.error e)
        | .ok c => use.reply? c dice) := by
  rw [hrow, show (loaded channel user (.ok (rowAt rows channel user))).2 =
    recordAt rows channel user from rfl]
  cases hrecord : recordAt rows channel user with
  | error e =>
    refine .atOnce ?_
    simp only [Order.atOnce, hplan, hrecord]
    rfl
  | ok c =>
    rw [show (Except.ok c : Except Error Character).toOption.bind use.dice? = use.dice? c from rfl]
    dsimp only
    cases hreply : use.reply? c dice with
    | some r =>
      refine .atOnce ?_
      simp only [Order.atOnce, hplan, hrecord]
      exact Use.apply_of_reply? hreply rows
    | none =>
      have hdice : use.dice? c = none := by
        cases use with
        | adjust => rfl
        | roll a bonus =>
          simp only [Use.reply?] at hreply
          split at hreply <;> cases hreply
        | rating | view | resist => cases hreply
      rw [hdice]
      exact .goesOn rfl rfl

/-- What a step of loading does. -/
theorem acts_at_loading {lock : Nat} {channel user : Value} {use : Use} {s : Store}
    {phase : Phase (Purpose.borrow (.ask (.character channel user))).Answer}
    {st : Storage.Step (Purpose.borrow (.ask (.character channel user))).Answer}
    (hplan : o.plan = .withCharacter channel user use)
    (hst : Visit.step id (.borrow (.ask (.character channel user))) choice phase s = some st)
    (hseen : Seen rows (.loading lock channel user use phase)) (dice : Entropy) :
    Acts o rows rows dice
      (diceAfter (onceEnded (fun r => (loaded channel user r).2.toOption.bind use.dice?) st) dice)
      (onceEnded (fun r =>
        match (loaded channel user r).2 with
        | .error e => some (.error e)
        | .ok c => use.reply? c dice) st) := by
  have hmove := Visit.moves_of_step hst
  unfold onceEnded
  cases hprogress : st.progress with
  | going next => exact .goesOn rfl rfl
  | ended r =>
    rw [hprogress] at hmove
    cases r with
    | error failure => exact .turnedAway (isOfStore_storeError _ failure) rfl rfl
    | ok row =>
      obtain ⟨q, c, rfl⟩ := hmove.given
      exact acts_at_reading hplan dice hseen

theorem stage_of_result? {r : Except Error Reply} (h : t.result? = some r) :
    t.stage = .done r := by
  unfold result? at h
  split at h
  · next hs =>
    cases h
    exact hs
  · cases h

/-- What a step of saving does. -/
theorem acts_at_saving {lock : Nat} {channel user : Value} {a : Adjustment} {changed : Character}
    {phase : Phase (Purpose.borrow (.save changed)).Answer}
    {st : Storage.Step (Purpose.borrow (.save changed)).Answer}
    (hplan : o.plan = .withCharacter channel user (.adjust a.action a.delta))
    (hseen : Seen rows (.saving lock channel user a changed phase)) (dice : Entropy)
    (hwritten : st.progress = .ended (.ok ()) →
      rows' = CharacterTable.replaceRow (Row.ofCharacter changed) rows)
    (hsame : st.progress ≠ .ended (.ok ()) → rows' = rows) :
    Acts o rows rows' dice dice
      (onceEnded (fun r => some ((saved changed r).2.map fun _ => .adjusted a.after)) st) := by
  unfold onceEnded
  cases hprogress : st.progress with
  | going next => exact .goesOn (hsame (hprogress ▸ nofun)) rfl
  | ended r =>
    cases r with
    | error failure =>
      refine .turnedAway (isOfStore_storeError _ failure) (hsame ?_) rfl
      rw [hprogress]
      exact nofun
    | ok =>
      refine .atOnce ?_
      obtain ⟨c, hrecord, hadjust⟩ := hseen
      simp only [Order.atOnce, hplan, hrecord, Use.apply, hadjust, hwritten hprogress]
      rfl

/-- **Every step of an order does nothing, or all that the order does.** -/
theorem acts_of_step (hstep : t.step id choice w = some (w', t')) (hcall : t.call = .execute o)
    (ho : o.HasTexts) (hfits : Fits t.call t.stage) (hseen : Seen rows t.stage)
    (hrows : (∃ changed, Commits t.stage t'.stage changed ∧
        rows' = CharacterTable.replaceRow (Row.ofCharacter changed) rows) ∨
      rows' = rows ∧ ∀ changed, ¬ Commits t.stage t'.stage changed) :
    Acts o rows rows' w.entropy w'.entropy t'.result? := by
  have hdice : w'.entropy = diceAfter (t.dice? id choice w) w.entropy :=
    (throws_of_step hstep).entropy_eq
  have hresult : t'.result? = t.reply? id choice w o := result?_of_step hstep hcall hfits
  have hsame := rows_eq_of_not_commits hrows
  have hplan : ∀ {channel user use}, t.call.use? = some (channel, user, use) →
      o.plan = .withCharacter channel user use := by
    rw [hcall]
    exact Call.use?_execute_eq_some_iff.1
  rw [hresult, hdice]
  unfold dice? reply?
  unfold step at hstep
  cases hs : t.stage with
  | ready =>
    rw [hs] at hsame
    rw [hsame (fun _ h => by cases h), hcall]
    exact acts_at_ready ho w.entropy rows
  | loading lock channel user use phase =>
    rw [hs] at hsame hseen hfits hstep
    rw [hsame fun _ h => by cases h]
    obtain ⟨st, hst, -⟩ := Option.map_eq_some_iff.1 hstep
    dsimp only
    rw [hst, Option.bind_some, Option.bind_some]
    exact acts_at_loading (hplan hfits.1) hst hseen w.entropy
  | saving lock channel user a changed phase =>
    rw [hs] at hsame hseen hfits hstep hrows
    obtain ⟨st, hst, -⟩ := Option.map_eq_some_iff.1 hstep
    have hended : t'.result? =
        onceEnded (fun r => some ((saved changed r).2.map fun _ => .adjusted a.after)) st := by
      rw [hresult, reply?, hs]
      dsimp only
      rw [hst, Option.bind_some]
    dsimp only
    rw [hst, Option.bind_some]
    refine acts_at_saving (hplan hfits.1) hseen w.entropy ?_ ?_
    · intro hprogress
      rw [onceEnded, hprogress] at hended
      rw [stage_of_result? hended] at hrows
      obtain ⟨changed', hcommits, hrows'⟩ | ⟨-, hno⟩ := hrows
      · cases hcommits
        exact hrows'
      · exact absurd .adjusted (hno changed)
    · intro hprogress
      refine hsame fun changed' hcommits => hprogress ?_
      have hdone : t'.result? = some (.ok (.adjusted a.after)) := by
        generalize hs' : t'.stage = st' at hcommits
        cases hcommits
        rw [result?, hs']
      rw [hdone, onceEnded] at hended
      split at hended
      · cases hended
      · next r hr =>
        rw [hr]
        cases r with
        | ok => rfl
        | error failure => cases hended
  | queued =>
    rw [hs] at hsame
    rw [hsame fun _ h => by cases h]
    exact .goesOn rfl rfl
  | done =>
    rw [hs] at hsame
    rw [hsame fun _ h => by cases h]
    exact .goesOn rfl rfl
  | visiting | closing =>
    rw [hcall, hs] at hfits
    cases hfits
  | queuedToHold | holding =>
    rw [hcall, hs] at hfits
    obtain ⟨huse, key, hkey⟩ := hfits
    obtain ⟨_, _, hholds⟩ := Call.exists_holdLock huse hkey
    cases hholds

end Task

/-! ### Runs -/

theorem Order.HasTexts.call {o : Order} (h : o.HasTexts) : (Call.execute o).HasTexts := by
  intro channel user use huse
  exact h channel user use (Call.use?_execute_eq_some_iff.1 huse)

/-- The tasks that have ended, in this order, and what they ended in. -/
def endings (es : List Event) : List (Nat × Except Error Reply) :=
  es.filterMap fun
    | .ended id r => some (id, r)
    | .reached _ => none

@[simp] theorem endings_append (es es' : List Event) :
    endings (es ++ es') = endings es ++ endings es' :=
  List.filterMap_append ..

theorem endings_between (id : Nat) (st : Stage) (t : Task) :
    endings (Event.between id st t.stage) = (t.result?.map (Prod.mk id)).toList := by
  unfold Task.result?
  cases t.stage with
  | done r => cases st <;> rfl
  | queued | queuedToHold | ready | visiting | closing | loading | saving | holding =>
    cases st <;> rfl

/-- The orders that have ended without being turned away by the store, in this order, and what they
have ended in. -/
def carriedOut (orders : List Order) (es : List Event) : List (Order × Except Error Reply) :=
  ((endings es).filter fun e => !isTurnedAway e.2).filterMap fun e =>
    orders[e.1]?.map fun o => (o, e.2)

@[simp] theorem carriedOut_append (orders : List Order) (es es' : List Event) :
    carriedOut orders (es ++ es') = carriedOut orders es ++ carriedOut orders es' := by
  rw [carriedOut, endings_append, List.filter_append, List.filterMap_append]
  rfl

theorem mem_carriedOut {orders : List Order} {es : List Event} {o : Order}
    {r : Except Error Reply} : (o, r) ∈ carriedOut orders es ↔
      ∃ id, orders[id]? = some o ∧ (id, r) ∈ endings es ∧ isTurnedAway r = false := by
  rw [carriedOut, List.mem_filterMap]
  constructor
  · rintro ⟨⟨id, r'⟩, hmem, ho⟩
    obtain ⟨hended, hcarriedOut⟩ := List.mem_filter.1 hmem
    obtain ⟨o', ho', heq⟩ := Option.map_eq_some_iff.1 ho
    cases heq
    exact ⟨id, ho', hended, by simpa using hcarriedOut⟩
  · rintro ⟨id, ho, hended, hcarriedOut⟩
    refine ⟨(id, r), List.mem_filter.2 ⟨hended, by simpa using hcarriedOut⟩, ?_⟩
    rw [ho, Option.map_some]

/-- What is true of a system that began with some rows and dice, after a history of orders. -/
structure Linear (orders : List Order) (before : List Row) (dice : Entropy) (es : List Event)
    (s : System) : Prop where
  /-- The results, the rows and the dice are those of the orders that have ended and were not turned
  away, carried out one after the other. -/
  replayed : oneByOne ((carriedOut orders es).map Prod.fst) before dice =
    ((carriedOut orders es).map Prod.snd, s.rows, s.world.entropy)
  results : ∀ id r, (id, r) ∈ endings es ↔ s.result? id = some r
  once : ((endings es).map Prod.fst).Nodup
  seen : ∀ (id : Nat) (t : Task), s.tasks[id]? = some t → Seen s.rows t.stage

theorem mem_ended {id : Nat} {result : Option (Except Error Reply)}
    {e : Nat × Except Error Reply} :
    e ∈ (result.map (Prod.mk id)).toList ↔ e.1 = id ∧ result = some e.2 := by
  obtain ⟨other, r⟩ := e
  rw [Option.mem_toList, Option.map_eq_some_iff]
  constructor
  · rintro ⟨r', hr', heq⟩
    cases heq
    exact ⟨rfl, hr'⟩
  · rintro ⟨rfl, hr'⟩
    exact ⟨r, hr', rfl⟩

theorem carriedOut_eq {orders : List Order} {es : List Event} {id : Nat} {o : Order}
    {result : Option (Except Error Reply)} (ho : orders[id]? = some o)
    (h : endings es = (result.map (Prod.mk id)).toList) :
    carriedOut orders es =
      (result.toList.filter fun r => !isTurnedAway r).map (Prod.mk o) := by
  rw [carriedOut, h]
  cases result with
  | none => rfl
  | some r => cases haway : isTurnedAway r <;> simp [haway, ho]

namespace Linear

variable {orders : List Order} {before : List Row} {dice : Entropy} {es : List Event}
  {s s' : System} {id : Nat} {choice : Choice}

theorem start {w : World} (orders : List Order) :
    Linear orders w.store.rows w.entropy [] (System.start w (orders.map .execute)) := by
  refine ⟨rfl, ?_, List.nodup_nil, ?_⟩
  · intro id r
    refine ⟨(fun hm => nomatch hm), ?_⟩
    intro hr
    obtain ⟨t, ht, hdone⟩ := System.result?_eq_some_iff.1 hr
    rw [(System.stage_of_start ht).2] at hdone
    cases hdone
  · intro id t ht
    rw [(System.stage_of_start ht).2]
    exact trivial

/-- Every step of an order in a run does nothing, or all that the order does. -/
theorem acts (h : Linear orders before dice es s) (hsound : s.Sound) (hone : s.OneDatabase)
    (htexts : ∀ o ∈ orders, o.HasTexts) (hcalls : s.calls = orders.map .execute)
    (hstep : s.step id choice = some s') {o : Order} (ho : orders[id]? = some o) :
    Acts o s.rows s'.rows s.world.entropy s'.world.entropy (s'.result? id) := by
  obtain ⟨t, t', ht, hr, ht', -⟩ := System.exists_task_step hstep
  obtain ⟨u, u', hu, hset, -, hmove⟩ := System.moves_of_step hstep
  obtain ⟨hu', -⟩ := System.tasks_of_set hu hset
  cases ht.symm.trans hu
  cases ht'.symm.trans hu'
  obtain ⟨o', ho', hexecute⟩ := System.exists_call_eq hcalls ht
  cases ho.symm.trans ho'
  rw [System.result?, ht', Option.bind_some]
  exact Task.acts_of_step hr hexecute (htexts o (List.mem_of_getElem? ho)) (hsound.fits id t ht)
    (h.seen id t ht) (System.rows_of_move hsound hone ht hset hmove)

/-- **A step of any order preserves the invariant.** -/
theorem step (h : Linear orders before dice es s) (hsound : s.Sound) (hone : s.OneDatabase)
    (htexts : ∀ o ∈ orders, o.HasTexts) (hcalls : s.calls = orders.map .execute)
    (hstep : s.step id choice = some s') :
    Linear orders before dice (es ++ s.events s' id) s' := by
  obtain ⟨t, t', ht, -, ht', hevents⟩ := System.exists_task_step hstep
  obtain ⟨u, u', hu, hset, -, hmove⟩ := System.moves_of_step hstep
  obtain ⟨hu', hothers⟩ := System.tasks_of_set hu hset
  cases ht.symm.trans hu
  cases ht'.symm.trans hu'
  obtain ⟨o, ho, -⟩ := System.exists_call_eq hcalls ht
  have hacts := h.acts hsound hone htexts hcalls hstep ho
  rw [System.result?, ht', Option.bind_some] at hacts
  have hrows := System.rows_of_move hsound hone ht hset hmove
  have hunended : s.result? id = none := by
    rw [System.result?, ht, Option.bind_some, Task.result?]
    split
    · next r hdone =>
      rw [hdone] at hmove
      exact absurd hmove fun h => h.not_done
    · rfl
  have hended := endings_between id t.stage t'
  have hresult : ∀ other r, s'.result? other = some r ↔
      s.result? other = some r ∨ other = id ∧ t'.result? = some r := by
    intro other r
    by_cases hother : other = id
    · subst hother
      rw [hunended, System.result?, ht', Option.bind_some]
      simp
    · rw [System.result?, System.result?, hothers other hother]
      simp [hother]
  rw [hevents]
  refine ⟨?_, ?_, ?_, ?_⟩
  · rw [carriedOut_append, carriedOut_eq ho hended]
    generalize t'.result? = result at hacts
    cases hacts with
    | goesOn sameRows sameDice =>
      rw [sameRows, sameDice]
      simpa using h.replayed
    | turnedAway away sameRows sameDice =>
      rw [sameRows, sameDice]
      simpa [away] using h.replayed
    | @atOnce r effect =>
      cases haway : isTurnedAway r with
      | false => simpa [haway] using oneByOne_concat h.replayed effect
      | true =>
        obtain ⟨hsameRows, hsameDice⟩ := atOnce_of_isTurnedAway effect haway
        rw [hsameRows, hsameDice]
        simpa [haway] using h.replayed
  · intro other r
    rw [endings_append, List.mem_append, h.results, hended, hresult, mem_ended]
  · rw [endings_append, List.map_append, hended, List.nodup_append]
    refine ⟨h.once, ?_, ?_⟩
    · cases t'.result? <;> simp
    · intro other hm other' hm' heq
      obtain ⟨⟨who, r⟩, hold, rfl⟩ := List.mem_map.1 hm
      obtain ⟨e, hnew, rfl⟩ := List.mem_map.1 hm'
      have hdone := (h.results who r).1 hold
      rw [show who = id from heq.trans (mem_ended.1 hnew).1, hunended] at hdone
      cases hdone
  · intro other v hv
    by_cases hother : other = id
    · subst hother
      cases ht'.symm.trans hv
      exact Task.seen_of_moves hmove (h.seen other t ht) (System.answers hsound hone ht)
        (Task.rows_eq_of_not_commits hrows)
    · rw [hothers other hother] at hv
      refine System.seen_of_step hsound ?_ h.seen ht hrows hv hother
      intro id t ht
      obtain ⟨o, ho, hexecute⟩ := System.exists_call_eq hcalls ht
      rw [hexecute]
      exact (htexts o (List.mem_of_getElem? ho)).call

end Linear

/-- No order closes the pool. -/
theorem ne_closePool_of_orders {orders : List Order} (call : Call)
    (h : call ∈ orders.map .execute) : call ≠ .closePool := by
  obtain ⟨o, -, rfl⟩ := List.mem_map.1 h
  exact fun h => nomatch h

/-- Orders make no transactions of their own. -/
theorem not_isTransaction_of_orders {orders : List Order} (e : Errand)
    (h : Call.borrow e ∈ orders.map .execute) : ¬ (Purpose.borrow e).IsTransaction := by
  obtain ⟨o, -, heq⟩ := List.mem_map.1 h
  cases heq

/-- Orders can begin in every world in which nothing is going on. -/
theorem System.sound_start_orders {w : World} (hrest : w.AtRest) (orders : List Order) :
    (System.start w (orders.map .execute)).Sound :=
  System.sound_start hrest ne_closePool_of_orders

theorem System.oneDatabase_start_orders {w : World} (hone : w.store.OneDatabase)
    (orders : List Order) : (System.start w (orders.map .execute)).OneDatabase :=
  System.oneDatabase_start hone not_isTransaction_of_orders

/-- **Runs of orders are linear.**  Whatever the order of the steps, and whichever waits expire or
statements fail, the results, the rows and the dice of a run are those of the orders that have ended
and were not turned away by the store, carried out one after the other in the order in which they
ended. -/
theorem Run.linear_of_sound {w : World} {orders : List Order} {es : List Event} {s : System}
    (hsound : (System.start w (orders.map .execute)).Sound)
    (hdatabase : (System.start w (orders.map .execute)).OneDatabase)
    (htexts : ∀ o ∈ orders, o.HasTexts)
    (hrun : Run (System.start w (orders.map .execute)) es s) :
    Linear orders w.store.rows w.entropy es s := by
  induction hrun with
  | start => exact .start orders
  | step run step ih =>
    refine ih.step (run.sound hsound) (run.oneDatabase hsound hdatabase) htexts ?_ step
    rw [run.calls, System.calls_start]
  | forget _ ih => exact ⟨ih.replayed, ih.results, ih.once, ih.seen⟩

/-- Runs of orders are linear in every world in which nothing is going on. -/
theorem Run.linear {w : World} {orders : List Order} {es : List Event} {s : System}
    (hrest : w.AtRest) (hone : w.store.OneDatabase) (htexts : ∀ o ∈ orders, o.HasTexts)
    (hrun : Run (System.start w (orders.map .execute)) es s) :
    Linear orders w.store.rows w.entropy es s :=
  hrun.linear_of_sound (System.sound_start_orders hrest orders)
    (System.oneDatabase_start_orders hone orders) htexts

/-! ### Runs in which all orders have ended -/

/-- What belongs to the tasks, in the order in which they have ended. -/
def inOrder {α : Type} (xs : List α) (es : List Event) : List α :=
  (endings es).filterMap fun e => xs[e.1]?

/-- What belongs to what, one by one, does so in this order. -/
theorem forall₂_inOrder {α β : Type} {R : α → β → Prop} {xs : List α} {ys : List β}
    (h : List.Forall₂ R xs ys) (es : List Event) :
    List.Forall₂ R (inOrder xs es) (inOrder ys es) := by
  unfold inOrder
  induction endings es with
  | nil => exact .nil
  | cons e rest ih =>
    rw [List.filterMap_cons, List.filterMap_cons]
    by_cases hid : e.1 < xs.length
    · have hid' : e.1 < ys.length := h.length_eq ▸ hid
      rw [List.getElem?_eq_getElem hid, List.getElem?_eq_getElem hid']
      exact .cons (h.get hid hid') ih
    · have hid' : ¬ e.1 < ys.length := h.length_eq ▸ hid
      rw [List.getElem?_eq_none (Nat.not_lt.1 hid), List.getElem?_eq_none (Nat.not_lt.1 hid')]
      exact ih

theorem filterMap_getElem?_range {α : Type} (xs : List α) :
    (List.range xs.length).filterMap (fun n => xs[n]?) = xs := by
  induction xs with
  | nil => rfl
  | cons x xs ih =>
    have hfirst : (x :: xs)[0]? = some x := rfl
    rw [List.length_cons, List.range_succ_eq_map, List.filterMap_cons_some hfirst,
      List.filterMap_map]
    exact congrArg (x :: ·) ih

/-- If nobody was turned away, the orders have been carried out in the order in which they ended. -/
theorem carriedOut_of_answered {orders : List Order} {es : List Event}
    (h : ∀ e ∈ endings es, e.1 < orders.length ∧ isTurnedAway e.2 = false) :
    (carriedOut orders es).map Prod.fst = inOrder orders es ∧
      (carriedOut orders es).map Prod.snd = (endings es).map Prod.snd := by
  unfold carriedOut inOrder
  generalize endings es = ended at h
  induction ended with
  | nil => exact ⟨rfl, rfl⟩
  | cons e rest ih =>
    obtain ⟨⟨hid, hanswered⟩, hrest⟩ := List.forall_mem_cons.1 h
    obtain ⟨horders, hresults⟩ := ih hrest
    have ho := List.getElem?_eq_getElem hid
    simp only [List.filter_cons, hanswered, Bool.not_false, if_true, List.filterMap_cons, ho,
      Option.map_some, List.map_cons, horders, hresults, and_self]

namespace Linear

variable {orders : List Order} {before : List Row} {dice : Entropy} {es : List Event} {s : System}

/-- Once all tasks have ended, the history has each of them once. -/
theorem perm_endings (h : Linear orders before dice es s)
    (hall : ∀ id, id < s.tasks.length → ∃ r, s.result? id = some r) :
    ((endings es).map Prod.fst).Perm (List.range s.tasks.length) := by
  refine (List.perm_ext_iff_of_nodup h.once List.nodup_range).2 fun id => ?_
  rw [List.mem_range, List.mem_map]
  constructor
  · rintro ⟨⟨id, r⟩, hended, rfl⟩
    obtain ⟨t, ht, -⟩ := System.result?_eq_some_iff.1 ((h.results id r).1 hended)
    exact (List.getElem?_eq_some_iff.1 ht).1
  · intro hid
    obtain ⟨r, hr⟩ := hall id hid
    exact ⟨(id, r), (h.results id r).2 hr, rfl⟩

/-- Whatever belongs to the tasks is only in another order. -/
theorem perm_inOrder (h : Linear orders before dice es s)
    (hall : ∀ id, id < s.tasks.length → ∃ r, s.result? id = some r) {α : Type} {xs : List α}
    (hlength : xs.length = s.tasks.length) : (inOrder xs es).Perm xs := by
  have hperm := (h.perm_endings hall).filterMap fun id => xs[id]?
  rw [List.filterMap_map, ← hlength, filterMap_getElem?_range] at hperm
  exact hperm

/-- **If all orders have been answered**, they have come to what they come to one after the other in
the order in which they ended. -/
theorem oneByOne_inOrder (h : Linear orders before dice es s)
    (hlength : s.tasks.length = orders.length)
    (hanswered : ∀ id r, s.result? id = some r → isTurnedAway r = false) :
    oneByOne (inOrder orders es) before dice =
      ((endings es).map Prod.snd, s.rows, s.world.entropy) := by
  have hids : ∀ e ∈ endings es, e.1 < orders.length ∧ isTurnedAway e.2 = false := by
    intro e he
    have hr := (h.results e.1 e.2).1 he
    obtain ⟨t, ht, -⟩ := System.result?_eq_some_iff.1 hr
    exact ⟨hlength ▸ (List.getElem?_eq_some_iff.1 ht).1, hanswered e.1 e.2 hr⟩
  obtain ⟨horders, hresults⟩ := carriedOut_of_answered hids
  rw [← horders, ← hresults]
  exact h.replayed

/-- The history of the only task, once it has ended. -/
theorem endings_eq (h : Linear orders before dice es s) (hone : s.tasks.length = 1)
    {r : Except Error Reply} (hr : s.result? 0 = some r) : endings es = [(0, r)] := by
  have hids : (endings es).map Prod.fst = [0] := by
    have hperm := h.perm_endings fun id hid => by
      obtain rfl : id = 0 := by omega
      exact ⟨r, hr⟩
    rw [hone] at hperm
    exact List.perm_singleton.1 hperm
  obtain ⟨⟨id, r'⟩, hsingle, rfl⟩ := List.map_eq_singleton_iff.1 hids
  have hmem := (h.results 0 r).2 hr
  rw [hsingle, List.mem_singleton] at hmem
  rw [hsingle, hmem]

end Linear

end CharacterLedger.Ledger
