import CharacterLedger.Proofs.Ledger.Linearization
import CharacterLedger.Proofs.Ledger.Sessions

/-!
# Calls that have the world to themselves

A call is made in a world in which nothing is going on, and when it has come back nothing is going on
again.  It may come back by any steps: waits may expire and statements fail on the way.  Still an
order comes to what it comes to at once, unless the store turns it away.  Where the store serves,
some steps bring every order to its end.

* `World.Calm`, `System.calm_of_done` — worlds in which nothing is going on, before and after a run;
* `Returns`, `ReturnInTurn` — calls that come back, alone and one after the other;
* `Returns.execute`, `ReturnInTurn.oneByOne` — what orders come back with;
* `World.Serving`, `World.Serving.executeInTurn` — stores that last on a file or in memory, where
  every order comes back.
-/

namespace CharacterLedger.Ledger

open CharacterLedger.Storage CharacterLedger.Table CharacterLedger.Dice

/-! ### Calm worlds -/

/-- A world in which nothing is going on, and whose open connections lead to one database. -/
structure World.Calm (w : World) : Prop where
  store : Orderly w.store fun _ => none
  place : Place w.store fun _ => none
  locks : w.locks.Idle

theorem World.AtRest.calm {w : World} (h : w.AtRest) (hone : w.store.OneDatabase) : w.Calm :=
  ⟨h.store.orderly, hone.place, h.sound, h.idle⟩

namespace World.Calm

variable {w : World}

/-- Calls can begin in a calm world. -/
theorem sound (h : w.Calm) {calls : List Call} (hopen : ∀ call, call ∈ calls → call ≠ .closePool) :
    (System.start w calls).Sound :=
  System.sound_start_of_orderly h.store h.locks.sound h.locks.line hopen

/-- Runs of orders that begin in a calm world are linear. -/
theorem linear (h : w.Calm) {orders : List Order} (htexts : ∀ o ∈ orders, o.HasTexts)
    {es : List Event} {s : System} (hrun : Run (System.start w (orders.map .execute)) es s) :
    Linear orders w.store.rows w.entropy es s :=
  hrun.linear_of_sound (h.sound ne_closePool_of_orders)
    (System.oneDatabase_start_of_place h.place not_isTransaction_of_orders) htexts

end World.Calm

/-- **A world is calm once all tasks are done.** -/
theorem System.calm_of_done {s : System} (hsound : s.Sound) (hplace : Place s.world.store s.visits)
    (hdone : ∀ (id : Nat) (t : Task), s.tasks[id]? = some t → ∃ r, t.stage = .done r) :
    s.world.Calm := by
  have hvisits : s.visits = fun _ => none := by
    refine visits_eq_none fun id t ht => ?_
    obtain ⟨r, hr⟩ := hdone id t ht
    rw [hr]
    rfl
  have hstanding : s.standing = fun _ => none := by
    refine standing_eq_none fun id t ht => ?_
    obtain ⟨r, hr⟩ := hdone id t ht
    rw [hr]
    rfl
  have hlines := hsound.locks
  rw [hstanding] at hlines
  refine ⟨hvisits ▸ hsound.store, hvisits ▸ hplace, hlines.sound, ?_⟩
  intro lock
  rw [List.eq_nil_iff_forall_not_mem]
  intro id hid
  obtain ⟨_, hst, -⟩ := (hlines.line id lock).1 hid
  cases hst

/-! ### Calls that come back -/

/-- The call, which has the world to itself, can come back with the result and leave the other world:
by some steps, among them waits that expire and statements that fail. -/
def Returns (w : World) (call : Call) (r : Except Error Reply) (w' : World) : Prop :=
  ∃ es s, Run (System.start w [call]) es s ∧ s.result? 0 = some r ∧ s.world = w'

/-- The orders come back with the results, each of them before the next one is begun. -/
inductive ReturnInTurn : World → List Order → List (Except Error Reply) → World → Prop
  | nil {w : World} : ReturnInTurn w [] [] w
  | cons {w w' w'' : World} {o : Order} {orders : List Order} {r : Except Error Reply}
      {results : List (Except Error Reply)} (first : Returns w (.execute o) r w')
      (rest : ReturnInTurn w' orders results w'') :
      ReturnInTurn w (o :: orders) (r :: results) w''

/-- The steps of the only task are a run. -/
theorem Run.of_goes {n : Nat} {w w' : World} {t t' : Task} (h : Task.Goes n w t w' t') :
    ∃ es, Run ⟨w, [t]⟩ es ⟨w', [t']⟩ := by
  have hstep : ∀ {w w' : World} {t t' : Task} (choice : Choice),
      t.step 0 choice w = some (w', t') → ∃ es, Run ⟨w, [t]⟩ es ⟨w'.forgetLocks, [t']⟩ := by
    intro w w' t t' choice hstep
    have hsystem : (⟨w, [t]⟩ : System).step 0 choice = some ⟨w', [t']⟩ := by
      simp [System.step, hstep]
    exact ⟨_, (Run.start.step hsystem).forget⟩
  induction h with
  | stay => exact ⟨[], .start⟩
  | go step _ ih =>
    obtain ⟨es, hfirst⟩ := hstep .go step
    obtain ⟨es', hrest⟩ := ih
    exact ⟨es ++ es', hfirst.trans hrest⟩
  | wait _ step _ ih =>
    obtain ⟨es, hfirst⟩ := hstep .expire step
    obtain ⟨es', hrest⟩ := ih
    exact ⟨es ++ es', hfirst.trans hrest⟩

theorem Returns.of_goes {n : Nat} {w w' : World} {call : Call} {t : Task} {r : Except Error Reply}
    (h : Task.Goes n w (.new call) w' t) (hdone : t.stage = .done r) : Returns w call r w' := by
  obtain ⟨es, hrun⟩ := Run.of_goes h
  exact ⟨es, _, hrun, System.result?_eq_some_iff.2 ⟨t, rfl, hdone⟩, rfl⟩

/-! ### What orders come back with -/

namespace Returns

variable {w w' : World} {r : Except Error Reply} {o : Order}

/-- **An order that has the world to itself comes to what it comes to at once**, or the store turns
it away and it changes nothing. -/
theorem execute (h : Returns w (.execute o) r w') (hcalm : w.Calm) (ho : o.HasTexts) :
    w'.Calm ∧
      (isTurnedAway r = true ∧ w'.store.rows = w.store.rows ∧ w'.entropy = w.entropy ∨
        isTurnedAway r = false ∧
          o.atOnce w.store.rows w.entropy = (r, w'.store.rows, w'.entropy)) := by
  obtain ⟨es, s, hrun, hresult, rfl⟩ := h
  have hrun' : Run (System.start w ([o].map .execute)) es s := hrun
  have htexts : ∀ j ∈ [o], j.HasTexts := by
    intro j hj
    rw [List.mem_singleton.1 hj]
    exact ho
  have hlinear := hcalm.linear htexts hrun'
  have hlength : s.tasks.length = 1 := hrun.length_tasks
  have hended : endings es = ((some r).map (Prod.mk 0)).toList :=
    hlinear.endings_eq hlength hresult
  have hstart : (System.start w [.execute o]).Sound := hcalm.sound (by simp)
  have hdatabase : (System.start w [.execute o]).OneDatabase :=
    System.oneDatabase_start_of_place hcalm.place (by simp)
  refine ⟨System.calm_of_done (hrun.sound hstart) (hrun.oneDatabase hstart hdatabase).place ?_, ?_⟩
  · intro id t ht
    have hid := (List.getElem?_eq_some_iff.1 ht).1
    obtain rfl : id = 0 := by omega
    obtain ⟨u, hu, hdone⟩ := System.result?_eq_some_iff.1 hresult
    obtain rfl : t = u := Option.some.inj (ht.symm.trans hu)
    exact ⟨r, hdone⟩
  · have hreplayed := hlinear.replayed
    have hcarried := carriedOut_eq (show [o][0]? = some o from rfl) hended
    rw [hcarried] at hreplayed
    cases haway : isTurnedAway r with
    | true =>
      obtain ⟨hrows, hdice⟩ : w.store.rows = s.rows ∧ w.entropy = s.world.entropy := by
        simpa [haway, oneByOne] using hreplayed
      exact .inl ⟨rfl, hrows.symm, hdice.symm⟩
    | false =>
      rcases hmade : o.atOnce w.store.rows w.entropy with ⟨r', rows', dice'⟩
      obtain ⟨rfl, rfl, rfl⟩ : r' = r ∧ rows' = s.rows ∧ dice' = s.world.entropy := by
        simpa [haway, oneByOne, hmade] using hreplayed
      exact .inr ⟨rfl, rfl⟩

end Returns

/-- **Orders that come back one after the other** come to what they come to at once, if none of them
is turned away by the store. -/
theorem ReturnInTurn.oneByOne {w w' : World} {orders : List Order}
    {results : List (Except Error Reply)} (h : ReturnInTurn w orders results w') (hcalm : w.Calm)
    (htexts : ∀ o ∈ orders, o.HasTexts) (hanswered : ∀ r ∈ results, isTurnedAway r = false) :
    w'.Calm ∧ Ledger.oneByOne orders w.store.rows w.entropy =
      (results, w'.store.rows, w'.entropy) := by
  induction h with
  | nil => exact ⟨hcalm, rfl⟩
  | cons first rest ih =>
    obtain ⟨hfirst, hothers⟩ := List.forall_mem_cons.1 htexts
    obtain ⟨hanswer, hanswers⟩ := List.forall_mem_cons.1 hanswered
    obtain ⟨hcalm', ⟨haway, -⟩ | ⟨-, hatOnce⟩⟩ := first.execute hcalm hfirst
    · rw [hanswer] at haway
      cases haway
    · obtain ⟨hcalm'', hrest⟩ := ih hcalm' hothers hanswers
      refine ⟨hcalm'', ?_⟩
      simp only [Ledger.oneByOne, hatOnce, hrest]

/-! ### Stores that serve -/

/-- A quiet world whose pool has places on a file that lasts and refuses nothing, or is in memory. -/
def World.Serving (w : World) : Prop :=
  (∃ path, 1 ≤ w.store.pool.size ∧ w.Quiet (LastsIn path [])) ∨ w.Quiet Store.OneInMemory

/-- A store without triggers takes every record. -/
@[simp] theorem Terms.refusing_nil : Terms.refusing [] = .full := by
  rfl

/-- **An order in a quiet world comes back** on the terms of the store. -/
theorem Returns.of_hold {terms : Terms} {S : Store → Prop} {bound : Nat} {w : World}
    (hold : terms.Hold S bound) (h : w.Quiet S) {o : Order} (ho : o.HasTexts) :
    ∃ w', Returns w (.execute o) (o.under terms w.store.rows w.entropy).1 w' ∧ w'.Quiet S ∧
      w'.store.rows = (o.under terms w.store.rows w.entropy).2.1 ∧
      w'.entropy = (o.under terms w.store.rows w.entropy).2.2 := by
  obtain ⟨n, w', t', -, hgoes, hends⟩ := Task.goes_execute hold h ho
  exact ⟨w', .of_goes hgoes hends.stage, hends.quiet, hends.rows, hends.dice⟩

namespace World.Serving

variable {w : World}

/-- **Every order comes back** with what it comes to at once, and the store serves on. -/
theorem execute (h : w.Serving) {o : Order} (ho : o.HasTexts) :
    ∃ w', Returns w (.execute o) (o.atOnce w.store.rows w.entropy).1 w' ∧ w'.Serving ∧
      w'.store.rows = (o.atOnce w.store.rows w.entropy).2.1 ∧
      w'.entropy = (o.atOnce w.store.rows w.entropy).2.2 := by
  rw [← o.under_full]
  obtain ⟨path, hplaces, hquiet⟩ | hquiet := h
  · obtain ⟨w', hreturns, hquiet', hrows, hdice⟩ := Returns.of_hold
      (Terms.refusing_nil ▸ hold_refusing path [] hplaces) ⟨⟨hquiet.store, rfl⟩, hquiet.locks⟩ ho
    have hplaces' : 1 ≤ w'.store.pool.size := by
      rw [hquiet'.store.2]
      exact hplaces
    exact ⟨w', hreturns, .inl ⟨path, hplaces', hquiet'.store.1, hquiet'.locks⟩, hrows, hdice⟩
  · obtain ⟨w', hreturns, hquiet', hrows, hdice⟩ := Returns.of_hold hold_oneInMemory hquiet ho
    exact ⟨w', hreturns, .inr hquiet', hrows, hdice⟩

/-- **Orders come back one after the other** with what they come to at once. -/
theorem executeInTurn (h : w.Serving) {orders : List Order}
    (htexts : ∀ o ∈ orders, o.HasTexts) :
    ∃ w', ReturnInTurn w orders (oneByOne orders w.store.rows w.entropy).1 w' ∧ w'.Serving := by
  induction orders generalizing w with
  | nil => exact ⟨w, .nil, h⟩
  | cons o orders ih =>
    obtain ⟨hfirst, hothers⟩ := List.forall_mem_cons.1 htexts
    obtain ⟨w₁, hreturns, hserving, hrows, hdice⟩ := h.execute hfirst
    obtain ⟨w₂, hrest, hserving'⟩ := ih hserving hothers
    rw [hrows, hdice] at hrest
    exact ⟨w₂, .cons hreturns hrest, hserving'⟩

end World.Serving

/-- A file whose table has any rows can be opened at its path. -/
theorem admits_withRows (rows : List Row) (size : Int) (dice : Dice.Entropy) :
    let disk := (World.withRows rows size dice).store.disk
    Admits "characters.db" disk disk disk (.ofPath "characters.db") ["characters.db"] 0 := by
  intro disk
  have hroute : (Route.ofText "characters.db").parent = ⟨[], []⟩ := by decide +kernel
  exact .ofPlain (by rw [hroute]; rfl) (by decide +kernel) (by decide +kernel) (by decide +kernel)
    (Disk.openFile_eq_self_iff.2 ⟨rfl, rfl⟩) Nat.zero_lt_one rfl rfl (by decide +kernel)

/-- **There is a world that serves** for every table, and it is calm. -/
theorem World.serving_withRows (rows : List Row) {size : Int} (hplaces : 1 ≤ size)
    (dice : Dice.Entropy) :
    (World.withRows rows size dice).Calm ∧ (World.withRows rows size dice).Serving := by
  have hadmits := admits_withRows rows size dice
  have htable : (databaseAt (World.withRows rows size dice).store.disk
      "characters.db").setUp.table = some ⟨rows, []⟩ := by
    rw [← hadmits.content]
    rfl
  refine ⟨?_, .inl ⟨"characters.db", hplaces, (quiet_world hadmits htable size dice).1⟩⟩
  exact (World.atRest_world ..).calm (World.oneDatabase_withRows rows size dice)

end CharacterLedger.Ledger
