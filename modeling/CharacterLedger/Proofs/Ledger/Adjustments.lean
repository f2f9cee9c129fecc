import CharacterLedger.Proofs.Character.Clamping
import CharacterLedger.Proofs.Ledger.Returns

/-!
# One rating adjusted many times

A rating that is adjusted by numbers of one direction comes to the rating nearest to the whole sum.
It does not matter whether the adjustments are made one after the other, in whatever order, or all at
once with their steps in any order, as long as none of them fails.  What they come back with, in the
order in which they take effect, goes one way and ends with the rating that is stored.  Adjustments
by any numbers keep ratings in order and as close as they were, and forget what was before a number
as large as the whole range.

* `Adjusting`, `oneByOne_adjusting` — adjustments carried out at once, one after the other;
* `Coalesces`, `ReturnInTurn.coalesces`, `Run.coalesces` — what adjustments of one direction come to;
* `LeadsTo` — the ratings before and after a series of adjustments;
* `adjustments_coalesce` — the laws of adjusting one rating many times.
-/

namespace CharacterLedger.Ledger

open CharacterLedger.Storage CharacterLedger.Table CharacterLedger.Dice

/-! ### Adjustments carried out at once -/

/-- Orders to adjust one rating, one by each of the numbers. -/
def Adjusting (x y : String) (name : Value) (deltas : List Int) (orders : List Order) : Prop :=
  List.Forall₂ (fun delta o => o.intent = .adjust (.text x) (.text y) name (.int delta)) deltas
    orders

/-- Such orders, all of them to be carried out in one manner. -/
def adjustments (manner : Intent → Order) (x y : String) (name : Value) (deltas : List Int) :
    List Order :=
  deltas.map fun delta => manner (.adjust (.text x) (.text y) name (.int delta))

theorem adjusting_adjustments {manner : Intent → Order} (h : ∀ i, (manner i).intent = i)
    (x y : String) (name : Value) (deltas : List Int) :
    Adjusting x y name deltas (adjustments manner x y name deltas) := by
  induction deltas with
  | nil => exact .nil
  | cons delta deltas ih => exact .cons (h _) ih

/-- What an adjustment comes back with. -/
def adjustedTo (r : Rating) : Except Error Reply := .ok (.adjusted (.int r.toInt))

/-- The rows once the rating of a record has been adjusted.  Without any number nothing is written. -/
def rowsAdjusted (rows : List Row) (c : Character) (a : Action) : List Int → List Row
  | [] => rows
  | delta :: deltas => CharacterTable.replaceRow
      (Row.ofCharacter (c.rated a ((c.rating a).adjusted (delta :: deltas)))) rows

/-- None of the results is an error. -/
def AllSucceed (results : List (Except Error Reply)) : Prop := ∀ r ∈ results, ∃ reply, r = .ok reply

theorem AllSucceed.isTurnedAway_eq {results : List (Except Error Reply)} (h : AllSucceed results) :
    ∀ r ∈ results, isTurnedAway r = false := by
  intro r hr
  obtain ⟨reply, rfl⟩ := h r hr
  rfl

/-- Orders that all succeed can be written. -/
theorem isWritable_of_allSucceed {orders : List Order} {results : List (Except Error Reply)}
    {rows rows' : List Row} {dice dice' : Entropy}
    (h : oneByOne orders rows dice = (results, rows', dice')) (hsucceed : AllSucceed results) :
    ∀ o ∈ orders, o.isWritable = true := by
  induction orders generalizing rows dice results with
  | nil => exact fun _ ho => nomatch ho
  | cons o orders ih =>
    simp only [oneByOne] at h
    rcases hfirst : o.atOnce rows dice with ⟨r₁, rows₁, dice₁⟩
    rcases hrest : oneByOne orders rows₁ dice₁ with ⟨results₁, rows₂, dice₂⟩
    simp only [hfirst, hrest] at h
    cases h
    obtain ⟨⟨reply, rfl⟩, hsucceed'⟩ := List.forall_mem_cons.1 hsucceed
    exact List.forall_mem_cons.2 ⟨isWritable_of_ok hfirst, ih hrest hsucceed'⟩

variable {x y : String} {name : Value} {a : Action} {rows : List Row} {c : Character}
  {orders : List Order}

theorem Adjusting.hasTexts {deltas : List Int} (h : Adjusting x y name deltas orders) :
    ∀ o ∈ orders, o.HasTexts := by
  induction h with
  | nil => exact fun _ ho => nomatch ho
  | cons first _ ih => exact List.forall_mem_cons.2 ⟨Order.hasTexts_of_adjust first, ih⟩

/-- **An adjustment at once** puts the record with the adjusted rating in its place. -/
theorem atOnce_adjust {o : Order} {delta : Int}
    (hadjusts : o.intent = .adjust (.text x) (.text y) name (.int delta))
    (hwritable : o.isWritable = true) (hname : readAction name = .ok a)
    (hc : recordAt rows (.text x) (.text y) = .ok c) (dice : Entropy) :
    o.atOnce rows dice = (adjustedTo ((c.rating a).adjust delta), CharacterTable.replaceRow
        (Row.ofCharacter (c.rated a ((c.rating a).adjust delta))) rows, dice) := by
  simp only [Order.atOnce, Order.plan_of_writable hwritable, hadjusts, Intent.plan, hname, hc,
    Use.apply, Task.adjust_int]
  rfl

/-- **Adjustments one after the other** come back with the ratings on the way, and leave the record
with the last of them. -/
theorem oneByOne_adjusting {deltas : List Int} (h : Adjusting x y name deltas orders)
    (hwritable : ∀ o ∈ orders, o.isWritable = true) (hname : readAction name = .ok a)
    (hc : recordAt rows (.text x) (.text y) = .ok c) (dice : Entropy) :
    oneByOne orders rows dice =
      (((c.rating a).course deltas).map adjustedTo, rowsAdjusted rows c a deltas, dice) := by
  induction h generalizing rows c with
  | nil => rfl
  | @cons delta o deltas orders first _ ih =>
    obtain ⟨hwritable₁, hwritables⟩ := List.forall_mem_cons.1 hwritable
    have hkey := key_of_recordAt_text hc
    generalize hchanged : c.rated a ((c.rating a).adjust delta) = changed
    have hrating : changed.rating a = (c.rating a).adjust delta := by
      rw [← hchanged, Character.rating_rated_self]
    have hrecord : recordAt (CharacterTable.replaceRow (Row.ofCharacter changed) rows) (.text x)
        (.text y) = .ok changed := by
      rw [recordAt_replaceRow, if_pos (hchanged ▸ hkey)]
    have hrows : rowsAdjusted (CharacterTable.replaceRow (Row.ofCharacter changed) rows) changed a
        deltas = rowsAdjusted rows c a (delta :: deltas) := by
      cases deltas with
      | nil =>
        rw [← hchanged]
        rfl
      | cons next deltas =>
        rw [rowsAdjusted, rowsAdjusted, hrating, CharacterTable.replaceRow_replaceRow]
        · rw [← hchanged, Character.rated_rated]
          rfl
        · rw [← hchanged]
          exact (Row.hasKey_iff ..).2 ⟨rfl, rfl⟩
    have hrest := ih hwritables hrecord
    rw [hrating, hrows] at hrest
    have hfirst := atOnce_adjust first hwritable₁ hname hc dice
    rw [hchanged] at hfirst
    simp only [oneByOne, hfirst, hrest, Rating.course, List.map_cons]

/-- The records after adjustments: only the rating has changed. -/
theorem recordAt_rowsAdjusted (hc : recordAt rows (.text x) (.text y) = .ok c) (a : Action)
    (deltas : List Int) (x' y' : String) :
    recordAt (rowsAdjusted rows c a deltas) (.text x') (.text y') =
      if x = x' ∧ y = y' then .ok (c.rated a ((c.rating a).adjusted deltas))
      else recordAt rows (.text x') (.text y') := by
  obtain ⟨hx, hy⟩ := key_of_recordAt_text hc
  cases deltas with
  | nil =>
    have hsame : c.rated a ((c.rating a).adjusted []) = c := c.rated_rating a
    rw [hsame, rowsAdjusted]
    split
    · next hkey =>
      rw [← hkey.1, ← hkey.2]
      exact hc
    · rfl
  | cons delta deltas =>
    rw [rowsAdjusted, recordAt_replaceRow, ← hx, ← hy]
    rfl

/-! ### Adjustments of one direction -/

/-- What it has come to that the rating of a record was adjusted by numbers of one direction, which
took effect in some order. -/
structure Coalesces (w : World) (x y : String) (name : Value) (a : Action) (c : Character)
    (deltas order : List Int) (results : List (Except Error Reply)) (rows : List Row) : Prop where
  perm : order.Perm deltas
  /-- The rating is the one nearest to the whole sum, and the rest of the record is as it was. -/
  stored : recordAt rows (.text x) (.text y) =
    .ok (c.rated a (Rating.clamp ((c.rating a).toInt + deltas.sum)))
  others : ∀ x' y', ¬ (x = x' ∧ y = y') →
    recordAt rows (.text x') (.text y') = recordAt w.store.rows (.text x') (.text y')
  /-- One adjustment by the whole sum leaves the same records, and comes back with what the last of
  the adjustments came back with. -/
  atOnce : ∀ o reply w', o.intent = .adjust (.text x) (.text y) name (.int deltas.sum) →
    Returns w (.execute o) (.ok reply) w' →
      (∀ x' y', recordAt w'.store.rows (.text x') (.text y') =
        recordAt rows (.text x') (.text y')) ∧
      ∀ last, results.getLast? = some last → last = .ok reply
  /-- The ratings that came back are nearest to partial sums and go one way, and the last of them is
  the one that is stored. -/
  returned : ∃ ratings : List Rating, results = ratings.map adjustedTo ∧
    (∀ n, ratings[n]? = if n < deltas.length then
      some (Rating.clamp ((c.rating a).toInt + (order.take (n + 1)).sum)) else none) ∧
    (ratings.Pairwise (· ≤ ·) ∨ ratings.Pairwise (· ≥ ·)) ∧
    ∀ last, ratings.getLast? = some last →
      recordAt rows (.text x) (.text y) = .ok (c.rated a last)

/-- An adjustment that has come back with a reply. -/
theorem Returns.adjust {w w' : World} {o : Order} {reply : Reply} {delta : Int}
    (h : Returns w (.execute o) (.ok reply) w') (hcalm : w.Calm)
    (hadjusts : o.intent = .adjust (.text x) (.text y) name (.int delta))
    (hname : readAction name = .ok a) (hc : recordAt w.store.rows (.text x) (.text y) = .ok c) :
    .ok reply = adjustedTo ((c.rating a).adjust delta) ∧
      w'.store.rows = rowsAdjusted w.store.rows c a [delta] := by
  obtain ⟨-, ⟨haway, -⟩ | ⟨-, hatOnce⟩⟩ := h.execute hcalm (Order.hasTexts_of_adjust hadjusts)
  · cases haway
  · rw [atOnce_adjust hadjusts (isWritable_of_ok hatOnce) hname hc] at hatOnce
    obtain ⟨hreply, hrest⟩ := Prod.mk.inj hatOnce
    exact ⟨hreply.symm, (Prod.mk.inj hrest).1.symm⟩

/-- **Adjustments of one direction** that come to what they come to one after the other. -/
theorem coalesces_of_oneByOne {w : World} {deltas order : List Int}
    {results : List (Except Error Reply)} {dice dice' : Entropy} (hcalm : w.Calm)
    (hname : readAction name = .ok a) (hc : recordAt w.store.rows (.text x) (.text y) = .ok c)
    (honeWay : Rating.OneWay deltas) (hperm : order.Perm deltas)
    (hadjusting : Adjusting x y name order orders) (hsucceed : AllSucceed results)
    (h : oneByOne orders w.store.rows dice = (results, rows, dice')) :
    Coalesces w x y name a c deltas order results rows := by
  have horder : Rating.OneWay order := honeWay.of_perm hperm
  have hadjusted : (c.rating a).adjusted order =
      Rating.clamp ((c.rating a).toInt + deltas.sum) := by
    rw [Rating.adjusted_of_oneWay horder, hperm.sum_eq]
  rw [oneByOne_adjusting hadjusting (isWritable_of_allSucceed h hsucceed) hname hc] at h
  obtain ⟨rfl, rfl, -⟩ : ((c.rating a).course order).map adjustedTo = results ∧
      rowsAdjusted w.store.rows c a order = rows ∧ dice = dice' := by
    simpa using h
  have hrecords := recordAt_rowsAdjusted hc a order
  have hstored := hrecords x y
  rw [if_pos ⟨rfl, rfl⟩, hadjusted] at hstored
  have hlast : ∀ last, ((c.rating a).course order).getLast? = some last →
      last = Rating.clamp ((c.rating a).toInt + deltas.sum) := by
    intro last h
    by_cases hempty : order = []
    · rw [hempty] at h
      cases h
    · rw [Rating.getLast?_course _ hempty, hadjusted] at h
      exact (Option.some.inj h).symm
  refine ⟨hperm, hstored, ?_, ?_, _, rfl, ?_, Rating.pairwise_course horder, ?_⟩
  · intro x' y' hkey
    rw [hrecords, if_neg hkey]
  · intro o reply w' hadjusts hreturns
    obtain ⟨hreply, hrows⟩ := hreturns.adjust hcalm hadjusts hname hc
    refine ⟨?_, ?_⟩
    · intro x' y'
      rw [hrows, recordAt_rowsAdjusted hc, hrecords, hadjusted]
      rfl
    · intro last h
      rw [List.getLast?_map, Option.map_eq_some_iff] at h
      obtain ⟨r, hr, rfl⟩ := h
      rw [hreply, hlast r hr]
      rfl
  · intro n
    rw [Rating.getElem?_course_of_oneWay horder, hperm.length_eq]
  · intro last h
    rw [hstored, hlast last h]

/-- **Adjustments of one direction, one after the other** in any order, coalesce. -/
theorem ReturnInTurn.coalesces {w w' : World} {deltas order : List Int}
    {results : List (Except Error Reply)}
    (h : ReturnInTurn w orders results w') (hadjusting : Adjusting x y name order orders)
    (hcalm : w.Calm) (hname : readAction name = .ok a)
    (hc : recordAt w.store.rows (.text x) (.text y) = .ok c) (honeWay : Rating.OneWay deltas)
    (hperm : order.Perm deltas) (hsucceed : AllSucceed results) :
    Coalesces w x y name a c deltas order results w'.store.rows := by
  obtain ⟨-, hreplayed⟩ := h.oneByOne hcalm hadjusting.hasTexts hsucceed.isTurnedAway_eq
  exact coalesces_of_oneByOne hcalm hname hc honeWay hperm hadjusting hsucceed hreplayed

/-- **Adjustments of one direction, all at once** with their steps in any order, coalesce. -/
theorem Run.coalesces {w : World} {deltas : List Int} {es : List Event} {s : System}
    (hrun : Run (System.start w (orders.map .execute)) es s)
    (hadjusting : Adjusting x y name deltas orders) (hcalm : w.Calm)
    (hname : readAction name = .ok a)
    (hc : recordAt w.store.rows (.text x) (.text y) = .ok c) (honeWay : Rating.OneWay deltas)
    (hends : ∀ id, id < deltas.length → ∃ reply, s.result? id = some (.ok reply)) :
    (∀ id r, (id, r) ∈ endings es ↔ s.result? id = some r) ∧
      Coalesces w x y name a c deltas (inOrder deltas es) ((endings es).map Prod.snd) s.rows := by
  have hlinear := hcalm.linear hadjusting.hasTexts hrun
  have horders : s.tasks.length = orders.length :=
    hrun.length_tasks.trans (by simp [System.start])
  have hlength : s.tasks.length = deltas.length := horders.trans hadjusting.length_eq.symm
  have hall : ∀ id, id < s.tasks.length → ∃ r, s.result? id = some r := by
    intro id hid
    obtain ⟨reply, hreply⟩ := hends id (hlength ▸ hid)
    exact ⟨_, hreply⟩
  have hsucceeds : ∀ id r, s.result? id = some r → ∃ reply, r = .ok reply := by
    intro id r hr
    obtain ⟨t, ht, -⟩ := System.result?_eq_some_iff.1 hr
    obtain ⟨reply, hreply⟩ := hends id (hlength ▸ (List.getElem?_eq_some_iff.1 ht).1)
    exact ⟨reply, Option.some.inj (hr.symm.trans hreply)⟩
  have hanswered : ∀ id r, s.result? id = some r → isTurnedAway r = false := by
    intro id r hr
    obtain ⟨reply, rfl⟩ := hsucceeds id r hr
    rfl
  have hsucceed : AllSucceed ((endings es).map Prod.snd) := by
    intro r hr
    obtain ⟨e, he, rfl⟩ := List.mem_map.1 hr
    exact hsucceeds e.1 e.2 ((hlinear.results e.1 e.2).1 he)
  have hreplayed := hlinear.oneByOne_inOrder horders hanswered
  exact ⟨hlinear.results, coalesces_of_oneByOne hcalm hname hc honeWay
    (hlinear.perm_inOrder hall hlength.symm) (forall₂_inOrder hadjusting es) hsucceed hreplayed⟩

/-! ### Adjustments by any numbers -/

/-- Adjustments by the numbers, made one after the other in some calm world and none of them failing,
take a rating of a character there to another one. -/
def LeadsTo (x y : String) (name : Value) (a : Action) (deltas : List Int) (r r' : Rating) : Prop :=
  ∃ (w w' : World) (c c' : Character) (orders : List Order) (results : List (Except Error Reply)),
    w.Calm ∧ recordAt w.store.rows (.text x) (.text y) = .ok c ∧ c.rating a = r ∧
    Adjusting x y name deltas orders ∧ ReturnInTurn w orders results w' ∧ AllSucceed results ∧
    recordAt w'.store.rows (.text x) (.text y) = .ok c' ∧ c'.rating a = r'

/-- The rows that adjustments leave, made one after the other and none of them failing. -/
theorem ReturnInTurn.rows_of_adjustments {w w' : World} {deltas : List Int}
    {results : List (Except Error Reply)}
    (h : ReturnInTurn w orders results w') (hadjusting : Adjusting x y name deltas orders)
    (hcalm : w.Calm) (hname : readAction name = .ok a)
    (hc : recordAt w.store.rows (.text x) (.text y) = .ok c) (hsucceed : AllSucceed results) :
    w'.store.rows = rowsAdjusted w.store.rows c a deltas := by
  obtain ⟨-, hreplayed⟩ := h.oneByOne hcalm hadjusting.hasTexts hsucceed.isTurnedAway_eq
  rw [oneByOne_adjusting hadjusting (isWritable_of_allSucceed hreplayed hsucceed) hname hc]
    at hreplayed
  obtain ⟨-, hrest⟩ := Prod.mk.inj hreplayed
  exact (Prod.mk.inj hrest).1.symm

/-- Adjustments lead to what comes of the whole series. -/
theorem LeadsTo.eq_adjusted {deltas : List Int} {r r' : Rating} (hname : readAction name = .ok a)
    (h : LeadsTo x y name a deltas r r') : r' = r.adjusted deltas := by
  obtain ⟨w, w', c, c', orders, results, hcalm, hc, rfl, hadjusting, hreturn, hsucceed, hc', rfl⟩ := h
  rw [hreturn.rows_of_adjustments hadjusting hcalm hname hc hsucceed, recordAt_rowsAdjusted hc,
    if_pos ⟨rfl, rfl⟩] at hc'
  cases hc'
  exact c.rating_rated_self a _

/-- **Where the store serves, no adjustment of a record fails** that can be written. -/
theorem World.Serving.adjusts {w : World} (h : w.Serving) (hname : readAction name = .ok a)
    (hc : recordAt w.store.rows (.text x) (.text y) = .ok c) {deltas : List Int}
    (hadjusting : Adjusting x y name deltas orders)
    (hwritable : ∀ o ∈ orders, o.isWritable = true) :
    ∃ results w', ReturnInTurn w orders results w' ∧ AllSucceed results ∧ w'.Serving := by
  obtain ⟨w', hreturn, hserving⟩ := h.executeInTurn hadjusting.hasTexts
  rw [oneByOne_adjusting hadjusting hwritable hname hc] at hreturn
  refine ⟨_, w', hreturn, ?_, hserving⟩
  intro r hr
  obtain ⟨rating, -, rfl⟩ := List.mem_map.1 hr
  exact ⟨_, rfl⟩

/-- Every rating is led to some rating by every series. -/
theorem exists_leadsTo (hname : readAction name = .ok a) (x y : String) (deltas : List Int)
    (r : Rating) : ∃ r', LeadsTo x y name a deltas r r' := by
  let c := (Character.blank x y).rated a r
  obtain ⟨hcalm, hserving⟩ :=
    World.serving_withRows [Row.ofCharacter c] (Int.le_refl 1) (.script 0 [])
  generalize hw : World.withRows [Row.ofCharacter c] 1 (.script 0 []) = w at hcalm hserving
  have hc : recordAt w.store.rows (.text x) (.text y) = .ok c := by
    have hplaced := recordAt_replaceRow c [] x y
    rw [if_pos ⟨rfl, rfl⟩] at hplaced
    rw [← hw]
    exact hplaced
  have hadjusting :=
    adjusting_adjustments (fun i => rfl : ∀ i, (Order.method i).intent = i) x y name deltas
  have hwritable : ∀ o ∈ adjustments .method x y name deltas, o.isWritable = true := by
    intro o ho
    obtain ⟨delta, -, rfl⟩ := List.mem_map.1 ho
    rfl
  obtain ⟨results, w', hreturn, hsucceed, -⟩ := hserving.adjusts hname hc hadjusting hwritable
  have hc' := recordAt_rowsAdjusted hc a deltas x y
  rw [if_pos ⟨rfl, rfl⟩, ← hreturn.rows_of_adjustments hadjusting hcalm hname hc hsucceed] at hc'
  exact ⟨_, w, w', c, _, _, results, hcalm, hc, Character.rating_rated_self .., hadjusting, hreturn,
    hsucceed, hc', rfl⟩

/-! ### The laws together -/

/-- **Adjustments of one direction coalesce.**  From a calm world, and none of them failing, they come
to the rating nearest to the whole sum: one after the other in any order, and in every run of all of
them at once, in the order in which they end.  Adjustments by any numbers keep the order of ratings
and their distance, and what comes after a number of the whole range does not depend on anything
before it. -/
theorem adjustments_coalesce (hname : readAction name = .ok a) (x y : String) :
    (∀ (w : World) (c : Character) (deltas : List Int), w.Calm →
      recordAt w.store.rows (.text x) (.text y) = .ok c → Rating.OneWay deltas →
        (∀ order orders results w', order.Perm deltas → Adjusting x y name order orders →
          ReturnInTurn w orders results w' → AllSucceed results →
            Coalesces w x y name a c deltas order results w'.store.rows) ∧
        ∀ orders es s, Adjusting x y name deltas orders →
          Run (System.start w (orders.map .execute)) es s →
          (∀ id, id < deltas.length → ∃ reply, s.result? id = some (.ok reply)) →
            (∀ id r, (id, r) ∈ endings es ↔ s.result? id = some r) ∧
            Coalesces w x y name a c deltas (inOrder deltas es) ((endings es).map Prod.snd)
              s.rows) ∧
      (∀ deltas r, ∃ r', LeadsTo x y name a deltas r r') ∧
      (∀ deltas r r' q q', LeadsTo x y name a deltas r r' → LeadsTo x y name a deltas q q' →
        (r ≤ q → r' ≤ q') ∧ Rating.distance r' q' ≤ Rating.distance r q) ∧
      ∀ before before' delta after r r' q q', 4 ≤ delta ∨ delta ≤ -4 →
        LeadsTo x y name a (before ++ delta :: after) r r' →
          LeadsTo x y name a (before' ++ delta :: after) q q' → r' = q' := by
  refine ⟨?_, exists_leadsTo hname x y, ?_, ?_⟩
  · intro w c deltas hcalm hc honeWay
    refine ⟨?_, ?_⟩
    · intro order orders results w' hperm hadjusting hreturn hsucceed
      exact hreturn.coalesces hadjusting hcalm hname hc honeWay hperm hsucceed
    · intro orders es s hadjusting hrun hends
      exact hrun.coalesces hadjusting hcalm hname hc honeWay hends
  · intro deltas r r' q q' hr hq
    rw [hr.eq_adjusted hname, hq.eq_adjusted hname]
    exact ⟨fun h => Rating.adjusted_mono h deltas, Rating.distance_adjusted_le r q deltas⟩
  · intro before before' delta after r r' q q' hwhole hr hq
    rw [hr.eq_adjusted hname, hq.eq_adjusted hname]
    exact Rating.adjusted_forgets hwhole r q before before' after

/-- Three adjustments that are begun in another order than that of their numbers. -/
theorem adjustments_coalesce_of_three :
    let c := (Character.blank "c" "u").rated .hack 1
    let w := World.withRow c 2 (.script 0 [])
    let name : Value := .text " HACK "
    readAction name = .ok .hack ∧
      (∃ es s, Run (System.start w
          ((adjustments .command "c" "u" name [1, 2, 3]).map .execute)) es s ∧
        Coalesces w "c" "u" name .hack c [1, 2, 3] [2, 3, 1] ((endings es).map Prod.snd) s.rows ∧
        recordAt s.rows (.text "c") (.text "u") = .ok (c.rated .hack 4)) ∧
      ∃ r, LeadsTo "c" "u" name .hack [1, -2, 4, -1] 3 r := by
  intro c w name
  let start := System.start w ((adjustments .command "c" "u" name [1, 2, 3]).map .execute)
  let steps : List (Nat × Choice) := [(1, .go), (2, .go), (0, .go)] ++
    List.replicate 14 (1, .go) ++ List.replicate 11 (2, .go) ++ List.replicate 11 (0, .go)
  have hname : readAction name = .ok .hack := rfl
  have hends : (start.follow steps).map (fun r => ((endings r.1).map Prod.fst,
      (List.range 3).all fun id => (r.2.result? id).map Except.isOk == some true)) =
      some ([1, 2, 0], true) := by decide +kernel
  obtain ⟨⟨es, s⟩, hfollow, hends⟩ := Option.map_eq_some_iff.1 hends
  obtain ⟨horder, hok⟩ := Prod.mk.inj hends
  have hrun : Run start es s := Run.start.of_follow hfollow
  have hreplies : ∀ id, id < 3 → ∃ reply, s.result? id = some (.ok reply) := by
    intro id hid
    have hid := eq_of_beq (List.all_eq_true.1 hok id (List.mem_range.2 hid))
    obtain ⟨r, hr, hsuccess⟩ := Option.map_eq_some_iff.1 hid
    cases r with
    | error e => cases hsuccess
    | ok reply => exact ⟨reply, hr⟩
  have hcalm : w.Calm := (World.atRest_world ..).calm (World.oneDatabase_withRow c 2 _)
  have hc : recordAt w.store.rows (.text "c") (.text "u") = .ok c :=
    Row.toCharacter_ofCharacter ..
  have honeWay : Rating.OneWay [1, 2, 3] := .inl (by decide)
  obtain ⟨hcoalesce, hleads, -⟩ := adjustments_coalesce hname "c" "u"
  obtain ⟨-, hruns⟩ := hcoalesce w c [1, 2, 3] hcalm hc honeWay
  obtain ⟨-, hended⟩ := hruns _ es s
    (adjusting_adjustments (fun _ => rfl) "c" "u" name [1, 2, 3]) hrun hreplies
  have hinOrder : inOrder [(1 : Int), 2, 3] es = [2, 3, 1] := by
    have hids : inOrder [(1 : Int), 2, 3] es =
        ((endings es).map Prod.fst).filterMap fun id => [(1 : Int), 2, 3][id]? := by
      rw [List.filterMap_map]
      rfl
    rw [hids, horder]
    rfl
  rw [hinOrder] at hended
  exact ⟨hname, ⟨es, s, hrun, hended, hended.stored⟩, hleads _ 3⟩

end CharacterLedger.Ledger
