import CharacterLedger.Proofs.Ledger.PoolCalls
import Mathlib.Data.List.Induction

/-!
# Deeds and sessions

Records are saved, adjusted, loaded and viewed one after the other, while the pool is opened and
closed, connections are closed behind its back, and the program is started again.  What comes of the
deeds is told from the rows alone, with the terms of a pool of the size at hand; who carries them
out one after the other is told the same.

* `Deed`, `Act` — what is done to a character, and what happens around it;
* `carryOut` — acts carried out one after the other, and what came of the deeds;
* `Deed.under`, `tell` — the same as a function of the rows;
* `callOn_deed` — a deed in a quiet world;
* `records`, `lastRecord`, `recordAt_tell` — the records that were saved, and the last one of a key.
-/

namespace CharacterLedger.Ledger

open CharacterLedger.Storage CharacterLedger.Table CharacterLedger.Dice

/-! ### Deeds -/

/-- Something done to one character. -/
inductive Deed where
  | save (c : Character)
  | adjust (channel user : String) (name delta : Value)
  | load (channel user : String)
  | view (channel user : String)

namespace Deed

/-- The call that a deed is done by. -/
def call : Deed → Call
  | save c => .borrow (.save c)
  | adjust channel user name delta =>
    .execute (.method (.adjust (.text channel) (.text user) name delta))
  | load channel user => .borrow (.ask (.character (.text channel) (.text user)))
  | view channel user => .execute (.method (.view (.text channel) (.text user)))

/-- The record of a character on the terms of a store. -/
def readUnder (terms : Terms) (rows : List Row) (channel user : String) : Except Error Character :=
  (loaded (.text channel) (.text user)
    (terms.load (rowAt rows (.text channel) (.text user)))).2

/-- What comes of a deed on the terms of a store, and the rows after it. -/
def under (terms : Terms) (rows : List Row) : Deed → Except Error Reply × List Row
  | save c => ((saved c (terms.save rows c)).2.map fun _ => .done, terms.rowsAfter rows c)
  | adjust channel user name delta =>
    match readAction name with
    | .error e => (.error e, rows)
    | .ok a =>
      match readUnder terms rows channel user with
      | .error e => (.error e, rows)
      | .ok c =>
        match Task.adjust c a delta with
        | .error e => (.error e, rows)
        | .ok (adjustment, changed) =>
          ((saved changed (terms.save rows changed)).2.map fun _ => .adjusted adjustment.after,
            terms.rowsAfter rows changed)
  | load channel user | view channel user =>
    ((readUnder terms rows channel user).map .character, rows)

/-- The record that a deed saves if it succeeds. -/
def change? (rows : List Row) : Deed → Option Character
  | save c => some c
  | adjust channel user name delta =>
    match readAction name, recordAt rows (.text channel) (.text user) with
    | .ok a, .ok c =>
      match Task.adjust c a delta with
      | .ok (_, changed) => some changed
      | .error _ => none
    | _, _ => none
  | load .. | view .. => none

/-- The error of a deed for which there is no connection. A name that nobody knows shows first. -/
def errorOr (e : Error) : Deed → Error
  | adjust _ _ name _ =>
    match readAction name with
    | .error unknown => unknown
    | .ok _ => e
  | save _ | load .. | view .. => e

end Deed

/-- **A deed in a quiet world** is done on the terms of the store, and the world is quiet again. -/
theorem callOn_deed {terms : Terms} {S : Store → Prop} {bound : Nat} {w : World}
    (hold : terms.Hold S bound) (h : w.Quiet S) (d : Deed)
    (hbound : 2 * bound + 2 ≤ 32 * (w.store.pool.size.toNat + w.store.connections.length + 20)) :
    ∃ w', Session.callOn w d.call = ((d.under terms w.store.rows).1, w') ∧ w'.Quiet S ∧
      w'.store.rows = (d.under terms w.store.rows).2 := by
  cases d with
  | save c =>
    obtain ⟨n, notes, t, hn, hruns, hs, hrows⟩ := hold.saves h.store c
    obtain ⟨w', hcall, hleaves⟩ := callOn_of_runs (.borrow (.save c)) hruns rfl (by omega)
    refine ⟨w', hcall, hleaves.quiet h.locks hs, ?_⟩
    rw [hleaves.store]
    exact hrows
  | load channel user =>
    obtain ⟨n, notes, t, hn, hruns, hs, hrows⟩ := hold.loads h.store channel user
    obtain ⟨w', hcall, hleaves⟩ := callOn_of_runs
      (.borrow (.ask (.character (.text channel) (.text user)))) hruns rfl (by omega)
    refine ⟨w', hcall, hleaves.quiet h.locks hs, ?_⟩
    rw [hleaves.store]
    exact hrows
  | view channel user =>
    obtain ⟨w', hcall, hquiet, hrows, -⟩ :=
      callOn_execute hold h (o := .method (.view (.text channel) (.text user)))
        (Order.hasTexts_of_view rfl) hbound
    have hunder : (Order.method (.view (.text channel) (.text user))).under terms w.store.rows
          w.entropy =
        (((Deed.view channel user).under terms w.store.rows).1, w.store.rows, w.entropy) := by
      simp only [Order.under, Order.plan_method, Intent.plan, Deed.under, Deed.readUnder]
      cases (loaded (.text channel) (.text user)
        (terms.load (rowAt w.store.rows (.text channel) (.text user)))).2 <;> rfl
    rw [hunder] at hcall hrows
    exact ⟨w', hcall, hquiet, hrows⟩
  | adjust channel user name delta =>
    obtain ⟨w', hcall, hquiet, hrows, -⟩ :=
      callOn_execute hold h (o := .method (.adjust (.text channel) (.text user) name delta))
        (Order.hasTexts_of_adjust rfl) hbound
    have hunder : (Order.method (.adjust (.text channel) (.text user) name delta)).under terms
          w.store.rows w.entropy =
        (((Deed.adjust channel user name delta).under terms w.store.rows).1,
          ((Deed.adjust channel user name delta).under terms w.store.rows).2, w.entropy) := by
      simp only [Order.under, Order.plan_method, Intent.plan, Deed.under, Deed.readUnder]
      cases readAction name with
      | error e => rfl
      | ok a =>
        simp only
        cases (loaded (.text channel) (.text user)
          (terms.load (rowAt w.store.rows (.text channel) (.text user)))).2 with
        | error e => rfl
        | ok c =>
          simp only [Use.under]
          cases Task.adjust c a delta <;> rfl
    rw [hunder] at hcall hrows
    exact ⟨w', hcall, hquiet, hrows⟩

/-! ### Acts -/

/-- A deed, or something that happens to the pool. -/
inductive Act where
  | deed (d : Deed)
  | openPool
  | closePool
  /-- The program ends, and starts again with a pool of some size and other dice. -/
  | restart (size : Int) (dice : Entropy)
  /-- A connection is closed behind the back of the pool. -/
  | sever (c : Nat)

/-- What came of a deed, and the size of the pool that it came to. -/
structure Told where
  size : Int
  deed : Deed
  result : Except Error Reply

/-- Carries out an act. -/
def Act.carryOut (w : World) : Act → List Told × World
  | deed d => ([⟨w.store.pool.size, d, (Session.callOn w d.call).1⟩], (Session.callOn w d.call).2)
  | openPool => ([], (Session.callOn w .openPool).2)
  | closePool => ([], (Session.callOn w .closePool).2)
  | restart size dice => ([], Session.world w.store.disk w.store.pool.location size dice)
  | sever c => ([], w.withStore (w.store.close c))

/-- Carries out acts one after the other. -/
def carryOut : List Act → World → List Told × World
  | [], w => ([], w)
  | act :: acts, w =>
    ((act.carryOut w).1 ++ (carryOut acts (act.carryOut w).2).1,
      (carryOut acts (act.carryOut w).2).2)

/-- What comes of an act: what is told of it, the size of the pool and the rows. -/
def Act.tell (terms : Int → Terms) (size : Int) (rows : List Row) :
    Act → List Told × Int × List Row
  | deed d => ([⟨size, d, (d.under (terms size) rows).1⟩], size, (d.under (terms size) rows).2)
  | restart size _ => ([], size, rows)
  | openPool | closePool | sever _ => ([], size, rows)

/-- What comes of acts one after the other. -/
def tell (terms : Int → Terms) : List Act → Int → List Row → List Told × Int × List Row
  | [], size, rows => ([], size, rows)
  | act :: acts, size, rows =>
    ((act.tell terms size rows).1 ++
        (tell terms acts (act.tell terms size rows).2.1 (act.tell terms size rows).2.2).1,
      (tell terms acts (act.tell terms size rows).2.1 (act.tell terms size rows).2.2).2)

/-- What shows of a world after acts: what was told, the size of its pool and its rows. -/
def shown (r : List Told × World) : List Told × Int × List Row :=
  (r.1, r.2.store.pool.size, r.2.store.rows)

/-- **What is told of each act is told of all of them**, where every act leaves a world of the same
kind. -/
theorem shown_carryOut {terms : Int → Terms} {A : Act → Prop} {K : World → Prop}
    (hstep : ∀ (w : World) (act : Act), A act → K w → K (act.carryOut w).2 ∧
      shown (act.carryOut w) = act.tell terms w.store.pool.size w.store.rows)
    {acts : List Act} (hacts : ∀ act, act ∈ acts → A act) {w : World} (hw : K w) :
    K (carryOut acts w).2 ∧
      shown (carryOut acts w) = tell terms acts w.store.pool.size w.store.rows := by
  induction acts generalizing w with
  | nil => exact ⟨hw, rfl⟩
  | cons act acts ih =>
    obtain ⟨hnext, hshown⟩ := hstep w act (hacts act (List.mem_cons_self ..)) hw
    obtain ⟨hlast, hrest⟩ := ih (fun other h => hacts other (List.mem_cons_of_mem act h)) hnext
    refine ⟨hlast, ?_⟩
    rw [tell, ← hshown]
    simp only [shown] at hrest ⊢
    rw [← hrest]
    rfl

/-! ### The records that are saved -/

/-- The record that a deed which has succeeded has saved. -/
def Told.saved? (rows : List Row) (r : Told) : Option Character :=
  match r.result with
  | .ok _ => r.deed.change? rows
  | .error _ => none

/-- The rows with a record in its place, if there is one. -/
def withSaved (rows : List Row) : Option Character → List Row
  | some c => CharacterTable.replaceRow (Row.ofCharacter c) rows
  | none => rows

/-- The records that have been saved, one after the other, to these rows. -/
def records : List Row → List Told → List Character
  | _, [] => []
  | rows, r :: rest => (r.saved? rows).toList ++ records (withSaved rows (r.saved? rows)) rest

/-- A row that is given is the row that is there. -/
def Terms.IsHonest (terms : Terms) : Prop := ∀ row r, terms.load row = .ok r → r = row

/-- The record that is read on honest terms is the one that is there. -/
theorem Deed.recordAt_of_readUnder {terms : Terms} (hterms : terms.IsHonest) {rows : List Row}
    {channel user : String} {c : Character} (h : Deed.readUnder terms rows channel user = .ok c) :
    recordAt rows (.text channel) (.text user) = .ok c := by
  unfold readUnder at h
  cases hload : terms.load (rowAt rows (.text channel) (.text user)) with
  | error f =>
    rw [hload] at h
    cases h
  | ok r =>
    rw [hload, hterms _ r hload] at h
    exact h

/-- **A deed changes the rows by the record that it saves**, and by nothing else. -/
theorem Deed.under_snd {terms : Terms} (hterms : terms.IsHonest) (rows : List Row) (d : Deed)
    (size : Int) :
    (d.under terms rows).2 =
      withSaved rows ((⟨size, d, (d.under terms rows).1⟩ : Told).saved? rows) := by
  have hsaves : ∀ (c : Character) (reply : Reply) (d : Deed), d.change? rows = some c →
      terms.rowsAfter rows c = withSaved rows
        ((⟨size, d, (saved c (terms.save rows c)).2.map fun _ => reply⟩ : Told).saved? rows) := by
    intro c reply d hchange
    unfold Terms.rowsAfter Told.saved?
    cases terms.save rows c with
    | error f => rfl
    | ok => simp only [saved, Except.map, hchange, withSaved]
  cases d with
  | save c => exact hsaves c .done (.save c) rfl
  | load channel user | view channel user =>
    simp only [under, Told.saved?]
    cases readUnder terms rows channel user <;> rfl
  | adjust channel user name delta =>
    simp only [under]
    cases hname : readAction name with
    | error e => rfl
    | ok a =>
      simp only
      cases hread : readUnder terms rows channel user with
      | error e => rfl
      | ok c =>
        simp only
        cases hadjust : Task.adjust c a delta with
        | error e => rfl
        | ok made =>
          obtain ⟨adjustment, changed⟩ := made
          refine hsaves changed (.adjusted adjustment.after) (.adjust channel user name delta) ?_
          simp only [change?, hname, recordAt_of_readUnder hterms hread, hadjust]

/-- **The rows that are told of last** are the first ones with every saved record in its place. -/
theorem tell_rows {terms : Int → Terms} (hterms : ∀ size, (terms size).IsHonest)
    (acts : List Act) (size : Int) (rows : List Row) :
    (tell terms acts size rows).2.2 = (records rows (tell terms acts size rows).1).foldl
      (fun rows c => CharacterTable.replaceRow (Row.ofCharacter c) rows) rows := by
  induction acts generalizing size rows with
  | nil => rfl
  | cons act acts ih =>
    rw [tell, ih]
    cases act with
    | deed d =>
      simp only [Act.tell, List.cons_append, List.nil_append, records, List.foldl_append]
      rw [d.under_snd (hterms size) rows size]
      cases Told.saved? rows _ <;> rfl
    | openPool | closePool | restart | sever => rfl

/-- A record that is saved is the one of its key, and all other keys have the record they had. -/
theorem recordAt_replaceRow (c : Character) (rows : List Row) (channel user : String) :
    recordAt (CharacterTable.replaceRow (Row.ofCharacter c) rows) (.text channel) (.text user) =
      if c.channel = channel ∧ c.user = user then .ok c
      else recordAt rows (.text channel) (.text user) := by
  by_cases hkey : c.channel = channel ∧ c.user = user
  · rw [if_pos hkey, recordAt, rowAt_text, CharacterTable.find?_replaceRow, if_pos]
    · exact Row.toCharacter_ofCharacter ..
    · exact (Row.hasKey_iff ..).2 hkey
  · rw [if_neg hkey, recordAt, recordAt, rowAt_replaceRow_of_ne]
    intro hsame
    exact hkey (Prod.ext_iff.1 hsame)

/-- **The record of a character is the last one that was saved** for its key, or else the one that
it had. -/
theorem recordAt_foldl (cs : List Character) (rows : List Row) (channel user : String) :
    recordAt (cs.foldl (fun rows c => CharacterTable.replaceRow (Row.ofCharacter c) rows) rows)
        (.text channel) (.text user) =
      match cs.reverse.find? fun c => c.channel = channel ∧ c.user = user with
      | some c => .ok c
      | none => recordAt rows (.text channel) (.text user) := by
  induction cs using List.reverseRecOn with
  | nil => rfl
  | append_singleton cs c ih =>
    rw [List.foldl_append, List.foldl_cons, List.foldl_nil, recordAt_replaceRow,
      List.reverse_append, List.reverse_singleton, List.singleton_append, List.find?_cons]
    by_cases hkey : c.channel = channel ∧ c.user = user
    · simp only [hkey, and_self, if_true, decide_true]
    · simp only [hkey, if_false, decide_false]
      exact ih

/-- The last record that was saved for a key, or else the one that it had before. -/
def lastRecord (before : List Row) (told : List Told) (channel user : String) :
    Except Error Character :=
  match (records before told).reverse.find? fun c => c.channel = channel ∧ c.user = user with
  | some c => .ok c
  | none => recordAt before (.text channel) (.text user)

/-- **Whoever is read in the end** has the last record that was saved. -/
theorem recordAt_tell {terms : Int → Terms} (hterms : ∀ size, (terms size).IsHonest)
    (acts : List Act) (size : Int) (rows : List Row) (channel user : String) :
    recordAt (tell terms acts size rows).2.2 (.text channel) (.text user) =
      lastRecord rows (tell terms acts size rows).1 channel user := by
  rw [tell_rows hterms, recordAt_foldl]
  rfl

end CharacterLedger.Ledger
