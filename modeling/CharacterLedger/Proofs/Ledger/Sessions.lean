import CharacterLedger.Proofs.Ledger.Deeds
import CharacterLedger.Proofs.Storage.Lasting
import CharacterLedger.Proofs.Storage.Memory

/-!
# What survives sessions

On a file, records survive whatever becomes of the pool.  However deeds are cut into sessions, with
pools of any sizes, and whichever connections are closed on the way, each deed that gets to a
connection comes to what it would have come to in one session without a break, and who is loaded has
the last record that was saved.  Where a pool has no places deeds wait in vain, and change nothing.

In memory the same is true while the pool is open.  It has one connection, whatever size was asked
for; when that one has been closed nobody is answered from another database.

* `Terms.ofSize` — on what terms a pool of some size meets visits;
* `LastsIn`, `hold_lastsIn` — stores on a file that lasts, and their terms;
* `quiet_carryOut` — every act leaves such a store, and is told from the rows;
* `tell_unbroken` — sessions do not show in what is told;
* `survives_sessions` — what survives, on a file and in memory.
-/

namespace CharacterLedger.Ledger

open CharacterLedger.Storage CharacterLedger.Table CharacterLedger.Dice

/-! ### The terms of pools -/

/-- Whether triggers refuse a record among these rows. -/
def refuses (triggers : List Table.Event) (rows : List Row) (c : Character) : Bool :=
  triggers.contains .insert ||
    triggers.contains .update && (rows.find? fun r => r.hasKey c.channel c.user).isSome

/-- What the table makes of a record. -/
theorem upsert_eq (version : Int) (t : CharacterTable) (c : Character) :
    (⟨version, some t⟩ : Database).upsert c =
      if refuses t.triggers t.rows c then .error .refused
      else .ok ⟨version,
        some { t with rows := CharacterTable.replaceRow (Row.ofCharacter c) t.rows }⟩ := by
  unfold refuses
  simp only [Database.upsert_eq, CharacterTable.upsert, CharacterTable.find?,
    show (Row.ofCharacter c).channel = c.channel from rfl,
    show (Row.ofCharacter c).user = c.user from rfl]
  cases t.triggers.contains .insert with
  | true => rfl
  | false =>
    simp only [Bool.false_or, Bool.false_eq_true, if_false]
    cases t.triggers.contains .update &&
      (t.rows.find? fun r => r.hasKey c.channel c.user).isSome <;> rfl

namespace Terms

/-- Every row is given, and every record taken that triggers do not refuse. -/
def refusing (triggers : List Table.Event) : Terms where
  load := .ok
  save := fun rows c => if refuses triggers rows c then .error (.fault .refused) else .ok ()

/-- The terms of a pool on a file: without places it turns everybody away. -/
def ofSize (triggers : List Table.Event) (size : Int) : Terms :=
  if 1 ≤ size then refusing triggers else denied .timeout

/-- Where there are no triggers every record is taken. -/
@[simp] theorem ofSize_nil : ofSize [] 1 = full := rfl

theorem isHonest_denied (f : Failure) : (denied f).IsHonest := nofun

theorem isHonest_ofSize (triggers : List Table.Event) (size : Int) :
    (ofSize triggers size).IsHonest := by
  unfold ofSize
  split
  · exact fun _ _ h => (Except.ok.inj h).symm
  · exact isHonest_denied .timeout

end Terms

/-- A deed for which there is no connection changes nothing. -/
theorem Deed.under_denied {failure : Failure} {e : Error}
    (he : ∀ report, (storeError report failure).2 = e) (rows : List Row) (d : Deed) :
    d.under (.denied failure) rows = (.error (d.errorOr e), rows) := by
  have hread : ∀ x y, Deed.readUnder (.denied failure) rows x y = .error e := by
    intro x y
    exact congrArg Except.error (he _)
  cases d with
  | save c => exact congrArg (fun e => (Except.error e, rows)) (he _)
  | load x y | view x y =>
    simp only [under, hread]
    rfl
  | adjust x y name delta =>
    simp only [under, errorOr, hread]
    cases readAction name <;> rfl

/-! ### Sessions on a file -/

section OnFile

variable {path : String} {triggers : List Table.Event} {s : Store} {w : World} {size : Int}

/-- A store on a file that lasts, whose table has these triggers once it has been set up. -/
def LastsIn (path : String) (triggers : List Table.Event) (s : Store) : Prop :=
  ∃ version t, Database.currentVersion ≤ version ∧ t.triggers = triggers ∧
    s.Lasts path ⟨version, some t⟩

theorem LastsIn.rows_eq (h : LastsIn path triggers s) :
    s.rows = (databaseAt s.disk path).rows := by
  obtain ⟨version, t, hversion, -, hlasts⟩ := h
  obtain ⟨hrows, hdatabase⟩ := hlasts.rows_eq ⟨hversion, rfl⟩
  exact hrows.trans hdatabase.symm

/-- A store lasts once the connection that was lent is given back. -/
theorem lastsIn_of_returns {u v : Store} {a : Address} {p : Path} {file q c : Nat} {version : Int}
    {t : CharacterTable} (hlent : u.LentOn path a p file q ⟨version, some t⟩ c)
    (hversion : Database.currentVersion ≤ version) (hplaces : 1 ≤ u.pool.size)
    (halike : u.Alike v) :
    LastsIn path t.triggers (v.withPool (v.pool.put q c)) ∧
      (v.withPool (v.pool.put q c)).pool.size = u.pool.size ∧
      (v.withPool (v.pool.put q c)).rows = t.rows := by
  obtain ⟨honFile, hqueue⟩ := hlent.returns halike
  have hsize : (v.withPool (v.pool.put q c)).pool.size = u.pool.size := by
    rw [← halike.pool]
    rfl
  have hlasts := Store.Lasts.atHand (hsize ▸ hplaces) honFile hqueue
  exact ⟨⟨version, t, hversion, rfl, hlasts⟩, hsize, (hlasts.rows_eq ⟨hversion, rfl⟩).1⟩

/-- **Where there are places a question is answered** from the rows. -/
theorem LastsIn.answers (h : LastsIn path triggers s) (hplaces : 1 ≤ s.pool.size)
    {question : Question} (hst : NeedsTable question.statement) (hbound : question.bound = .ok ())
    {a : question.Answer} (ha : ∀ d : Database, d.table.isSome = true → d.rows = s.rows →
      question.ask d = .ok a) :
    ∃ n notes t, n ≤ s.pool.size.toNat + 7 ∧
      Visit.Runs (.borrow (.ask question)) n s (.going .entering) notes t (.ended (.ok a)) ∧
      (LastsIn path triggers t ∧ t.pool.size = s.pool.size) ∧ t.rows = s.rows := by
  obtain ⟨version, t, hversion, rfl, hlasts⟩ := h
  obtain ⟨hrows, -⟩ := hlasts.rows_eq ⟨hversion, rfl⟩
  obtain ⟨m, _, u, a', p, file, q, c, hm, hsize, hlent, hlends⟩ :=
    hlasts.lends hplaces (.ask question)
  obtain ⟨k, hk⟩ := hlent.lent ⟨hversion, rfl⟩
  have hanswer : question.ask (u.disk.content file) = .ok a := by
    rw [hlent.onFile.content]
    exact ha ⟨version, some t⟩ rfl hrows.symm
  obtain ⟨n, v, hn, hasks, halike⟩ := hk.asks hst hbound hanswer q
  obtain ⟨hlasts', hsize', hrows'⟩ := lastsIn_of_returns hlent hversion (hsize ▸ hplaces) halike
  exact ⟨m + n, _, _, by omega, hlends.trans hasks, ⟨hlasts', hsize'.trans hsize⟩,
    hrows'.trans hrows.symm⟩

/-- The row of a character is selected from the rows of a table. -/
theorem select_of_rows {d : Database} {rows : List Row} (htable : d.table.isSome = true)
    (hrows : d.rows = rows) (x y : String) :
    (Question.character (.text x) (.text y)).ask d = .ok (rowAt rows (.text x) (.text y)) := by
  obtain ⟨t, ht⟩ := Option.isSome_iff_exists.1 htable
  rw [← hrows]
  exact select_text ht x y

/-- **Where there are places** a store that lasts gives every row, and takes what triggers do not
refuse. -/
theorem hold_refusing (path : String) (triggers : List Table.Event) (hplaces : 1 ≤ size) :
    (Terms.refusing triggers).Hold (fun s => LastsIn path triggers s ∧ s.pool.size = size)
      (size.toNat + 7) where
  loads := by
    rintro s ⟨hlasts, rfl⟩ x y
    have hstatement : NeedsTable (Question.character (.text x) (.text y)).statement :=
      needsTable_character
    exact hlasts.answers hplaces hstatement rfl fun d htable hrows =>
      select_of_rows htable hrows x y
  saves := by
    rintro s ⟨⟨version, t, hversion, rfl, hlasts⟩, rfl⟩ character
    obtain ⟨hrows, -⟩ := hlasts.rows_eq ⟨hversion, rfl⟩
    obtain ⟨m, _, u, a, p, file, q, c, hm, hsize, hlent, hlends⟩ :=
      hlasts.lends hplaces (.save character)
    obtain ⟨k, hk⟩ := hlent.lent ⟨hversion, rfl⟩
    have hupsert := upsert_eq version t character
    rw [← hlent.onFile.content] at hupsert
    have hsave : (Terms.refusing t.triggers).save s.rows character =
        if refuses t.triggers t.rows character then .error (.fault .refused) else .ok () := by
      rw [hrows]
      rfl
    rw [Terms.rowsAfter, hsave, hrows]
    cases hrefuses : refuses t.triggers t.rows character with
    | true =>
      rw [hrefuses, if_pos rfl] at hupsert
      obtain ⟨v, hsaves, halike⟩ := hk.refuses hupsert rfl q
      obtain ⟨hlasts', hsize', hrows'⟩ :=
        lastsIn_of_returns hlent hversion (hsize ▸ hplaces) halike
      exact ⟨m + 2, _, _, by omega, hlends.trans hsaves, ⟨hlasts', hsize'.trans hsize⟩, hrows'⟩
    | false =>
      rw [hrefuses, if_neg Bool.false_ne_true] at hupsert
      obtain ⟨v, hsaves, halike⟩ := hk.saves hupsert q
      obtain ⟨hlasts', hsize', hrows'⟩ :=
        lastsIn_of_returns (hlent.write _) hversion (hsize ▸ hplaces) halike
      exact ⟨m + 2, _, _, by omega, hlends.trans hsaves, ⟨hlasts', hsize'.trans hsize⟩, hrows'⟩

/-- **Where there are no places** a store that lasts turns everybody away. -/
theorem hold_denied (path : String) (triggers : List Table.Event) (hplaces : size ≤ 0) :
    (Terms.denied .timeout).Hold (fun s => LastsIn path triggers s ∧ s.pool.size = size)
      (size.toNat + 7) := by
  have hdenies : ∀ {s : Store} (e : Errand), LastsIn path triggers s → s.pool.size = size →
      ∃ n notes t, n ≤ size.toNat + 7 ∧
        Visit.Runs (.borrow e) n s (.going .entering) notes t (.ended (.error .timeout)) ∧
        (LastsIn path triggers t ∧ t.pool.size = size) ∧ t.rows = s.rows := by
    rintro s e ⟨version, t, hversion, htriggers, hlasts⟩ rfl
    obtain ⟨n, notes, u, hn, hsize, hlasts', hruns⟩ := hlasts.denies hplaces e
    have hready : IsReady ⟨version, some t⟩ := ⟨hversion, rfl⟩
    refine ⟨n, notes, u, by omega, hruns, ⟨⟨version, t, hversion, htriggers, hlasts'⟩, hsize⟩, ?_⟩
    rw [(hlasts'.rows_eq hready).1, (hlasts.rows_eq hready).1]
  exact ⟨fun h x y => hdenies _ h.1 h.2, fun h c => hdenies _ h.1 h.2⟩

/-- **Stores that last** meet visits on the terms of their size. -/
theorem hold_lastsIn (path : String) (triggers : List Table.Event) (size : Int) :
    (Terms.ofSize triggers size).Hold (fun s => LastsIn path triggers s ∧ s.pool.size = size)
      (size.toNat + 7) := by
  unfold Terms.ofSize
  split
  case isTrue hplaces => exact hold_refusing path triggers hplaces
  case isFalse hplaces => exact hold_denied path triggers (by omega)

/-- **Opening the pool succeeds.** -/
theorem quiet_openPool (h : w.Quiet (LastsIn path triggers)) :
    ∃ w', Session.callOn w .openPool = (.ok .done, w') ∧ w'.Quiet (LastsIn path triggers) ∧
      w'.store.pool.size = w.store.pool.size ∧ w'.store.rows = w.store.rows := by
  obtain ⟨version, t, hversion, htriggers, hlasts⟩ := h.store
  obtain ⟨n, notes, u, q, hn, hsize, -, hlasts', hruns⟩ := hlasts.enters .openPool
  obtain ⟨w', hcall, hleaves⟩ := callOn_of_runs .openPool (r := .ok ()) hruns rfl (by omega)
  refine ⟨w', hcall, hleaves.quiet h.locks ⟨version, t, hversion, htriggers, hlasts'⟩, ?_, ?_⟩
  · rw [hleaves.store, hsize]
  · rw [hleaves.store, (hlasts'.rows_eq ⟨hversion, rfl⟩).1, (hlasts.rows_eq ⟨hversion, rfl⟩).1]

/-- **A store lasts when its pool is closed.** -/
theorem lasts_of_shut {d : Database} {u : Store} (h : s.Lasts path d) (hd : IsReady d)
    (hshut : IsShutFrom s u) : u.Lasts path d := by
  obtain ⟨⟨made, found, a, p, file, hadmits⟩, hholds⟩ := h.admits hd
  rw [← hshut.disk] at hadmits hholds
  refine .closed ?_ hadmits hholds
  cases h with
  | closed isClosed => exact hshut.isClosedOn isClosed.location isClosed.opening isClosed.drafts
  | atHand _ onFile => exact hshut.isClosedOn onFile.location onFile.opening onFile.drafts
  | vacant _ isVacant => exact hshut.isClosedOn isVacant.location isVacant.opening isVacant.drafts

/-- **Closing the pool succeeds.** -/
theorem quiet_closePool (h : w.Quiet (LastsIn path triggers)) :
    ∃ w', Session.callOn w .closePool = (.ok .done, w') ∧ w'.Quiet (LastsIn path triggers) ∧
      w'.store.pool.size = w.store.pool.size ∧ w'.store.rows = w.store.rows := by
  obtain ⟨version, t, hversion, htriggers, hlasts⟩ := h.store
  have hready : IsReady ⟨version, some t⟩ := ⟨hversion, rfl⟩
  cases hopen : w.store.pool.isOpen with
  | false =>
    obtain ⟨w', hcall, hleaves⟩ := callOn_closePool_of_closed hopen
    refine ⟨w', hcall, hleaves.quiet h.locks h.store, ?_, ?_⟩ <;> rw [hleaves.store]
  | true =>
    have hfew := hlasts.few
    obtain ⟨w', u, hcall, hleaves, hshut⟩ := callOn_closePool hopen (by omega)
    have hlasts' := lasts_of_shut hlasts hready hshut
    refine ⟨w', hcall, hleaves.quiet h.locks ⟨version, t, hversion, htriggers, hlasts'⟩, ?_, ?_⟩
    · rw [hleaves.store, hshut.pool]
    · rw [hleaves.store, (hlasts'.rows_eq hready).1, (hlasts.rows_eq hready).1]

/-- A pool on a file that has never been opened. -/
theorem quiet_world {disk made found : Disk} {a : Address} {p : Path} {file : Nat}
    {t : CharacterTable} (hadmits : Admits path disk made found a p file)
    (htable : (databaseAt disk path).setUp.table = some t) (size : Int) (dice : Entropy) :
    (Session.world disk (.file path) size dice).Quiet (LastsIn path t.triggers) ∧
      (Session.world disk (.file path) size dice).store.rows = t.rows := by
  have hready := isReady_setUp (by rw [htable, Option.isSome_some])
  have hlasts := Store.Lasts.fresh size hadmits rfl
  have hrows : (databaseAt disk path).setUp.rows = t.rows := by rw [Database.rows, htable]
  have hsame : (databaseAt disk path).setUp = ⟨(databaseAt disk path).setUp.version, some t⟩ := by
    rw [← htable]
  refine ⟨⟨⟨_, t, hready.version, rfl, hsame ▸ hlasts⟩, KeyLocks.sound_empty, fun _ => rfl⟩, ?_⟩
  exact (hlasts.rows_eq hready).1.trans hrows

/-- **Every act** leaves a store that lasts, and is told from the rows. -/
theorem quiet_carryOut (act : Act) (h : w.Quiet (LastsIn path triggers)) :
    (act.carryOut w).2.Quiet (LastsIn path triggers) ∧
      shown (act.carryOut w) =
        act.tell (.ofSize triggers) w.store.pool.size w.store.rows := by
  cases act with
  | deed d =>
    have hsized : w.Quiet fun s => LastsIn path triggers s ∧ s.pool.size = w.store.pool.size :=
      ⟨⟨h.store, rfl⟩, h.locks⟩
    obtain ⟨w', hcall, hquiet, hrows⟩ :=
      callOn_deed (hold_lastsIn path triggers _) hsized d (by omega)
    simp only [Act.carryOut, Act.tell, shown, hcall, hrows, hquiet.store.2]
    exact ⟨⟨hquiet.store.1, hquiet.locks⟩, trivial⟩
  | openPool =>
    obtain ⟨w', hcall, hquiet, hsize, hrows⟩ := quiet_openPool h
    simp only [Act.carryOut, Act.tell, shown, hcall, hsize, hrows]
    exact ⟨hquiet, trivial⟩
  | closePool =>
    obtain ⟨w', hcall, hquiet, hsize, hrows⟩ := quiet_closePool h
    simp only [Act.carryOut, Act.tell, shown, hcall, hsize, hrows]
    exact ⟨hquiet, trivial⟩
  | restart size dice =>
    obtain ⟨version, t, hversion, rfl, hlasts⟩ := h.store
    obtain ⟨⟨made, found, a, p, file, hadmits⟩, hholds⟩ := hlasts.admits ⟨hversion, rfl⟩
    obtain ⟨hquiet, hrows⟩ := quiet_world hadmits (by rw [hholds]) size dice
    simp only [Act.carryOut, Act.tell, shown, hlasts.location, hrows]
    exact ⟨hquiet, by rw [(hlasts.rows_eq ⟨hversion, rfl⟩).1]; rfl⟩
  | sever c =>
    obtain ⟨version, t, hversion, htriggers, hlasts⟩ := h.store
    have hrows : (w.store.close c).rows = w.store.rows := by
      rw [((hlasts.close c).rows_eq ⟨hversion, rfl⟩).1, (hlasts.rows_eq ⟨hversion, rfl⟩).1]
    refine ⟨⟨⟨version, t, hversion, htriggers, hlasts.close c⟩, h.locks⟩, ?_⟩
    simp only [Act.carryOut, Act.tell, shown]
    exact congrArg (fun rows => ([], w.store.pool.size, rows)) hrows

/-- The deeds that came to a pool that had places. -/
def served (told : List Told) : List Told := told.filter fun r => decide (1 ≤ r.size)

/-- **Sessions do not show in what is told.** The deeds that came to a pool with places come to the
same in one session, and leave the same rows. -/
theorem tell_unbroken (triggers : List Table.Event) (acts : List Act) (size : Int)
    (rows : List Row) {size' : Int} (hsize' : 1 ≤ size') :
    let broken := tell (.ofSize triggers) acts size rows
    let unbroken := tell (.ofSize triggers) ((served broken.1).map fun r => .deed r.deed) size' rows
    unbroken.1.map Told.result = (served broken.1).map Told.result ∧
      unbroken.2.2 = broken.2.2 := by
  induction acts generalizing size rows with
  | nil => exact ⟨rfl, rfl⟩
  | cons act acts ih =>
    cases act with
    | openPool | closePool | sever => exact ih size rows
    | restart size => exact ih size rows
    | deed d =>
      by_cases hsize : 1 ≤ size
      · have hterms : Terms.ofSize triggers size' = Terms.ofSize triggers size := by
          rw [Terms.ofSize, Terms.ofSize, if_pos hsize', if_pos hsize]
        obtain ⟨hresults, hrows⟩ := ih size (d.under (.ofSize triggers size) rows).2
        simp only [served] at hresults hrows
        simp only [tell, Act.tell, served, List.cons_append, List.nil_append, List.filter_cons,
          hsize, decide_true, if_true, List.map_cons, hterms, hresults, hrows, and_self]
      · have hterms : Terms.ofSize triggers size = .denied .timeout := if_neg hsize
        obtain ⟨hresults, hrows⟩ := ih size rows
        have hdenied : (d.under (.ofSize triggers size) rows).2 = rows := by
          rw [hterms, d.under_denied fun _ => rfl]
        simp only [served] at hresults hrows
        simp only [tell, Act.tell, served, List.cons_append, List.nil_append, List.filter_cons,
          hsize, decide_false, Bool.false_eq_true, if_false, hdenied]
        exact ⟨hresults, hrows⟩

/-- Where there are no places every deed waits in vain. -/
theorem tell_denied {terms : Int → Terms} {failure : Failure} {e : Error} {P : Int → Prop}
    (hterms : ∀ size, P size → terms size = .denied failure)
    (he : ∀ report, (storeError report failure).2 = e) {acts : List Act} {size : Int}
    {rows : List Row} {r : Told} (hr : r ∈ (tell terms acts size rows).1) (hsize : P r.size) :
    r.result = .error (r.deed.errorOr e) := by
  induction acts generalizing size rows with
  | nil => cases hr
  | cons act acts ih =>
    rw [tell, List.mem_append] at hr
    obtain hr | hr := hr
    · cases act with
      | deed d =>
        obtain rfl := List.mem_singleton.1 hr
        show (d.under (terms size) rows).1 = _
        rw [hterms size hsize, d.under_denied he]
      | openPool | closePool | restart | sever => cases hr
    · exact ih hr

/-- **What comes of acts** in worlds that begin on a file that takes a database. -/
theorem quiet_acts {disk made found : Disk} {a : Address} {p : Path} {file : Nat}
    {t : CharacterTable} (hadmits : Admits path disk made found a p file)
    (htable : (databaseAt disk path).setUp.table = some t) (size : Int) (dice : Entropy)
    (acts : List Act) :
    let r := carryOut acts (Session.world disk (.ofText path) size dice)
    r.2.Quiet (LastsIn path t.triggers) ∧
      shown r = tell (.ofSize t.triggers) acts size t.rows := by
  intro r
  obtain ⟨hquiet, hrows⟩ := quiet_world hadmits htable size dice
  have hr : r = carryOut acts (Session.world disk (.file path) size dice) := by
    rw [← hadmits.location]
  have hacts : ∀ act, act ∈ acts → True := fun _ _ => trivial
  have hall := shown_carryOut (fun w act _ h => quiet_carryOut act h) hacts hquiet
  rw [hrows] at hall
  rw [hr]
  exact hall

end OnFile

/-! ### Sessions in memory -/

section InMemory

variable {w : World}

/-- A pool in memory gives every row and takes every record. -/
theorem hold_oneInMemory : Terms.full.Hold Store.OneInMemory 7 where
  loads := by
    intro s hs x y
    have hstatement : NeedsTable (Question.character (.text x) (.text y)).statement :=
      needsTable_character
    exact hs.answers hstatement rfl fun d htable hrows => select_of_rows htable hrows x y
  saves := fun hs c => hs.saves c

/-- A pool in memory whose connection has been closed turns everybody away. -/
theorem hold_severed (s₀ : Store) :
    (Terms.denied (.fault .inactive)).Hold
      (fun s => (∃ q, s.Severed q) ∧ s₀.SamePool s ∧ s.disk = s₀.disk) 4 := by
  have hdenies : ∀ {s : Store} {e : Errand}, ((∃ question, e = .ask question) ∨ ∃ c, e = .save c) →
      (∃ q, s.Severed q) ∧ s₀.SamePool s ∧ s.disk = s₀.disk → ∃ n notes t, n ≤ 4 ∧
        Visit.Runs (.borrow e) n s (.going .entering) notes t (.ended (.error (.fault .inactive))) ∧
        ((∃ q, t.Severed q) ∧ s₀.SamePool t ∧ t.disk = s₀.disk) ∧ t.rows = s.rows := by
    rintro s e he ⟨⟨q, hs⟩, hsame, hdisk⟩
    obtain ⟨n, notes, t, hn, hruns, ht, hdisk', hrows, hsame'⟩ := hs.denies he
    exact ⟨n, notes, t, hn, hruns, ⟨⟨q, ht⟩, hsame.trans hsame', hdisk'.trans hdisk⟩, hrows⟩
  exact ⟨fun hs x y => hdenies (.inl ⟨_, rfl⟩) hs, fun hs c => hdenies (.inr ⟨c, rfl⟩) hs⟩

/-- Deeds, and opening the pool, which is no more than the first deed does. -/
def Act.IsInside (act : Act) : Prop := act = .openPool ∨ ∃ d, act = .deed d

/-- What does not end the open period of a pool. -/
def Act.StaysOpen (act : Act) : Prop := act.IsInside ∨ ∃ c, act = .sever c

/-- **In memory** a deed is told from the rows. -/
theorem quiet_carryOut_memory {act : Act} (hact : act.IsInside)
    (h : w.Quiet Store.OneInMemory) :
    (act.carryOut w).2.Quiet Store.OneInMemory ∧
      shown (act.carryOut w) = act.tell (.ofSize []) w.store.pool.size w.store.rows := by
  obtain rfl | ⟨d, rfl⟩ := hact
  · obtain ⟨n, notes, u, file, q, hn, hruns, -, hone, hrows⟩ := h.store.enters .openPool
    obtain ⟨w', hcall, hleaves⟩ := callOn_of_runs .openPool (r := .ok ()) hruns rfl (by omega)
    simp only [Act.carryOut, Act.tell, shown, hcall, hone.size, h.store.size, hleaves.store, hrows]
    exact ⟨hleaves.quiet h.locks hone, trivial⟩
  · obtain ⟨w', hcall, hquiet, hrows⟩ := callOn_deed hold_oneInMemory h d (by omega)
    simp only [Act.carryOut, Act.tell, shown, hcall, hrows, hquiet.store.size, h.store.size,
      Terms.ofSize_nil]
    exact ⟨hquiet, trivial⟩

/-- **What comes of acts** in a world in memory that stays open. -/
theorem quiet_acts_memory (disk : Disk) (size : Int) (dice : Entropy) {acts : List Act}
    (hacts : ∀ act, act ∈ acts → act.IsInside) :
    let r := carryOut acts (Session.world disk .memory size dice)
    r.2.Quiet Store.OneInMemory ∧ shown r = tell (.ofSize []) acts 1 [] := by
  have hstart : (Session.world disk .memory size dice).Quiet Store.OneInMemory :=
    ⟨.unopened ⟨rfl, rfl, rfl, fun _ _ hk => by cases hk⟩ rfl rfl rfl,
      KeyLocks.sound_empty, fun _ => rfl⟩
  exact shown_carryOut (fun w act hact h => quiet_carryOut_memory hact h) hacts hstart

/-- In memory every deed comes to a pool that has its place. -/
theorem served_tell {terms : Int → Terms} {acts : List Act}
    (hacts : ∀ act, act ∈ acts → act.IsInside) {rows : List Row} :
    served (tell terms acts 1 rows).1 = (tell terms acts 1 rows).1 := by
  induction acts generalizing rows with
  | nil => rfl
  | cons act acts ih =>
    have hrest : ∀ rows, served (tell terms acts 1 rows).1 = (tell terms acts 1 rows).1 :=
      fun _ => ih fun other h => hacts other (List.mem_cons_of_mem act h)
    obtain rfl | ⟨d, rfl⟩ := hacts act (List.mem_cons_self ..)
    · exact hrest rows
    · simp only [tell, Act.tell, served, List.cons_append, List.nil_append, List.filter_cons,
        Int.le_refl, decide_true, if_true]
      exact congrArg (_ :: ·) (hrest _)

/-- **Once the connection has been closed** every deed is turned away. -/
theorem quiet_carryOut_severed {s₀ : Store} {act : Act} (hact : act.StaysOpen)
    (h : w.Quiet fun s => (∃ q, s.Severed q) ∧ s₀.SamePool s ∧ s.disk = s₀.disk) :
    ((act.carryOut w).2.Quiet fun s => (∃ q, s.Severed q) ∧ s₀.SamePool s ∧ s.disk = s₀.disk) ∧
      shown (act.carryOut w) =
        act.tell (fun _ => .denied (.fault .inactive)) w.store.pool.size w.store.rows := by
  obtain (rfl | ⟨d, rfl⟩) | ⟨c, rfl⟩ := hact
  · obtain ⟨⟨q, hs⟩, hsame, hdisk⟩ := h.store
    have hruns : Visit.Runs .openPool 1 w.store (.going .entering) [] w.store (.ended (.ok ())) :=
      .one (Visit.go_entering hs.current)
    obtain ⟨w', hcall, hleaves⟩ := callOn_of_runs .openPool (r := .ok ()) hruns rfl (by omega)
    simp only [Act.carryOut, Act.tell, shown, hcall, hleaves.store]
    exact ⟨hleaves.quiet h.locks h.store, trivial⟩
  · obtain ⟨w', hcall, hquiet, hrows⟩ := callOn_deed (hold_severed s₀) h d (by omega)
    have hsize : w'.store.pool.size = w.store.pool.size :=
      hquiet.store.2.1.size.trans h.store.2.1.size.symm
    simp only [Act.carryOut, Act.tell, shown, hcall, hrows, hsize]
    exact ⟨hquiet, trivial⟩
  · obtain ⟨⟨q, hs⟩, hsame, hdisk⟩ := h.store
    have hclosed : s₀.SamePool (w.store.close c) :=
      ⟨hsame.location, hsame.size, hsame.tracked,
        (Store.length_close w.store c).trans hsame.length⟩
    refine ⟨⟨⟨⟨q, hs.close c⟩, hclosed, hdisk⟩, h.locks⟩, ?_⟩
    simp only [Act.carryOut, Act.tell, shown]
    exact congrArg (fun rows => ([], w.store.pool.size, rows)) (w.store.rows_close c)

end InMemory

/-! ### What survives -/

variable {terms : Int → Terms} {acts : List Act} {size : Int} {rows : List Row}
  {r r' : List Told × World}

/-- What was told with breaks is what one session tells, if both are told from the rows. -/
theorem shown_unbroken {triggers : List Table.Event}
    (hr : shown r = tell (.ofSize triggers) acts size rows) {size' : Int} (hsize' : 1 ≤ size')
    (hr' : shown r' =
      tell (.ofSize triggers) ((served r.1).map fun told => .deed told.deed) size' rows) :
    r'.1.map Told.result = (served r.1).map Told.result ∧
      r'.2.store.rows = r.2.store.rows := by
  have htold : r.1 = (tell (.ofSize triggers) acts size rows).1 := congrArg Prod.fst hr
  have hrows : r.2.store.rows = (tell (.ofSize triggers) acts size rows).2.2 :=
    congrArg (fun told => told.2.2) hr
  obtain ⟨hresults, hlast⟩ := tell_unbroken triggers acts size rows hsize'
  rw [← htold] at hresults hlast
  refine ⟨(congrArg (fun told => told.1.map Told.result) hr').trans hresults, ?_⟩
  rw [hrows, ← hlast]
  exact congrArg (fun told => told.2.2) hr'

/-- **Whoever loads a record** in the end has the last one that was saved, if every row is given. -/
theorem load_of_shown (hr : shown r = tell terms acts size rows)
    (hterms : ∀ size, (terms size).IsHonest) {last : Terms} {S : Store → Prop} {bound : Nat}
    (hold : last.Hold S bound) (h : r.2.Quiet S) (hload : last.load = .ok)
    (hbound : 2 * bound + 2 ≤
      32 * (r.2.store.pool.size.toNat + r.2.store.connections.length + 20))
    (channel user : String) :
    (Session.callOn r.2 (Deed.load channel user).call).1 =
      (lastRecord rows r.1 channel user).map .character := by
  obtain ⟨w, hcall, -⟩ := callOn_deed hold h (.load channel user) hbound
  have hunder : ((Deed.load channel user).under last r.2.store.rows).1 =
      (recordAt r.2.store.rows (.text channel) (.text user)).map .character := by
    simp only [Deed.under, Deed.readUnder, hload]
    rfl
  have htold : r.1 = (tell terms acts size rows).1 := congrArg Prod.fst hr
  have hrows : r.2.store.rows = (tell terms acts size rows).2.2 :=
    congrArg (fun told => told.2.2) hr
  rw [hcall, hunder, hrows, recordAt_tell hterms, ← htold]

/-- **After the connection in memory has been closed** every deed fails, and no other connection is
made. -/
theorem carryOut_severed {w : World} (h : w.Quiet Store.OneInMemory)
    (hopen : w.store.pool.isOpen = true) {more : List Act}
    (hmore : ∀ act, act ∈ more → act.StaysOpen) :
    let after := carryOut (.sever 0 :: more) w
    (∀ told, told ∈ after.1 → told.result = .error (told.deed.errorOr (.fault .inactive))) ∧
      after.2.store.connections.length = w.store.connections.length ∧
      after.2.store.disk = w.store.disk := by
  intro after
  have hcut : (w.withStore (w.store.close 0)).Quiet fun s =>
      (∃ q, s.Severed q) ∧ (w.store.close 0).SamePool s ∧ s.disk = (w.store.close 0).disk :=
    ⟨⟨h.store.sever hopen, ⟨rfl, rfl, rfl, rfl⟩, rfl⟩, h.locks⟩
  obtain ⟨⟨⟨-, hsame, hdisk⟩, -⟩, hshown⟩ :=
    shown_carryOut (fun w act hact h => quiet_carryOut_severed hact h) hmore hcut
  refine ⟨?_, hsame.length.trans (Store.length_close ..), hdisk⟩
  intro told htold
  have htold' : told ∈ (tell (fun _ => .denied (.fault .inactive)) more
      (w.store.close 0).pool.size (w.store.close 0).rows).1 :=
    congrArg Prod.fst hshown ▸ htold
  exact tell_denied (P := fun _ => True) (fun _ _ => rfl) (fun _ => rfl) htold' trivial

/-- **What survives sessions.**  On a file that takes a database, acts are told from the rows; the
deeds that come to a pool with places come to the same, and leave the same rows, as in one session
without a break; whoever loads a record then has the last one that was saved for its key, or the one
that was there before.  Where a pool has no places a deed waits in vain.  The pool can always be
opened and closed.

In memory, whatever size was asked for, the same is true as long as the pool is open.  It has one
connection at most, and once that has been closed every deed fails and no other one is made. -/
theorem survives_sessions {path : String} {disk made found : Disk} {a : Address} {p : Path}
    {file : Nat} {t : CharacterTable} (hadmits : Admits path disk made found a p file)
    (htable : (databaseAt disk path).setUp.table = some t) :
    (∀ (size : Int) (dice : Entropy) (acts : List Act),
      let broken := carryOut acts (Session.world disk (.ofText path) size dice)
      shown broken = tell (.ofSize t.triggers) acts size t.rows ∧
      (∀ size' dice', 1 ≤ size' →
        let unbroken := carryOut ((served broken.1).map fun r => .deed r.deed)
          (Session.world disk (.ofText path) size' dice')
        unbroken.1.map Told.result = (served broken.1).map Told.result ∧
          (databaseAt unbroken.2.store.disk path).rows =
            (databaseAt broken.2.store.disk path).rows) ∧
      (1 ≤ broken.2.store.pool.size → ∀ channel user,
        (Session.callOn broken.2 (Deed.load channel user).call).1 =
          (lastRecord t.rows broken.1 channel user).map .character) ∧
      (∀ r, r ∈ broken.1 → r.size < 1 → r.result = .error (r.deed.errorOr (.storage .timeout))) ∧
      (Session.callOn broken.2 .openPool).1 = .ok .done ∧
      (Session.callOn broken.2 .closePool).1 = .ok .done) ∧
    ∀ (other : Disk) (size : Int) (dice : Entropy) (acts : List Act),
      (∀ act, act ∈ acts → act.IsInside) →
      let kept := carryOut acts (Session.world other .memory size dice)
      shown kept = tell (.ofSize []) acts 1 [] ∧
      (∀ size' dice',
        let unbroken := carryOut (kept.1.map fun r => .deed r.deed)
          (Session.world other .memory size' dice')
        unbroken.1.map Told.result = kept.1.map Told.result ∧
          unbroken.2.store.rows = kept.2.store.rows) ∧
      (∀ channel user, (Session.callOn kept.2 (Deed.load channel user).call).1 =
        (lastRecord [] kept.1 channel user).map .character) ∧
      kept.2.store.pool.size = 1 ∧ kept.2.store.connections.length ≤ 1 ∧
      (kept.2.store.pool.isOpen = true →
        kept.2.store.connections.length = 1 ∧ kept.2.store.pool.tracked = [0] ∧
        ∀ more, (∀ act, act ∈ more → act.StaysOpen) →
          let after := carryOut (.sever 0 :: more) kept.2
          (∀ r, r ∈ after.1 → r.result = .error (r.deed.errorOr (.fault .inactive))) ∧
            after.2.store.connections.length = 1 ∧
            after.2.store.disk = kept.2.store.disk) := by
  refine ⟨?_, ?_⟩
  · intro size dice acts broken
    obtain ⟨hquiet, hshown⟩ := quiet_acts hadmits htable size dice acts
    refine ⟨hshown, ?_, ?_, ?_, ?_, ?_⟩
    · intro size' dice' hsize' unbroken
      obtain ⟨hquiet', hshown'⟩ := quiet_acts hadmits htable size' dice'
        ((served broken.1).map fun r => .deed r.deed)
      rw [← hquiet'.store.rows_eq, ← hquiet.store.rows_eq]
      exact shown_unbroken hshown hsize' hshown'
    · intro hplaces
      have hload : (Terms.ofSize t.triggers broken.2.store.pool.size).load = .ok := by
        rw [Terms.ofSize, if_pos hplaces]
        rfl
      exact load_of_shown hshown (Terms.isHonest_ofSize t.triggers)
        (hold_lastsIn path t.triggers broken.2.store.pool.size)
        ⟨⟨hquiet.store, rfl⟩, hquiet.locks⟩ hload (by omega)
    · intro r hr hvain
      have htold : r ∈ (tell (.ofSize t.triggers) acts size t.rows).1 :=
        congrArg Prod.fst hshown ▸ hr
      exact tell_denied (P := fun size => size < 1)
        (fun size hsize => if_neg (Int.not_le.2 hsize)) (fun _ => rfl) htold hvain
    · obtain ⟨w', hcall, -⟩ := quiet_openPool hquiet
      rw [hcall]
    · obtain ⟨w', hcall, -⟩ := quiet_closePool hquiet
      rw [hcall]
  · intro other size dice acts hacts kept
    obtain ⟨hquiet, hshown⟩ := quiet_acts_memory other size dice hacts
    obtain ⟨hfew, hone⟩ := hquiet.store.length
    refine ⟨hshown, ?_, ?_, hquiet.store.size, hfew, ?_⟩
    · intro size' dice' unbroken
      have htold : kept.1 = (tell (.ofSize []) acts 1 []).1 := congrArg Prod.fst hshown
      have hserved : served kept.1 = kept.1 := by
        rw [htold]
        exact served_tell hacts
      have hdeeds : ∀ act, act ∈ (kept.1.map fun r => Act.deed r.deed) → act.IsInside := by
        intro act hact
        obtain ⟨r, -, rfl⟩ := List.mem_map.1 hact
        exact .inr ⟨r.deed, rfl⟩
      obtain ⟨-, hshown'⟩ := quiet_acts_memory other size' dice' hdeeds
      rw [← hserved] at hshown'
      have hunbroken := shown_unbroken hshown (Int.le_refl 1) hshown'
      rw [hserved] at hunbroken
      exact hunbroken
    · exact load_of_shown hshown (Terms.isHonest_ofSize []) hold_oneInMemory hquiet rfl (by omega)
    · intro hopen
      obtain ⟨hlength, htracked⟩ := hone hopen
      refine ⟨hlength, htracked, ?_⟩
      intro more hmore after
      obtain ⟨hfails, hsame, hdisk⟩ := carryOut_severed hquiet hopen hmore
      exact ⟨hfails, hsame.trans hlength, hdisk⟩

/-- A record is saved in one session and changed in the next, after its connection was closed. In
memory it is lost with the connection. -/
theorem survives_sessions_of_restarted :
    let disk : Disk := ⟨[(["data"], .directory), (["data", "scum.db"], .file 0)],
      [⟨.empty, none, false⟩]⟩
    let c (skulk : Rating) : Character :=
      ⟨"1234", "5678", .ofFn fun a => if a = .skulk then skulk else 0⟩
    let acts : List Act := [.deed (.save (c 3)), .closePool, .restart 1 (.script 0 []), .openPool,
      .sever 2, .deed (.adjust "1234" "5678" (.text "Skulk") (.int 1)), .closePool]
    let broken := carryOut acts (Session.world disk (.ofText "data/scum.db") 2 (.script 0 []))
    (Session.callOn broken.2 (Deed.load "1234" "5678").call).1 =
        .ok (.character (c 4)) ∧
      broken.2.store.rows = [Row.ofCharacter (c 4)] ∧
    let kept := carryOut [.deed (.save (c 3))] (Session.world disk .memory 7 (.script 0 []))
    let severed := kept.2.withStore (kept.2.store.close 0)
    kept.2.store.rows = [Row.ofCharacter (c 3)] ∧
      (Session.callOn severed (Deed.load "1234" "5678").call).1 = .error (.fault .inactive) := by
  intro disk c acts
  have hroute : (Route.ofText "data/scum.db").parent = ⟨[], ["data"]⟩ := by decide +kernel
  have hadmits : Admits "data/scum.db" disk disk disk (.ofPath "data/scum.db")
      ["data", "scum.db"] 0 :=
    .ofPlain (by rw [hroute]; rfl) (by decide +kernel) (by decide +kernel)
      (by decide +kernel) (Disk.openFile_eq_self_iff.2 ⟨by decide +kernel, by decide +kernel⟩)
      (by decide +kernel) (by decide +kernel) (by decide +kernel) (by decide +kernel)
  have htable : (databaseAt disk "data/scum.db").setUp.table = some ⟨[], []⟩ := by
    rw [← hadmits.content]
    rfl
  obtain ⟨honFile, inMemory⟩ := survives_sessions hadmits htable
  have hfile := honFile 2 (.script 0 []) acts
  -- What the acts come to is not computed again: it is what is told of them.
  generalize carryOut acts (Session.world disk (.ofText "data/scum.db") 2 (.script 0 [])) = broken
    at hfile ⊢
  obtain ⟨hshown, -, hload, -⟩ := hfile
  have htold : tell (.ofSize []) acts 2 [] =
      (broken.1, broken.2.store.pool.size, broken.2.store.rows) := hshown.symm
  have hend : (tell (.ofSize []) acts 2 []).2 = (1, [Row.ofCharacter (c 4)]) := by decide +kernel
  have hlast : lastRecord [] (tell (.ofSize []) acts 2 []).1 "1234" "5678" = .ok (c 4) := by
    rw [← recordAt_tell (Terms.isHonest_ofSize []), hend]
    exact Row.toCharacter_ofCharacter ..
  rw [htold] at hend hlast
  obtain ⟨hsize, hrows⟩ := Prod.mk.inj hend
  have hloaded := hload (Int.le_of_eq hsize.symm) "1234" "5678"
  refine ⟨?_, hrows, ?_⟩
  · rw [hloaded]
    exact congrArg (Except.map Reply.character) hlast
  · have hmemory := inMemory disk 7 (.script 0 []) [.deed (.save (c 3))]
      fun act hact => .inr ⟨_, List.mem_singleton.1 hact⟩
    have hopen : (carryOut [.deed (.save (c 3))]
        (Session.world disk .memory 7 (.script 0 []))).2.store.pool.isOpen = true := by
      decide +kernel
    generalize carryOut [.deed (.save (c 3))] (Session.world disk .memory 7 (.script 0 [])) = kept
      at hmemory hopen ⊢
    obtain ⟨hshown, -, -, -, -, hsevers⟩ := hmemory
    obtain ⟨-, -, hfails⟩ := hsevers hopen
    obtain ⟨hresults, -⟩ := hfails [.deed (.load "1234" "5678")]
      fun act hact => .inl (.inr ⟨_, List.mem_singleton.1 hact⟩)
    have hend : (tell (.ofSize []) [.deed (.save (c 3))] 1 []).2.2 = [Row.ofCharacter (c 3)] := by
      decide +kernel
    rw [← hshown] at hend
    exact ⟨hend, hresults _ (List.mem_singleton.2 rfl)⟩

end CharacterLedger.Ledger
