import Mathlib.Data.List.Nodup
import CharacterLedger.Proofs.Ledger.CorruptRows

/-!
# Quarantine

Whatever the rows of a table hold, a run of orders comes to the same without its corrupt rows: the
orders on their characters are refused and do nothing, and no other order can tell that they are
there.  Nor can anybody tell a row whose cells stand for ratings from the row of the record with these
ratings, which it becomes with the first adjustment.

* `Unnoticed` — a change of tables that makes no difference to some orders, whether they are carried
  out at once (`Unnoticed.atOnce`) or one after the other (`Unnoticed.oneByOne`);
* `without`, `asRecord` — two such changes: the row of a character is left out, and a row is replaced
  by that of the record that it holds;
* `oneByOne_others` — orders one after the other, among them some on a corrupt row;
* `ComesTo` — what orders come to one after the other, in every world that serves;
* `IsLeftAlone`, `IsSetAside` — what a run does to a corrupt row, and what comes of any orders one
  after the other where such a row is;
* `Run.quarantines` — runs of orders on tables with any rows;
* `Run.not_all_refused_as_corrupt` — and corrupt rows that are refused for other reasons.
-/

namespace CharacterLedger

open CharacterLedger.Table

namespace Table

/-! ### Other tables with a row put in its place -/

namespace CharacterTable

/-- Whether a row stays or goes by its key, another that stays can be put in its place before. -/
theorem filter_replaceRow {r : Row} {stays : Row → Bool} (hr : stays r = true)
    (hkey : ∀ s : Row, s.key = r.key → stays s = true) (rows : List Row) :
    (replaceRow r rows).filter stays = replaceRow r (rows.filter stays) := by
  induction rows with
  | nil => simp [replaceRow, hr]
  | cons s rows ih =>
    by_cases hplace : s.hasKey r.channel r.user = true
    · have hs := hkey s ((Row.hasKey_iff_key ..).1 hplace)
      simp [replaceRow, hplace, hr, hs]
    · cases hs : stays s <;> simp [replaceRow, hplace, hs, ih]

/-- Rows may be changed before or after one is put in its place, as long as they keep their keys. -/
theorem map_replaceRow {change : Row → Row} (hkey : ∀ s, (change s).key = s.key) (r : Row)
    (rows : List Row) :
    (replaceRow r rows).map change = replaceRow (change r) (rows.map change) := by
  have hplace : ∀ s, (change s).hasKey (change r).channel (change r).user =
      s.hasKey r.channel r.user := by
    intro s
    rw [Bool.eq_iff_iff, Row.hasKey_iff_key, Row.hasKey_iff_key, hkey,
      show ((change r).channel, (change r).user) = (r.channel, r.user) from hkey r]
  induction rows with
  | nil => rfl
  | cons s rows ih =>
    cases hs : s.hasKey r.channel r.user <;> simp [replaceRow, hplace, hs, ih]

end CharacterTable

end Table

namespace Ledger

open CharacterLedger.Storage CharacterLedger.Dice

/-! ### Other tables that look the same -/

/-- A change of tables that no order on the characters in question can tell: the record that it
reads is the same, and the record that it writes is put in the same place. -/
structure Unnoticed (about : String × String → Prop) (change : List Row → List Row) : Prop where
  reads : ∀ (rows : List Row) (x y : String), about (x, y) →
    recordAt (change rows) (.text x) (.text y) = recordAt rows (.text x) (.text y)
  writes : ∀ (rows : List Row) (c : Character), about (c.channel, c.user) →
    change (CharacterTable.replaceRow (Row.ofCharacter c) rows) =
      CharacterTable.replaceRow (Row.ofCharacter c) (change rows)

/-- An order on a character with a key of texts is about these texts. -/
theorem Order.character?_of_plan {o : Order} {x y : String} {use : Use}
    (h : o.plan = .withCharacter (.text x) (.text y) use) : o.character? = some (x, y) := by
  simp only [character?, h]
  rfl

/-- The record that is written for a character is that of the character. -/
theorem key_of_adjust {rows : List Row} {x y : String} {c changed : Character} {a : Action}
    {delta : Value} {adjustment : Adjustment}
    (hrecord : recordAt rows (.text x) (.text y) = .ok c)
    (hadjust : Task.adjust c a delta = .ok (adjustment, changed)) :
    (changed.channel, changed.user) = (x, y) := by
  obtain ⟨-, hfield, -⟩ := Task.adjust_eq_ok hadjust
  obtain ⟨hchannel, huser, -⟩ := (Character.withField_eq_ok_iff _ _).1 hfield
  obtain ⟨hx, hy⟩ := key_of_recordAt_text hrecord
  rw [hchannel, huser, hx, hy]

section Views

variable {about : String × String → Prop} {change : List Row → List Row} {o : Order}

/-- **An order does the same to a table that looks the same.** -/
theorem Unnoticed.atOnce (h : Unnoticed about change) (ho : o.HasTexts)
    (habout : ∀ key, o.character? = some key → about key) (rows : List Row) (dice : Entropy) :
    o.atOnce (change rows) dice = ((o.atOnce rows dice).1, change (o.atOnce rows dice).2.1,
      (o.atOnce rows dice).2.2) := by
  unfold Order.atOnce
  cases hplan : o.plan with
  | refuse e => rfl
  | rollDice n => simp only [rolled_eq]
  | withCharacter channel user use =>
    obtain ⟨x, y, rfl, rfl⟩ := ho channel user use hplan
    have hkey := habout (x, y) (Order.character?_of_plan hplan)
    dsimp only
    rw [h.reads rows x y hkey]
    cases hrecord : recordAt rows (.text x) (.text y) with
    | error e => rfl
    | ok c =>
      cases use with
      | rating | view => rfl
      | resist => simp only [Use.apply, rolled_eq]
      | roll a bonus =>
        simp only [Use.apply]
        cases Value.plus (c.rating a).toInt bonus with
        | error m => rfl
        | ok pool => simp only [rolled_eq]
      | adjust a delta =>
        simp only [Use.apply]
        cases hadjust : Task.adjust c a delta with
        | error e => rfl
        | ok made =>
          obtain ⟨adjustment, changed⟩ := made
          simp only
          rw [h.writes rows changed (key_of_adjust hrecord hadjust ▸ hkey)]

/-- So do any number of orders. -/
theorem Unnoticed.oneByOne (h : Unnoticed about change) {orders : List Order}
    (hos : ∀ o ∈ orders, o.HasTexts ∧ ∀ key, o.character? = some key → about key)
    (rows : List Row) (dice : Entropy) :
    oneByOne orders (change rows) dice = ((oneByOne orders rows dice).1,
      change (oneByOne orders rows dice).2.1, (oneByOne orders rows dice).2.2) := by
  induction orders generalizing rows dice with
  | nil => rfl
  | cons o rest ih =>
    obtain ⟨ho, habout⟩ := hos o List.mem_cons_self
    have hrest := ih fun j hj => hos j (List.mem_cons_of_mem o hj)
    simp only [Ledger.oneByOne, h.atOnce ho habout, hrest]

end Views

/-- The rows of all other characters. -/
def without (key : String × String) (rows : List Row) : List Row :=
  rows.filter fun r => r.key ≠ key

/-- Orders on other characters cannot tell that a row is not there. -/
theorem unnoticed_without (key : String × String) : Unnoticed (· ≠ key) (without key) where
  reads := by
    intro rows x y hne
    have hfind : (without key rows).find? (fun r => r.hasKey x y) =
        rows.find? fun r => r.hasKey x y := by
      rw [without, List.find?_filter]
      congr 1
      funext r
      cases hr : r.hasKey x y with
      | false => simp
      | true => simpa [(Row.hasKey_iff_key r x y).1 hr] using hne
    rw [recordAt, recordAt, rowAt_text, rowAt_text, hfind]
  writes := by
    intro rows c hne
    have hkept : (Row.ofCharacter c).key ≠ key := hne
    refine CharacterTable.filter_replaceRow (decide_eq_true hkept) ?_ rows
    intro s hs
    rw [hs]
    exact decide_eq_true hkept

/-- A row, or that of a record in the place of the row that holds it. -/
def asRecord (r : Row) (c : Character) (s : Row) : Row := if s = r then Row.ofCharacter c else s

theorem key_asRecord {r : Row} {c : Character} (h : r.Holds c) (s : Row) :
    (asRecord r c s).key = s.key := by
  unfold asRecord
  split
  · next hs =>
    rw [hs]
    exact Prod.ext h.channel h.user
  · rfl

theorem toCharacter_asRecord {r : Row} {c : Character} (h : r.Holds c) (channel user : Value)
    (s : Row) :
    (Row.toCharacter channel user (asRecord r c s)).2 = (Row.toCharacter channel user s).2 := by
  unfold asRecord
  split
  · next hs =>
    rw [hs, Row.toCharacter_ofCharacter, (Row.toCharacter_eq_ok_iff_holds ..).2 h]
  · rfl

/-- **Nobody can tell a row from that of the record that it holds.** -/
theorem unnoticed_asRecord {r : Row} {c : Character} (h : r.Holds c) :
    Unnoticed (fun _ => True) (List.map (asRecord r c)) where
  reads := by
    intro rows x y _
    have hfind : (rows.map (asRecord r c)).find? (fun s => s.hasKey x y) =
        (rows.find? fun s => s.hasKey x y).map (asRecord r c) := by
      rw [List.find?_map]
      congr 2
      funext s
      rw [Function.comp_apply, Bool.eq_iff_iff, Row.hasKey_iff_key, Row.hasKey_iff_key,
        key_asRecord h]
    rw [recordAt, recordAt, rowAt_text, rowAt_text, hfind]
    cases rows.find? fun s => s.hasKey x y with
    | none => rfl
    | some s => exact toCharacter_asRecord h _ _ s
  writes := by
    intro rows d _
    rw [CharacterTable.map_replaceRow (key_asRecord h)]
    congr 1
    unfold asRecord
    split
    · next hd => rw [Row.Holds.unique h (hd ▸ Row.holds_ofCharacter d)]
    · rfl

/-! ### Orders one after the other, with a corrupt row -/

section Corrupt

variable {r : Row} {o : Order} {rows : List Row}

/-- An order that is carried out at once on the character of a corrupt row does nothing. -/
theorem atOnce_of_isCorrupt (hcorrupt : r.IsCorrupt) (hkey : o.character? = some r.key)
    (hrow : rowAt rows (.text r.channel) (.text r.user) = some r) (dice : Entropy) :
    o.atOnce rows dice = (.error (refusal r), rows, dice) := by
  obtain ⟨channel, user, use, hplan, htexts⟩ := Order.character?_eq_some hkey
  have hrecord : recordAt rows channel user = .error (refusal r) := by
    rw [recordAt, rowAt_of_keyTexts htexts]
    rw [show rowAt rows (.text r.key.1) (.text r.key.2) = some r from hrow]
    exact Row.toCharacter_of_isCorrupt hcorrupt channel user
  simp only [Order.atOnce, hplan, hrecord]

/-- An order that is carried out at once writes the record of its own character, if any. -/
theorem rows_atOnce (ho : o.HasTexts) (rows : List Row) (dice : Entropy) :
    (o.atOnce rows dice).2.1 = rows ∨
      ∃ c : Character, o.character? = some (c.channel, c.user) ∧
        (o.atOnce rows dice).2.1 = CharacterTable.replaceRow (Row.ofCharacter c) rows := by
  unfold Order.atOnce
  cases hplan : o.plan with
  | refuse e => exact .inl rfl
  | rollDice n => exact .inl (by simp only [rolled_eq])
  | withCharacter channel user use =>
    obtain ⟨x, y, rfl, rfl⟩ := ho channel user use hplan
    dsimp only
    cases hrecord : recordAt rows (.text x) (.text y) with
    | error e => exact .inl rfl
    | ok c =>
      cases use with
      | rating | view => exact .inl rfl
      | resist => exact .inl (by simp only [Use.apply, rolled_eq])
      | roll a bonus =>
        simp only [Use.apply]
        cases Value.plus (c.rating a).toInt bonus with
        | error m => exact .inl rfl
        | ok pool => exact .inl (by simp only [rolled_eq])
      | adjust a delta =>
        simp only [Use.apply]
        cases hadjust : Task.adjust c a delta with
        | error e => exact .inl rfl
        | ok made =>
          obtain ⟨adjustment, changed⟩ := made
          refine .inr ⟨changed, ?_, rfl⟩
          rw [key_of_adjust hrecord hadjust]
          exact Order.character?_of_plan hplan

/-- The orders on other characters or on none, with what they have ended in. -/
def others (key : String × String) (told : List (Order × Except Error Reply)) :
    List (Order × Except Error Reply) :=
  told.filter fun e => e.1.character? ≠ some key

/-- **A corrupt row is as good as none to all other orders**, one after the other, and those on its
character do nothing. -/
theorem oneByOne_others {told : List (Order × Except Error Reply)} {rows' : List Row}
    {dice dice' : Entropy} (hcorrupt : r.IsCorrupt)
    (hrow : rowAt rows (.text r.channel) (.text r.user) = some r)
    (htexts : ∀ e ∈ told, e.1.HasTexts)
    (h : oneByOne (told.map Prod.fst) rows dice = (told.map Prod.snd, rows', dice')) :
    (∀ e ∈ told, e.1.character? = some r.key → e.2 = .error (refusal r)) ∧
      oneByOne ((others r.key told).map Prod.fst) (without r.key rows) dice =
        ((others r.key told).map Prod.snd, without r.key rows', dice') := by
  induction told generalizing rows dice with
  | nil =>
    cases h
    exact ⟨(fun _ he => nomatch he), rfl⟩
  | cons first rest ih =>
    obtain ⟨o, result⟩ := first
    have ho : o.HasTexts := htexts (o, result) List.mem_cons_self
    simp only [List.map_cons, oneByOne] at h
    rcases hfirst : o.atOnce rows dice with ⟨result₁, rows₁, dice₁⟩
    rcases hrest : oneByOne (rest.map Prod.fst) rows₁ dice₁ with ⟨results, rows₂, dice₂⟩
    simp only [hfirst, hrest, Prod.mk.injEq, List.cons.injEq] at h
    obtain ⟨⟨rfl, rfl⟩, rfl, rfl⟩ := h
    have htexts' : ∀ e ∈ rest, e.1.HasTexts := fun e he => htexts e (List.mem_cons_of_mem _ he)
    by_cases hkey : o.character? = some r.key
    · rw [atOnce_of_isCorrupt hcorrupt hkey hrow] at hfirst
      cases hfirst
      obtain ⟨hrefused, hothers⟩ := ih hrow htexts' hrest
      refine ⟨?_, ?_⟩
      · intro e he hekey
        obtain rfl | he := List.mem_cons.1 he
        · rfl
        · exact hrefused e he hekey
      · simpa [others, hkey] using hothers
    · have hrow₁ : rowAt rows₁ (.text r.channel) (.text r.user) = some r := by
        have hrows := rows_atOnce ho rows dice
        rw [hfirst] at hrows
        obtain hsame | ⟨c, hc, hwritten⟩ := hrows
        · rw [show rows₁ = rows from hsame]
          exact hrow
        · rw [show rows₁ = _ from hwritten, rowAt_replaceRow_of_ne]
          · exact hrow
          · intro hsame
            exact hkey (hc.trans (congrArg some hsame))
      obtain ⟨hrefused, hothers⟩ := ih hrow₁ htexts' hrest
      refine ⟨?_, ?_⟩
      · intro e he hekey
        obtain rfl | he := List.mem_cons.1 he
        · exact absurd hekey hkey
        · exact hrefused e he hekey
      · have hunnoticed := (unnoticed_without r.key).atOnce ho
          (fun key hsome hsame => hkey (hsame ▸ hsome)) rows dice
        rw [hfirst] at hunnoticed
        have hhead : others r.key ((o, result₁) :: rest) = (o, result₁) :: others r.key rest := by
          simp [others, hkey]
        rw [hhead]
        simp only [List.map_cons, oneByOne, hunnoticed, hothers]

end Corrupt

/-- Two texts can always be written. -/
theorem Order.isWritable_of_view {o : Order} {x y : String}
    (h : o.intent = .view (.text x) (.text y)) : o.isWritable = true := by
  cases o with
  | method => rfl
  | command i =>
    cases (show i = _ from h)
    rfl

/-- **An adjustment that succeeds writes the whole record**: every cell of the row is an integer from
0 to 4, and whoever looks at the character is shown these ratings. -/
theorem atOnce_of_adjusted {o : Order} {x y : String} {name delta : Value} {reply : Reply}
    {rows rows' : List Row} {dice dice' : Entropy}
    (hadjusts : o.intent = .adjust (.text x) (.text y) name delta)
    (h : o.atOnce rows dice = (.ok reply, rows', dice')) :
    ∃ c : Character, rowAt rows' (.text x) (.text y) = some (Row.ofCharacter c) ∧
      (Row.ofCharacter c).IsValid ∧
      ∀ (v : Order) (dice : Entropy), v.intent = .view (.text x) (.text y) →
        v.atOnce rows' dice = (.ok (.character c), rows', dice) := by
  simp only [Order.atOnce, Order.plan_of_writable (isWritable_of_ok h), hadjusts, Intent.plan] at h
  cases hname : readAction name with
  | error e => simp [hname] at h
  | ok a =>
    simp only [hname] at h
    cases hrecord : recordAt rows (.text x) (.text y) with
    | error e => simp [hrecord] at h
    | ok c =>
      simp only [hrecord, Use.apply] at h
      cases hadjust : Task.adjust c a delta with
      | error e => simp [hadjust] at h
      | ok made =>
        obtain ⟨adjustment, changed⟩ := made
        simp only [hadjust, Prod.mk.injEq] at h
        obtain ⟨-, rfl, -⟩ := h
        have hkey := key_of_adjust hrecord hadjust
        have hwritten : rowAt (CharacterTable.replaceRow (Row.ofCharacter changed) rows)
            (.text x) (.text y) = some (Row.ofCharacter changed) := by
          rw [rowAt_text, CharacterTable.find?_replaceRow, if_pos]
          exact (Row.hasKey_iff_key ..).2 hkey
        refine ⟨changed, hwritten, Row.isValid_ofCharacter changed, ?_⟩
        intro v dice hviews
        have hread : recordAt (CharacterTable.replaceRow (Row.ofCharacter changed) rows)
            (.text x) (.text y) = .ok changed := by
          rw [recordAt, hwritten]
          exact Row.toCharacter_ofCharacter ..
        simp only [Order.atOnce, Order.plan_of_writable (Order.isWritable_of_view hviews), hviews,
          Intent.plan, hread]
        rfl

/-! ### Runs on tables with any rows -/

/-- There is a world that serves with any rows and any dice. -/
theorem World.exists_serves (rows : List Row) (dice : Entropy) :
    ∃ w : World, w.Serves 0 0 ∧ w.store.rows = rows ∧ w.entropy = dice := by
  obtain ⟨w, -, hserves, -, hdice⟩ := exists_serves_memory 1 dice
  have hset := hserves.store.setContent (e := ⟨1, some ⟨rows, []⟩⟩) rfl rfl
  refine ⟨{ w with store := _ }, ⟨hset.1, hserves.locks⟩, ?_, hdice⟩
  rw [Store.rows, hset.2]
  rfl

/-- Orders end in what is told of them when they are carried out one after the other on these rows
and dice, and leave those rows and dice: at once, and step by step in every world that serves, of
which there are some with these rows and dice. -/
structure ComesTo (told : List (Order × Except Error Reply)) (rows : List Row) (dice : Entropy)
    (rows' : List Row) (dice' : Entropy) : Prop where
  atOnce : oneByOne (told.map Prod.fst) rows dice = (told.map Prod.snd, rows', dice')
  served : ∃ w : World, w.Serves 0 0 ∧ w.store.rows = rows ∧ w.entropy = dice
  inTurn : ∀ (w : World) (file q : Nat), w.Serves file q → w.store.rows = rows → w.entropy = dice →
    ∃ w', executeInTurn (told.map Prod.fst) w = (told.map Prod.snd, w') ∧ w'.Serves file q ∧
      w'.store.rows = rows' ∧ w'.entropy = dice'

theorem ComesTo.of_atOnce {told : List (Order × Except Error Reply)} {rows rows' : List Row}
    {dice dice' : Entropy} (htexts : ∀ e ∈ told, e.1.HasTexts)
    (h : oneByOne (told.map Prod.fst) rows dice = (told.map Prod.snd, rows', dice')) :
    ComesTo told rows dice rows' dice' := by
  refine ⟨h, World.exists_serves rows dice, ?_⟩
  rintro w file q hserves rfl rfl
  have hos : ∀ o ∈ told.map Prod.fst, o.HasTexts := by
    intro o ho
    obtain ⟨e, he, rfl⟩ := List.mem_map.1 ho
    exact htexts e he
  obtain ⟨w', hexecute, hserves', hrows, hdice⟩ := hserves.executeInTurn hos
  rw [h] at hexecute hrows hdice
  exact ⟨w', hexecute, hserves', hrows, hdice⟩

/-- A row in its place that is left alone by all orders, and that those on its character are refused
for: their steps write nothing and draw no dice. -/
structure IsLeftAlone (r : Row) (orders : List Order) (s : System) : Prop where
  stays : rowAt s.rows (.text r.channel) (.text r.user) = some r
  refuses : ∀ (id : Nat) (o : Order) (choice : Choice) (s' : System), orders[id]? = some o →
    o.character? = some r.key → s.step id choice = some s' →
      s'.rows = s.rows ∧ s'.world.entropy = s.world.entropy ∧
        ∀ result, s'.result? id = some result →
          IsRefused r (VisitFails id choice s.world.store (s.visits id)) result

/-- Rows with keys of their own are found by them. -/
theorem rowAt_of_mem {r : Row} {rows : List Row} (hkeys : (rows.map Row.key).Nodup)
    (hr : r ∈ rows) : rowAt rows (.text r.channel) (.text r.user) = some r := by
  have hhas : r.hasKey r.channel r.user = true := (Row.hasKey_iff_key ..).2 rfl
  rw [rowAt_text]
  cases hfound : rows.find? fun s => s.hasKey r.channel r.user with
  | none => exact absurd hhas (List.find?_eq_none.1 hfound r hr)
  | some s =>
    have hhas' : s.hasKey r.channel r.user = true :=
      List.find?_some (p := fun s : Row => s.hasKey r.channel r.user) hfound
    have hkey : s.key = r.key := (Row.hasKey_iff_key ..).1 hhas'
    rw [List.inj_on_of_nodup_map hkeys (List.mem_of_find?_eq_some hfound) hr hkey]

/-- A corrupt row among rows where nobody is about to do anything: whatever orders come one after the
other, those on its character end in its refusal, and the others come to the same without it. -/
def IsSetAside (r : Row) (rows : List Row) : Prop :=
  ∀ (orders : List Order) (dice : Entropy), (∀ o ∈ orders, o.HasTexts) →
    ∃ told rows' dice', told.map Prod.fst = orders ∧ ComesTo told rows dice rows' dice' ∧
      (∀ e ∈ told, e.1.character? = some r.key → e.2 = .error (refusal r)) ∧
      ComesTo (others r.key told) (without r.key rows) dice (without r.key rows') dice'

/-- There are as many results as orders. -/
theorem length_oneByOne (orders : List Order) (rows : List Row) (dice : Entropy) :
    (oneByOne orders rows dice).1.length = orders.length := by
  induction orders generalizing rows dice with
  | nil => rfl
  | cons o rest ih => simp only [oneByOne, List.length_cons, ih]

/-- **A corrupt row in its place is set aside.** -/
theorem isSetAside_of_isCorrupt {r : Row} {rows : List Row} (hcorrupt : r.IsCorrupt)
    (hrow : rowAt rows (.text r.channel) (.text r.user) = some r) : IsSetAside r rows := by
  intro orders dice htexts
  rcases hcome : oneByOne orders rows dice with ⟨results, rows', dice'⟩
  have hlength : results.length = orders.length := by
    have hcounted := length_oneByOne orders rows dice
    rwa [hcome] at hcounted
  have hfst : (orders.zip results).map Prod.fst = orders :=
    List.map_fst_zip (Nat.le_of_eq hlength.symm)
  have hsnd : (orders.zip results).map Prod.snd = results :=
    List.map_snd_zip (Nat.le_of_eq hlength)
  generalize orders.zip results = told at hfst hsnd
  subst hfst hsnd
  have htold : ∀ e ∈ told, e.1.HasTexts := fun e he => htexts e.1 (List.mem_map_of_mem he)
  obtain ⟨hrefused, hothers⟩ := oneByOne_others hcorrupt hrow htold hcome
  exact ⟨told, rows', dice', rfl, .of_atOnce htold hcome, hrefused,
    .of_atOnce (fun e he => htold e (List.mem_of_mem_filter he)) hothers⟩

/-- **Corrupt rows are quarantined**, in every run of orders on a table with any rows.  A corrupt row
stays as it is, and the orders on its character are refused without a write or a roll: as corrupt if
it can be fetched, and with the fault of fetching it otherwise.  All other orders come to the same
without it.  A row whose cells stand for ratings is as good as the row of the record, and an adjustment
that succeeds leaves a row of twelve ratings that is shown from then on. -/
theorem Run.quarantines {w : World} {orders : List Order} {es : List Event} {s : System}
    (hrest : w.AtRest) (hone : w.store.OneDatabase) (hkeys : (w.store.rows.map Row.key).Nodup)
    (hrun : Run (System.start w (orders.map .execute)) es s) :
    (∀ r ∈ w.store.rows, r.IsCorrupt →
      IsLeftAlone r orders s ∧ IsSetAside r s.rows ∧ (refusal r).key? =
        some (if r.fault?.isSome then "storage_error" else "storage_corrupt_record")) ∧
    ((∀ o ∈ orders, o.HasTexts) →
      (∀ id o result, orders[id]? = some o → s.result? id = some result →
        isTurnedAway result = false → (o, result) ∈ carriedOut orders es) ∧
      ComesTo (carriedOut orders es) w.store.rows w.entropy s.rows s.world.entropy ∧
      (∀ r ∈ w.store.rows, r.IsCorrupt →
        (∀ e ∈ carriedOut orders es, e.1.character? = some r.key →
          e.2 = .error (refusal r)) ∧
        ComesTo (others r.key (carriedOut orders es)) (without r.key w.store.rows) w.entropy
          (without r.key s.rows) s.world.entropy) ∧
      (∀ r ∈ w.store.rows, ¬ r.IsCorrupt → ∃ c, r.Holds c ∧
        ComesTo (carriedOut orders es) (w.store.rows.map (asRecord r c)) w.entropy
          (s.rows.map (asRecord r c)) s.world.entropy) ∧
      ∀ id o x y name delta choice s' reply, orders[id]? = some o →
        o.intent = .adjust (.text x) (.text y) name delta →
        s.step id choice = some s' → s'.result? id = some (.ok reply) →
        ∃ c : Character, rowAt s'.rows (.text x) (.text y) = some (Row.ofCharacter c) ∧
          (Row.ofCharacter c).IsValid ∧
          ∀ v dice, v.intent = .view (.text x) (.text y) →
            ComesTo [(v, .ok (.character c))] s'.rows dice s'.rows dice) := by
  have hsound := System.sound_start_orders hrest orders
  have hdatabase := System.oneDatabase_start_orders hone orders
  have hcalls : s.calls = orders.map .execute := by
    rw [hrun.calls, System.calls_start]
  refine ⟨?_, ?_⟩
  · intro r hr hcorrupt
    have hquarantined := hrun.quarantined hsound hdatabase hcorrupt (rowAt_of_mem hkeys hr)
    refine ⟨⟨hquarantined.row, ?_⟩, isSetAside_of_isCorrupt hcorrupt hquarantined.row,
      key?_refusal r⟩
    intro id o choice s' ho hkey hstep
    refine hquarantined.refuses hcorrupt (hrun.sound hsound) (hrun.oneDatabase hsound hdatabase)
      hstep ?_ hkey
    rw [hcalls, List.getElem?_map, ho, Option.map_some]
  · intro htexts
    have hlinear := hrun.linear hrest hone htexts
    have htold : ∀ e ∈ carriedOut orders es, e.1.HasTexts := by
      intro e he
      obtain ⟨id, ho, -⟩ := mem_carriedOut.1 he
      exact htexts e.1 (List.mem_of_getElem? ho)
    refine ⟨?_, .of_atOnce htold hlinear.replayed, ?_, ?_, ?_⟩
    · intro id o result ho hresult haway
      exact mem_carriedOut.2 ⟨id, ho, (hlinear.results id result).2 hresult, haway⟩
    · intro r hr hcorrupt
      obtain ⟨hrefused, hothers⟩ :=
        oneByOne_others hcorrupt (rowAt_of_mem hkeys hr) htold hlinear.replayed
      refine ⟨hrefused, .of_atOnce ?_ hothers⟩
      intro e he
      exact htold e (List.mem_of_mem_filter he)
    · intro r _ hreadable
      obtain ⟨c, hholds⟩ := (Row.isCorrupt_or_holds r).resolve_left hreadable
      refine ⟨c, hholds, .of_atOnce htold ?_⟩
      rw [(unnoticed_asRecord hholds).oneByOne, hlinear.replayed]
      intro o ho
      obtain ⟨e, he, rfl⟩ := List.mem_map.1 ho
      exact ⟨htold e he, fun _ _ => trivial⟩
    · intro id o x y name delta choice s' reply ho hadjusts hstep hresult
      have hacts := hlinear.acts (hrun.sound hsound) (hrun.oneDatabase hsound hdatabase) htexts
        hcalls hstep ho
      rw [hresult] at hacts
      cases hacts with
      | turnedAway away => cases away
      | atOnce effect =>
        obtain ⟨c, hrow, hvalid, hshown⟩ := atOnce_of_adjusted hadjusts effect
        refine ⟨c, hrow, hvalid, ?_⟩
        intro v dice hviews
        refine .of_atOnce ?_ ?_
        · intro e he
          obtain rfl := List.mem_singleton.1 he
          exact Order.hasTexts_of_view hviews
        · simp only [List.map_cons, List.map_nil, oneByOne, hshown v dice hviews]

/-- A row with a text that writes no number among its cells. -/
def garbledRow : Row :=
  ⟨"c", "u", .ofFn fun a => if a = .hack then .text "many" else .integer 2⟩

/-- A row whose cells stand for ratings without being integers. -/
def looseRow : Row :=
  ⟨"c", "v", .ofFn fun a =>
    if a = .hack then .text "0_3" else if a = .rig then .real (.ofInt 2) else .blob [0x20, 0x31]⟩

/-- The record that it holds. -/
def looseCharacter : Character :=
  ⟨"c", "v", .ofFn fun a => Rating.clamp (if a = .hack then 3 else if a = .rig then 2 else 1)⟩

theorem isCorrupt_garbledRow : garbledRow.IsCorrupt :=
  Row.isCorrupt_of_unread .hack (by decide +kernel)

theorem holds_looseRow : looseRow.Holds looseCharacter := by
  rw [← Row.toCharacter_eq_ok_iff_holds .null .null]
  have hread : (Row.toCharacter .null .null looseRow).2.toOption = some looseCharacter := by
    decide +kernel
  cases h : (Row.toCharacter .null .null looseRow).2 with
  | error e =>
    rw [h] at hread
    cases hread
  | ok c =>
    rw [h] at hread
    exact congrArg _ (Option.some.inj hread)

/-- A roll for the first of them, on a rating that can be read, and an adjustment of the other. -/
def garbledOrders : List Order :=
  [.command (.roll (.text "c") (.text "u") (.text "rig") (.int 0)),
    .command (.adjust (.text "c") (.text "v") (.text "hack") (.int 2))]

/-- The roll ends before the adjustment begins.  The adjustment is shown before its last step, and
behind it. -/
theorem Run.quarantines_of_garbled :
    let w := World.withRows [garbledRow, looseRow] 1 (.script 0 [.int 6])
    let start := System.start w (garbledOrders.map .execute)
    ∃ es s es' s', Run start es s ∧ s.step 1 .go = some s' ∧ Run start es' s' ∧
      (s'.result? 0).map key? = some (some "storage_corrupt_record") ∧
      IsLeftAlone garbledRow garbledOrders s' ∧
      ComesTo (others garbledRow.key (carriedOut garbledOrders es')) [looseRow] w.entropy
        (without garbledRow.key s'.rows) s'.world.entropy ∧
      (∃ c, looseRow.Holds c ∧ ComesTo (carriedOut garbledOrders es')
        [garbledRow, Row.ofCharacter c] w.entropy (s'.rows.map (asRecord looseRow c))
        s'.world.entropy) ∧
      ∃ c : Character, rowAt s'.rows (.text "c") (.text "v") = some (Row.ofCharacter c) ∧
        (Row.ofCharacter c).IsValid := by
  intro w start
  have htexts : ∀ o ∈ garbledOrders, o.HasTexts := by
    intro o ho channel user use hplan
    obtain rfl | rfl : o = garbledOrders[0] ∨ o = garbledOrders[1] := by
      simpa [garbledOrders] using ho
    all_goals
      cases Order.plan_eq hplan fun _ h => nomatch h
      exact ⟨_, _, rfl, rfl⟩
  have hkeys : (w.store.rows.map Row.key).Nodup := by decide +kernel
  have hends : (start.follow (List.replicate 9 (0, .go) ++ List.replicate 11 (1, .go))).bind
      (fun r => (r.2.step 1 .go).map fun s' =>
        ((s'.result? 0).map key?, (s'.result? 1).map Except.isOk)) =
      some (some (some "storage_corrupt_record"), some true) := by decide +kernel
  obtain ⟨⟨es, s⟩, hfollow, hends⟩ := Option.bind_eq_some_iff.1 hends
  obtain ⟨s', hstep, hends⟩ := Option.map_eq_some_iff.1 hends
  obtain ⟨hkey, hadjusted⟩ := Prod.mk.inj hends
  obtain ⟨result, hresult, hok⟩ := Option.map_eq_some_iff.1 hadjusted
  have hrun : Run start es s := Run.start.of_follow hfollow
  have hrun' : Run start (es ++ s.events s' 1) s' := hrun.step hstep
  obtain ⟨-, hbefore⟩ := hrun.quarantines (World.atRest_world ..) (World.oneDatabase_withRows ..)
    hkeys
  obtain ⟨halone, hafter⟩ := hrun'.quarantines (World.atRest_world ..)
    (World.oneDatabase_withRows ..) hkeys
  obtain ⟨-, -, -, -, hadjusts⟩ := hbefore htexts
  obtain ⟨-, -, hcorrupt, hloose, -⟩ := hafter htexts
  refine ⟨es, s, _, s', hrun, hstep, hrun', hkey,
    (halone garbledRow List.mem_cons_self isCorrupt_garbledRow).1,
    (hcorrupt garbledRow List.mem_cons_self isCorrupt_garbledRow).2,
    hloose looseRow (List.mem_cons_of_mem _ List.mem_cons_self) holds_looseRow.not_isCorrupt, ?_⟩
  cases result with
  | error e => cases hok
  | ok reply =>
    obtain ⟨c, hrow, hvalid, -⟩ := hadjusts 1 _ "c" "v" _ _ .go s' reply rfl rfl hstep hresult
    exact ⟨c, hrow, hvalid⟩

/-- A row with a text that is not UTF-8 among its cells. -/
def undecodableRow : Row :=
  ⟨"c", "u", .ofFn fun a => if a = .hack then .undecodable [0xff] (by decide +kernel) else .integer 2⟩

theorem isCorrupt_undecodableRow : undecodableRow.IsCorrupt :=
  Row.isCorrupt_of_unread .hack (by decide +kernel)

/-- The fault of the store that a call has ended with. -/
def storeFault? : Except Error Reply → Option Fault
  | .error (.storage (.failed f)) => some f
  | _ => none

/-- A run of one call in which it ends with a fault of the store. -/
theorem exists_run_of_storeFault {start : System} {f : Fault} (turns : List (Nat × Choice))
    (h : (start.follow turns).map (fun r => (r.2.result? 0).map storeFault?) =
      some (some (some f))) :
    ∃ es s, Run start es s ∧ s.result? 0 = some (.error (.storage (.failed f))) := by
  obtain ⟨es, s, hrun, hview⟩ := Run.exists_of_view (fun s => (s.result? 0).map storeFault?) h
  obtain ⟨result, hresult, hfault⟩ := Option.map_eq_some_iff.1 hview
  refine ⟨es, s, hrun, hresult.trans ?_⟩
  unfold storeFault? at hfault
  split at hfault
  · rw [Option.some.inj hfault]
  · cases hfault

/-- A roll on a rating that can be read from the rows below. -/
def soundRoll : Order := .command (.roll (.text "c") (.text "u") (.text "rig") (.int 0))

/-- **Not every corrupt row is reported as one.**  A roll on a rating that can be read fails with the
fault of fetching the row, of which another cell is undecodable; and it fails with that of the
statement if the store is locked, though the row can be fetched. -/
theorem Run.not_all_refused_as_corrupt :
    (undecodableRow.IsCorrupt ∧ soundRoll.character? = some undecodableRow.key ∧
      ∃ es s, Run (System.start (World.withRows [undecodableRow] 1 (.script 0 []))
          [.execute soundRoll]) es s ∧
        s.result? 0 = some (.error (.storage (.failed (.undecodable "hack" [0xff]))))) ∧
    garbledRow.IsCorrupt ∧ soundRoll.character? = some garbledRow.key ∧
      ∃ es s, Run (System.start (World.withRows [garbledRow] 1 (.script 0 []))
          [.execute soundRoll]) es s ∧
        s.result? 0 = some (.error (.storage (.failed .locked))) := by
  refine ⟨⟨isCorrupt_undecodableRow, by decide +kernel, ?_⟩, isCorrupt_garbledRow,
    by decide +kernel, ?_⟩
  · exact exists_run_of_storeFault (List.replicate 9 (0, .go)) (by decide +kernel)
  · exact exists_run_of_storeFault (List.replicate 7 (0, .go) ++ [(0, .fail .locked)])
      (by decide +kernel)

end Ledger

end CharacterLedger
