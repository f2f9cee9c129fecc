import CharacterLedger.Proofs.Dice.Faces
import CharacterLedger.Proofs.Ledger.Alone
import CharacterLedger.Proofs.Ledger.Reference
import Mathlib.Data.List.Forall2

/-!
# The ledger and the reference machine

Requests that are commanded one after the other, in a world that serves, come to what the reference
machine says they come to.  The table is an image of the ratings of the machine: a character without
a row has ratings of zero.

* `image` — the ratings that a table stands for;
* `Agrees` — a reply says the same as an answer of the machine;
* `Shows` — the rows and the dice are those of the machine;
* `mirrors_atOnce` — one request;
* `refines_reference` — any number of requests.
-/

namespace CharacterLedger.Ledger.Reference

open CharacterLedger.Dice CharacterLedger.Storage CharacterLedger.Table

/-! ### What a table stands for -/

/-- The rating in a cell; what is no integer is no rating. -/
def ratingIn : Cell → Int
  | .integer n => n
  | _ => 0

/-- The ratings that a table stands for, which are zero where there is no row. -/
def image (rows : List Row) (key : String × String) (a : Action) : Int :=
  match rows.find? fun r => r.hasKey key.1 key.2 with
  | some r => ratingIn (r.cells.get a)
  | none => 0

/-- Whether a reply says the same as an answer of the machine. -/
def Agrees : Except Error Reply → Except Refusal Answer → Prop
  | .ok (.outcome o), .ok (.rolled r) =>
    o = ⟨.int r.dice, r.faces.map .int, r.degree, .int r.kept, r.keep⟩
  | .ok (.adjusted v), .ok (.adjusted n) => v = .int n
  | .ok (.character c), .ok (.shown channel user ratings) =>
    c.channel = channel ∧ c.user = user ∧ ∀ a, (c.rating a).toInt = ratings a
  | .error e, .error why => e = why.error
  | _, _ => False

/-- The rows and the dice are those of the machine: the rows are valid and stand for its ratings,
and as many faces have been drawn. -/
structure Shows (dice : Entropy) (m : Machine) (rows : List Row) (left : Entropy) : Prop where
  valid : ∀ r ∈ rows, r.IsValid
  image : image rows = m.ratings
  dice : dice.behind m.drawn = some left

/-- What has come of a request is what comes of it in the machine. -/
def Mirrors (dice : Entropy) (effect : Effect) (done : Except Refusal Answer × Machine) : Prop :=
  Agrees effect.1 done.1 ∧ Shows dice done.2 effect.2.1 effect.2.2

/-! ### Records and rows -/

section Rows

variable {rows : List Row} {channel user : String}

/-- The record of a character has the ratings that the table stands for. -/
theorem exists_recordAt (hrows : ∀ r ∈ rows, r.IsValid) (channel user : String) :
    ∃ c, recordAt rows (.text channel) (.text user) = .ok c ∧ c.channel = channel ∧
      c.user = user ∧ ∀ a, (c.rating a).toInt = image rows (channel, user) a := by
  unfold recordAt image
  rw [rowAt_text]
  cases hfound : rows.find? fun r => r.hasKey channel user with
  | none =>
    refine ⟨.blank channel user, absentCharacter_text channel user, rfl, rfl, ?_⟩
    intro a
    rw [Character.blank_rating]
    rfl
  | some r =>
    have hkey : r.hasKey channel user = true := by simpa using List.find?_some hfound
    obtain ⟨hchannel, huser⟩ := (Row.hasKey_iff r channel user).1 hkey
    have hcell : ∀ a, ∃ n, r.cells.get a = .integer n ∧ (Rating.clamp n).toInt = n := by
      intro a
      obtain ⟨n, hn, hleast, hgreatest⟩ := hrows r (List.mem_of_find?_eq_some hfound) a
      refine ⟨n, hn, ?_⟩
      rw [Rating.toInt_clamp]
      omega
    refine ⟨⟨r.channel, r.user, .ofFn fun a => Rating.clamp (ratingIn (r.cells.get a))⟩, ?_,
      hchannel, huser, ?_⟩
    · refine (Row.toCharacter_eq_ok_iff _ _ r _).2 ⟨rfl, rfl, ?_⟩
      intro a
      obtain ⟨n, hn, hclamp⟩ := hcell a
      have hread := Character.readRating_toInt (Rating.clamp n)
      rw [hclamp] at hread
      rw [Character.rating, Sheet.get_ofFn, hn]
      exact hread
    · intro a
      obtain ⟨n, hn, hclamp⟩ := hcell a
      show (Sheet.get (.ofFn fun a => Rating.clamp (ratingIn (r.cells.get a))) a).toInt =
        ratingIn (r.cells.get a)
      rw [Sheet.get_ofFn, hn]
      exact hclamp

/-- A table with the row of a record stands for the ratings of the record, and for what it stood for
before under every other key. -/
theorem image_replaceRow (c : Character) (rows : List Row) (key : String × String) (a : Action) :
    image (CharacterTable.replaceRow (Row.ofCharacter c) rows) key a =
      if key = (c.channel, c.user) then (c.rating a).toInt else image rows key a := by
  unfold image
  rw [CharacterTable.find?_replaceRow]
  by_cases hkey : (Row.ofCharacter c).hasKey key.1 key.2 = true
  · have : key = (c.channel, c.user) := ((Row.hasKey_iff_key _ key.1 key.2).1 hkey).symm
    rw [if_pos hkey, if_pos this]
    simp [Row.ofCharacter, ratingIn, Character.rating]
  · have : key ≠ (c.channel, c.user) := fun h => hkey ((Row.hasKey_iff_key _ key.1 key.2).2 h.symm)
    rw [if_neg hkey, if_neg this]

end Rows

/-! ### Rolls -/

section Rolls

variable {dice : Entropy} {faces : Nat → Option Int}

/-- **Drawing shows the faces of the stream**, one after the other. -/
theorem draw_eq (hfaces : ∀ i, dice.face? i = (faces i).map .int) (n : Nat) {start : Nat}
    {left : Entropy} (hleft : dice.behind start = some left) :
    (left.draw n).1 = (facesFrom faces start n).map .int ∧
      (left.draw n).2.1 = decide ((facesFrom faces start n).length = n) := by
  induction n generalizing start left with
  | zero => exact ⟨rfl, rfl⟩
  | succ n ih =>
    have hface := hfaces start
    rw [Entropy.face?, hleft, Option.bind_some] at hface
    cases hnext : left.next with
    | none =>
      rw [hnext] at hface
      cases hf : faces start with
      | none => simp [Entropy.draw, hnext, facesFrom, hf]
      | some face =>
        rw [hf] at hface
        cases hface
    | some r =>
      obtain ⟨shown, rest⟩ := r
      rw [hnext] at hface
      cases hf : faces start with
      | none =>
        rw [hf] at hface
        cases hface
      | some face =>
        rw [hf] at hface
        cases hface
        have hrest : dice.behind (start + 1) = some rest := by
          rw [Entropy.behind_add, hleft]
          simp [Entropy.behind, hnext]
        obtain ⟨hdrawn, hcomplete⟩ := ih hrest
        simp [Entropy.draw, hnext, facesFrom, hf, hdrawn, hcomplete]

/-- The degree of a kept face. -/
theorem classify_eq (kept : Int) (critical : Bool) :
    classify (.int kept) critical = .ok (degreeOf critical kept) :=
  classify_int kept critical

/-- The outcome of a pool is the roll of its faces. -/
theorem resolve_eq (pool : Int) (shown : List Int) :
    resolve (.int (max pool 0)) pool.toNat (shown.map .int) =
      .ok ⟨.int (rollOf pool.toNat shown).dice, (rollOf pool.toNat shown).faces.map .int,
        (rollOf pool.toNat shown).degree, .int (rollOf pool.toNat shown).kept,
        (rollOf pool.toNat shown).keep⟩ := by
  unfold resolve rollOf resolveKeeping
  by_cases hzero : pool.toNat = 0
  · simp only [if_pos hzero, keptFace_lowest, areCritical_int, classify_eq, Except.map]
    rfl
  · have hpool : max pool 0 = (pool.toNat : Int) := by omega
    simp only [if_neg hzero, keptFace_highest, areCritical_int, classify_eq, Except.map, hpool]

/-- **A roll is that of the machine.** -/
theorem mirrors_rolled (hfaces : ∀ i, dice.face? i = (faces i).map .int) {m : Machine}
    {rows : List Row} {left : Entropy} (h : Shows dice m rows left) (pool : Int) :
    Mirrors dice (rolled (.int pool) rows left) (m.roll faces pool) := by
  unfold rolled Machine.roll
  rw [roll_int]
  by_cases hpool : (100 : Int) < pool
  · rw [if_pos (show mostDice < pool from hpool), if_pos hpool]
    exact ⟨rfl, h⟩
  · rw [if_neg (show ¬mostDice < pool from hpool), if_neg hpool]
    obtain ⟨hdrawn, hcomplete⟩ := draw_eq hfaces (shownFor pool.toNat) h.dice
    have hbehind := Entropy.behind_draw (shownFor pool.toNat) left
    have hdice : diceFor pool.toNat = shownFor pool.toNat := rfl
    unfold rollPool
    rw [hdice]
    rcases hdraw : left.draw (shownFor pool.toNat) with ⟨drawn, complete, left'⟩
    rw [hdraw] at hdrawn hcomplete hbehind
    obtain rfl : drawn = _ := hdrawn
    obtain rfl : complete = _ := hcomplete
    have hle := length_facesFrom_le faces m.drawn (shownFor pool.toNat)
    generalize facesFrom faces m.drawn (shownFor pool.toNat) = shown at hbehind hle ⊢
    have hshows : Shows dice { m with drawn := m.drawn + shown.length } rows left' := by
      refine ⟨h.valid, h.image, ?_⟩
      rw [Entropy.behind_add, h.dice]
      simpa using hbehind
    dsimp only
    by_cases hall : shown.length = shownFor pool.toNat
    · rw [if_neg (show ¬shown.length < shownFor pool.toNat by omega), decide_eq_true hall]
      simp only [if_true, resolve_eq, Except.mapError]
      exact ⟨rfl, hshows⟩
    · rw [if_pos (show shown.length < shownFor pool.toNat by omega), decide_eq_false hall]
      simp only [Bool.false_eq_true, if_false]
      exact ⟨rfl, hshows⟩

end Rolls

/-! ### One request -/

/-- The command that a request is sent as. -/
def Request.order (r : Request) : Order := .command r.intent

/-- **A request can be written** if its integers are short. -/
theorem isWritable_order (r : Request) : r.order.isWritable = r.isShort := by
  have hintegers : Value.integersOfFields r.intent.fields = r.integers := by
    cases r with
    | unsupported s =>
      cases s <;> simp [Request.intent, Request.integers, Intent.fields, Value.integersOfFields,
        Value.integers]
    | roll | resist | dice | adjust | view =>
      simp [Request.intent, Request.integers, Intent.fields, Value.integersOfFields,
        Value.integers]
  rw [Bool.eq_iff_iff]
  refine (Log.context?_isSome_iff r.intent.fields).trans ?_
  rw [hintegers, Request.isShort, List.all_eq_true]
  rfl

/-- The character of a request has a key of texts. -/
theorem hasTexts_order (r : Request) : r.order.HasTexts := by
  intro channel user use hplan
  replace hplan : r.intent.plan = .withCharacter channel user use :=
    Order.plan_eq hplan fun _ h => nomatch h
  cases r with
  | roll x y name bonus =>
    simp only [Request.intent, Intent.plan] at hplan
    split at hplan
    · cases hplan
    · split at hplan
      · cases hplan
      · cases hplan
        exact ⟨x, y, rfl, rfl⟩
  | resist x y name | adjust x y name delta =>
    simp only [Request.intent, Intent.plan] at hplan
    split at hplan
    · cases hplan
    · cases hplan
      exact ⟨x, y, rfl, rfl⟩
  | dice number =>
    simp only [Request.intent, Intent.plan] at hplan
    split at hplan <;> cases hplan
  | view x y =>
    cases hplan
    exact ⟨x, y, rfl, rfl⟩
  | unsupported s => cases hplan

section Step

variable {dice : Entropy} {faces : Nat → Option Int} {m : Machine} {rows : List Row}
  {left : Entropy}

/-- A number of dice is refused by the same limits. -/
theorem readPool_int (number : Int) :
    readPool (.int number) (.int mostDice) =
      if number < 0 then .error (Refusal.negativePool number).error
      else if 100 < number then .error (Refusal.tooManyDice number).error
      else .ok (.int number) := by
  rw [readPool, checkPool_int]
  by_cases hn : number < 0
  · rw [if_pos hn, if_pos hn]
    rfl
  · by_cases hl : (100 : Int) < number
    · rw [if_neg hn, if_neg hn, if_pos (show mostDice < number from hl), if_pos hl]
      rfl
    · rw [if_neg hn, if_neg hn, if_neg (show ¬mostDice < number from hl), if_neg hl]
      rfl

/-- Positive ratings are those that are not zero. -/
theorem attributeRating_eq {c : Character} {ratings : Action → Int}
    (h : ∀ a, (c.rating a).toInt = ratings a) (t : Attribute) :
    c.attributeRating t = t.actions.countP fun a => decide (0 < ratings a) := by
  unfold Character.attributeRating
  congr
  funext a
  rw [← h a]
  have : c.rating a ≠ 0 ↔ 0 < (c.rating a).toInt := by
    rw [Rating.toInt, Ne, Fin.ext_iff]
    show ¬(c.rating a).val = 0 ↔ 0 < ((c.rating a).val : Int)
    omega
  rw [decide_eq_decide]
  exact this

/-- **A record with one other rating is put in its place**, and the machine sets the rating. -/
theorem Shows.setRating (h : Shows dice m rows left) {changed : Character} {key : String × String}
    {a : Action} {rating : Int} (hkey : (changed.channel, changed.user) = key)
    (hchanged : ∀ b, (changed.rating b).toInt = if b = a then rating else m.ratings key b) :
    Shows dice (m.setRating key a rating)
      (CharacterTable.replaceRow (Row.ofCharacter changed) rows) left := by
  refine ⟨?_, ?_, h.dice⟩
  · intro r hr
    obtain rfl | hr := CharacterTable.mem_replaceRow hr
    · exact Row.isValid_ofCharacter changed
    · exact h.valid r hr
  · funext other b
    rw [image_replaceRow, hkey, hchanged, h.image]
    show _ = if other = key ∧ b = a then rating else m.ratings other b
    by_cases hother : other = key
    · rw [if_pos hother, hother]
      by_cases hb : b = a
      · rw [if_pos hb, if_pos ⟨rfl, hb⟩]
      · rw [if_neg hb, if_neg fun hboth => hb hboth.2]
    · rw [if_neg hother, if_neg fun hboth => hother hboth.1]

/-- A request whose integers are short is carried out as in the machine. -/
theorem mirrors_respond (hfaces : ∀ i, dice.face? i = (faces i).map .int)
    (h : Shows dice m rows left) (r : Request) {o : Order} (hplan : o.plan = r.intent.plan) :
    Mirrors dice (o.atOnce rows left) (m.respond faces r) := by
  have himage : ∀ key a, image rows key a = m.ratings key a := by
    intro key a
    rw [h.image]
  cases r with
  | roll channel user name bonus =>
    obtain ⟨c, hc, -, -, hrating⟩ := exists_recordAt h.valid channel user
    simp only [Order.atOnce, hplan, Request.intent, Intent.plan, Machine.respond, Machine.withDice,
      readAction, readPool_int]
    cases Action.named? name with
    | none => exact ⟨rfl, h⟩
    | some a =>
      by_cases hnegative : bonus < 0
      · simp only [if_pos hnegative]
        exact ⟨rfl, h⟩
      · by_cases hlarge : 100 < bonus
        · simp only [if_neg hnegative, if_pos hlarge]
          exact ⟨rfl, h⟩
        · simp only [if_neg hnegative, if_neg hlarge, hc, Use.apply, Value.plus, hrating, himage]
          exact mirrors_rolled hfaces h (m.ratings (channel, user) a + bonus)
  | resist channel user name =>
    obtain ⟨c, hc, -, -, hrating⟩ := exists_recordAt h.valid channel user
    simp only [himage] at hrating
    simp only [Order.atOnce, hplan, Request.intent, Intent.plan, Machine.respond, readAttribute]
    cases Attribute.named? name with
    | none => exact ⟨rfl, h⟩
    | some t =>
      simp only [hc, Use.apply, attributeRating_eq hrating]
      exact mirrors_rolled hfaces h _
  | dice number =>
    simp only [Order.atOnce, hplan, Request.intent, Intent.plan, Machine.respond, Machine.withDice,
      readPool_int]
    by_cases hnegative : number < 0
    · simp only [if_pos hnegative]
      exact ⟨rfl, h⟩
    · by_cases hlarge : 100 < number
      · simp only [if_neg hnegative, if_pos hlarge]
        exact ⟨rfl, h⟩
      · simp only [if_neg hnegative, if_neg hlarge]
        exact mirrors_rolled hfaces h number
  | adjust channel user name delta =>
    obtain ⟨c, hc, hchannel, huser, hrating⟩ := exists_recordAt h.valid channel user
    simp only [Order.atOnce, hplan, Request.intent, Intent.plan, Machine.respond, readAction]
    cases Action.named? name with
    | none => exact ⟨rfl, h⟩
    | some a =>
      obtain ⟨adjustment, changed, hadjust, hafter, hc', hu', hchanged⟩ :=
        Task.exists_adjust c a delta
      simp only [hc, Use.apply, hadjust]
      simp only [hrating, himage] at hafter hchanged
      refine ⟨hafter, h.setRating ?_ hchanged⟩
      rw [hc', hu', hchannel, huser]
  | view channel user =>
    obtain ⟨c, hc, hchannel, huser, hrating⟩ := exists_recordAt h.valid channel user
    simp only [himage] at hrating
    simp only [Order.atOnce, hplan, Request.intent, Intent.plan, Machine.respond, hc, Use.apply]
    exact ⟨⟨hchannel, huser, hrating⟩, h⟩
  | unsupported s =>
    simp only [Order.atOnce, hplan, Request.intent, Intent.plan]
    exact ⟨rfl, h⟩

/-- **A request is carried out as in the machine.** -/
theorem mirrors_atOnce (hfaces : ∀ i, dice.face? i = (faces i).map .int)
    (h : Shows dice m rows left) (r : Request) :
    Mirrors dice (r.order.atOnce rows left) (m.step faces r) := by
  have hwritable := isWritable_order r
  unfold Machine.step
  cases hshort : r.isShort with
  | true =>
    exact mirrors_respond hfaces h r (Order.plan_of_writable (hwritable.trans hshort))
  | false =>
    rw [hshort] at hwritable
    simp only [Order.atOnce, Order.plan, hwritable]
    exact ⟨rfl, h⟩

end Step

/-! ### Requests one after the other -/

/-- Commands requests one after the other: the reply to each and the world behind it. -/
def executeAll : List Request → World → List (Except Error Reply × World)
  | [], _ => []
  | r :: rest, w =>
    Session.callOn w (.execute r.order) ::
      executeAll rest (Session.callOn w (.execute r.order)).2

section Requests

variable {dice : Entropy} {faces : Nat → Option Int} {file q : Nat}

/-- A reply and the world behind it are those of the machine, and the world serves on. -/
def Follows (dice : Entropy) (file q : Nat) (done : Except Error Reply × World)
    (expected : Except Refusal Answer × Machine) : Prop :=
  Agrees done.1 expected.1 ∧ Shows dice expected.2 done.2.store.rows done.2.entropy ∧
    done.2.Serves file q

/-- One request in a world that serves. -/
theorem follows_callOn (hfaces : ∀ i, dice.face? i = (faces i).map .int) {m : Machine} {w : World}
    (hw : w.Serves file q) (h : Shows dice m w.store.rows w.entropy) (r : Request) :
    Follows dice file q (Session.callOn w (.execute r.order)) (m.step faces r) := by
  obtain ⟨w', hcall, hserves, hrows, hdice⟩ := hw.execute (hasTexts_order r)
  obtain ⟨hagrees, hshows⟩ := mirrors_atOnce hfaces h r
  rw [hcall]
  refine ⟨hagrees, ?_, hserves⟩
  rw [hrows, hdice]
  exact hshows

/-- Requests go on as in the machine from wherever the machine is. -/
theorem forall₂_executeAll (hfaces : ∀ i, dice.face? i = (faces i).map .int)
    (requests : List Request) {m : Machine} {w : World} (hw : w.Serves file q)
    (h : Shows dice m w.store.rows w.entropy) :
    List.Forall₂ (Follows dice file q) (executeAll requests w) (m.run faces requests) := by
  induction requests generalizing m w with
  | nil => exact .nil
  | cons r rest ih =>
    have hfirst := follows_callOn hfaces hw h r
    exact .cons hfirst (ih hfirst.2.2 hfirst.2.1)

/-- **The ledger refines the reference machine.** In a world that serves and whose rows are valid,
requests that are commanded one after the other, whatever they are, come to what they come to in the
machine that begins with the ratings of the table: behind each of them the replies agree, the table
stands for the ratings of the machine, as many faces have been drawn, and the world serves on.  What
the machine refuses changes no ratings. -/
theorem refines_reference {w : World} (hw : w.Serves file q)
    (hrows : ∀ r ∈ w.store.rows, r.IsValid)
    (hfaces : ∀ i, w.entropy.face? i = (faces i).map .int) (requests : List Request) :
    List.Forall₂ (Follows w.entropy file q) (executeAll requests w)
        (Machine.run faces requests ⟨image w.store.rows, 0⟩) ∧
      ∀ (m : Machine) r why, (m.step faces r).1 = .error why → m.IsLeft why (m.step faces r).2 := by
  have hstart : Shows w.entropy ⟨image w.store.rows, 0⟩ w.store.rows w.entropy := ⟨hrows, rfl, rfl⟩
  exact ⟨forall₂_executeAll hfaces requests hw hstart, fun _ _ _ => Machine.isLeft_of_step⟩

/-- A pool in memory is opened and a rating adjusted; then the character rolls three dice, of which
two show a six, the rating is adjusted again and the character is shown. -/
theorem refines_reference_of_adjusted :
    ∃ w, w.Serves 0 0 ∧ (∃ r, w.store.rows = [r] ∧ r.key = ("channel", "user") ∧ r.IsValid) ∧
      w.entropy = .script 0 [.int 6, .int 2, .int 6] ∧
      List.Forall₂ (Follows w.entropy 0 0)
        (executeAll [.roll "channel" "user" (.text "Hack") 0,
          .adjust "channel" "user" (.text " hack ") (-5), .view "channel" "user"] w)
        (Machine.run (fun i => [6, 2, 6][i]?) [.roll "channel" "user" (.text "Hack") 0,
          .adjust "channel" "user" (.text " hack ") (-5), .view "channel" "user"]
          ⟨image w.store.rows, 0⟩) := by
  obtain ⟨w₀, -, hw₀, hempty, hdice₀⟩ :=
    exists_serves_memory 1 (.script 0 [.int 6, .int 2, .int 6])
  obtain ⟨w, -, hw, hrows, hdice⟩ :=
    hw₀.execute (o := .method (.adjust (.text "channel") (.text "user") (.text "hack") (.int 3)))
      (Order.hasTexts_of_adjust rfl)
  rw [hempty, hdice₀] at hrows hdice
  obtain ⟨r, hr, hkey, hvalid⟩ :
      ∃ r, w.store.rows = [r] ∧ r.key = ("channel", "user") ∧ r.IsValid :=
    ⟨_, hrows, rfl, Row.isValid_ofCharacter _⟩
  have hfaces : ∀ i, w.entropy.face? i = ([6, 2, 6][i]? : Option Int).map .int := by
    intro i
    rw [hdice]
    exact (Entropy.face?_script 0 [.int 6, .int 2, .int 6] i).trans
      (List.getElem?_map (f := Value.int) (l := [6, 2, 6]))
  refine ⟨w, hw, ⟨r, hr, hkey, hvalid⟩, hdice, ?_⟩
  refine (refines_reference hw ?_ hfaces _).1
  rw [hr]
  intro s hs
  rw [List.mem_singleton.1 hs]
  exact hvalid

/-- To adjust a rating by the least number that is too long. -/
def longAdjustment : Request := .adjust "c" "u" (.text "hack") (Number.tenTo Number.mostDigits)

/-- The issues of the record that a call has failed on. -/
def issues? : Except Error Reply → Option (List Issue)
  | .error (.invalid .character issues) => some issues
  | _ => none

/-- **Not every command comes to what the machine would answer.**  A rating is not adjusted by a
number that is too long, though it would be four.  And if a channel and a user are integers instead
of texts, their character has no record that could be adjusted. -/
theorem not_all_commands_refine :
    (∃ w w' : World, w.Serves 0 0 ∧ w.store.rows = [] ∧
      Session.callOn w (.execute longAdjustment.order) = (.error .tooManyDigits, w') ∧
      w'.store.rows = [] ∧
      ∀ faces, (Machine.respond faces ⟨image w.store.rows, 0⟩ longAdjustment).1 =
        .ok (.adjusted 4)) ∧
    ∃ es s, Run (System.start World.inMemory
        [.execute (.command (.adjust (.int 1) (.int 2) (.text "hack") (.int 1)))]) es s ∧
      s.result? 0 = some (.error (.invalid .character
        [⟨["channel_id"], .notText⟩, ⟨["user_id"], .notText⟩])) ∧ s.rows = [] := by
  refine ⟨?_, ?_⟩
  · obtain ⟨w, -, hw, hempty, -⟩ := exists_serves_memory 1 (.script 0 [])
    obtain ⟨w', hcall, -, hrows, -⟩ := hw.execute (hasTexts_order longAdjustment)
    have hunwritable : longAdjustment.order.isWritable = false := by
      rw [isWritable_order]
      decide +kernel
    have hrefused : longAdjustment.order.atOnce w.store.rows w.entropy =
        (.error .tooManyDigits, w.store.rows, w.entropy) := by
      simp [Order.atOnce, Order.plan, hunwritable]
    rw [hrefused] at hcall hrows
    refine ⟨w, w', hw, hempty, hcall, hrows.trans hempty, fun faces => ?_⟩
    have hlarge : (4 : Int) ≤ Number.tenTo Number.mostDigits := by decide +kernel
    have hname : Action.named? (.text "hack") = some .hack := rfl
    rw [hempty, longAdjustment]
    generalize (Number.tenTo Number.mostDigits : Int) = delta at hlarge
    simp only [Machine.respond, hname]
    rw [show max 0 (min 4 (image [] ("c", "u") .hack + delta)) = 4 by
      rw [show image [] ("c", "u") .hack = 0 from rfl]
      omega]
  · have hview : ((System.start World.inMemory
        [.execute (.command (.adjust (.int 1) (.int 2) (.text "hack") (.int 1)))]).follow
          (List.replicate 8 (0, .go))).map
            (fun r => ((r.2.result? 0).map issues?, r.2.rows)) =
        some (some (some [⟨["channel_id"], .notText⟩, ⟨["user_id"], .notText⟩]), []) := by
      decide +kernel
    obtain ⟨es, s, hrun, hview⟩ :=
      Run.exists_of_view (fun s => ((s.result? 0).map issues?, s.rows)) hview
    obtain ⟨hresult, hrows⟩ := Prod.mk.inj hview
    obtain ⟨result, hresult, hissues⟩ := Option.map_eq_some_iff.1 hresult
    refine ⟨es, s, hrun, hresult.trans ?_, hrows⟩
    unfold issues? at hissues
    split at hissues
    · rw [Option.some.inj hissues]
    · cases hissues

end Requests

end CharacterLedger.Ledger.Reference
