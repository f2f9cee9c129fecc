import CharacterLedger.Proofs.Ledger.Lookup
import CharacterLedger.Proofs.Storage.Serving
import CharacterLedger.Session.Perform

/-!
# Calls that have the world to themselves

A call in a world where nothing else is going on is carried out to its end, and its task takes far
fewer steps than a system is given.  What it comes to is one function of the rows and the dice, and
of the terms on which the store meets visits: it may lend connections and take every record, refuse
some records, or turn everybody away.

* `Order.atOnce` — an order as one function of the rows and the dice;
* `Terms`, `Terms.Hold` — what visits end in, and stores that meet visits in this way;
* `World.Serves` — the store serves and nobody stands in the line of a lock;
* `Task.Goes`, `Task.Ends` — some steps of the only task, and its end;
* `callOn_eq_of_goes` — they are what carrying out the call comes to;
* `Task.goes_of_runs`, `Task.goes_of_call`, `callOn_of_runs` — the visit of the only task goes as if
  it were no task's;
* `callOn_execute` — an order on a character with a key of texts is carried out at once;
* `World.Serves.execute`, `World.Serves.count` — so it is in a world that serves, and the rows are
  counted;
* `exists_serves_memory` — a world that serves.
-/

namespace CharacterLedger.Ledger

open CharacterLedger.Storage CharacterLedger.Table CharacterLedger.Dice

/-! ### Orders carried out at once -/

/-- What comes of an order: its result, the rows and the dice. -/
abbrev Effect := Except Error Reply × List Row × Entropy

/-- What comes of rolling a pool. -/
def rolled (pool : Value) (rows : List Row) (dice : Entropy) : Effect :=
  match roll pool dice with
  | (.ok o, dice) => (.ok (.outcome o), rows, dice)
  | (.error e, dice) => (.error (.ofRoll e), rows, dice)

/-- What comes of using the record of a character. -/
def Use.apply : Use → Character → List Row → Entropy → Effect
  | .rating a, c, rows, dice => (.ok (.rating (c.rating a)), rows, dice)
  | .roll a bonus, c, rows, dice =>
    match Value.plus (c.rating a).toInt bonus with
    | .error m => (.error (.mismatch m), rows, dice)
    | .ok pool => rolled pool rows dice
  | .resist which, c, rows, dice => rolled (.int (c.attributeRating which)) rows dice
  | .view, c, rows, dice => (.ok (.character c), rows, dice)
  | .adjust a delta, c, rows, dice =>
    match Task.adjust c a delta with
    | .error e => (.error e, rows, dice)
    | .ok (adjustment, changed) =>
      (.ok (.adjusted adjustment.after),
        CharacterTable.replaceRow (Row.ofCharacter changed) rows, dice)

/-- What comes of an order that is carried out at once. -/
def Order.atOnce (o : Order) (rows : List Row) (dice : Entropy) : Effect :=
  match o.plan with
  | .refuse e => (.error e, rows, dice)
  | .rollDice n => rolled n rows dice
  | .withCharacter channel user use =>
    match recordAt rows channel user with
    | .error e => (.error e, rows, dice)
    | .ok c => use.apply c rows dice

/-! ### The terms of a store -/

/-- What visits end in: for a row that there is or is not, and for a record to be saved among some
rows. -/
structure Terms where
  load : Option Row → Except Failure (Option Row)
  save : List Row → Character → Except Failure Unit

namespace Terms

/-- Every row is given and every record taken. -/
def full : Terms := ⟨.ok, fun _ _ => .ok ()⟩

/-- Everybody is turned away. -/
def denied (failure : Failure) : Terms := ⟨fun _ => .error failure, fun _ _ => .error failure⟩

/-- The rows once a record has been saved or refused. -/
def rowsAfter (terms : Terms) (rows : List Row) (c : Character) : List Row :=
  match terms.save rows c with
  | .ok () => CharacterTable.replaceRow (Row.ofCharacter c) rows
  | .error _ => rows

/-- Stores that meet visits on these terms, and are of the same kind after it. A visit takes so many
steps at most. -/
structure Hold (terms : Terms) (S : Store → Prop) (bound : Nat) : Prop where
  loads : ∀ {s : Store}, S s → ∀ x y : String, ∃ n notes t, n ≤ bound ∧
    Visit.Runs (.borrow (.ask (.character (.text x) (.text y)))) n s (.going .entering) notes t
      (.ended (terms.load (rowAt s.rows (.text x) (.text y)))) ∧ S t ∧ t.rows = s.rows
  saves : ∀ {s : Store}, S s → ∀ c : Character, ∃ n notes t, n ≤ bound ∧
    Visit.Runs (.borrow (.save c)) n s (.going .entering) notes t
      (.ended (terms.save s.rows c)) ∧ S t ∧ t.rows = terms.rowsAfter s.rows c

end Terms

/-- What comes of using the record of a character on the terms of a store. -/
def Use.under (terms : Terms) (use : Use) (c : Character) (rows : List Row) (dice : Entropy) :
    Effect :=
  match use with
  | .adjust a delta =>
    match Task.adjust c a delta with
    | .error e => (.error e, rows, dice)
    | .ok (adjustment, changed) =>
      ((saved changed (terms.save rows changed)).2.map fun _ => .adjusted adjustment.after,
        terms.rowsAfter rows changed, dice)
  | use => use.apply c rows dice

/-- What comes of an order that is carried out at once, on the terms of a store. -/
def Order.under (terms : Terms) (o : Order) (rows : List Row) (dice : Entropy) : Effect :=
  match o.plan with
  | .refuse e => (.error e, rows, dice)
  | .rollDice n => rolled n rows dice
  | .withCharacter channel user use =>
    match (loaded channel user (terms.load (rowAt rows channel user))).2 with
    | .error e => (.error e, rows, dice)
    | .ok c => use.under terms c rows dice

/-- The terms of a store that serves. -/
theorem Order.under_full (o : Order) (rows : List Row) (dice : Entropy) :
    o.under .full rows dice = o.atOnce rows dice := by
  have huse : ∀ (use : Use) (c : Character),
      use.under .full c rows dice = use.apply c rows dice := by
    intro use c
    cases use with
    | adjust a delta =>
      simp only [Use.under, Use.apply]
      cases Task.adjust c a delta with
      | error e => rfl
      | ok made => rfl
    | rating | roll | resist | view => rfl
  unfold under atOnce
  cases o.plan with
  | refuse e => rfl
  | rollDice n => rfl
  | withCharacter channel user use =>
    simp only [huse]
    rfl

/-! ### The lock of the only task -/

namespace KeyLocks

variable {l : KeyLocks} {lock : Nat}

/-- Nobody stands in the line of a lock. -/
structure Idle (l : KeyLocks) : Prop where
  sound : l.Sound
  line : ∀ lock, l.line lock = []

/-- The first task stands in the line of one lock, and nobody else in any. -/
structure HeldAlone (lock : Nat) (l : KeyLocks) : Prop where
  sound : l.Sound
  registered : ∃ k, (k, lock) ∈ l.register
  line : ∀ other, l.line other = if other = lock then [0] else []

theorem Idle.reach (h : l.Idle) (k : Key) : (l.reach k 0).HeldAlone (l.lockFor k).2 := by
  obtain ⟨hsound, hmem, -, hline⟩ := reach_spec h.sound k 0
  refine ⟨hsound, ⟨k, hmem⟩, ?_⟩
  intro other
  rw [hline, h.line]
  rfl

theorem Idle.forgetIdle (h : l.Idle) : l.forgetIdle.Idle := by
  obtain ⟨hsound, hline, -⟩ := forgetIdle_spec h.sound
  exact ⟨hsound, fun lock => (hline lock).trans (h.line lock)⟩

theorem HeldAlone.forgetIdle (h : l.HeldAlone lock) : l.forgetIdle.HeldAlone lock := by
  obtain ⟨hsound, hline, hregister⟩ := forgetIdle_spec h.sound
  obtain ⟨k, hk⟩ := h.registered
  refine ⟨hsound, ⟨k, (hregister k lock).2 ⟨hk, ?_⟩⟩,
    fun other => (hline other).trans (h.line other)⟩
  rw [h.line, if_pos rfl]
  exact List.cons_ne_nil 0 []

theorem HeldAlone.isHeldBy (h : l.HeldAlone lock) : l.isHeldBy lock 0 = true := by
  rw [KeyLocks.isHeldBy, h.line, if_pos rfl]
  rfl

theorem HeldAlone.release (h : l.HeldAlone lock) : (l.release lock).Idle := by
  obtain ⟨k, hk⟩ := h.registered
  obtain ⟨hsound, -, hline⟩ := release_spec h.sound hk
  refine ⟨hsound, ?_⟩
  intro other
  rw [hline, h.line]
  split <;> rfl

end KeyLocks

/-! ### The steps of the only task -/

/-- The world with idle locks forgotten. -/
def World.forgetLocks (w : World) : World := w.withLocks w.locks.forgetIdle

/-- A world in which nothing is going on and whose store serves. -/
structure World.Serves (w : World) (file q : Nat) : Prop where
  store : w.store.Serves file q
  locks : w.locks.Idle

/-- A world in which nothing is going on and whose store is of some kind. -/
structure World.Quiet (S : Store → Prop) (w : World) : Prop where
  store : S w.store
  locks : w.locks.Idle

theorem World.Serves.quiet {w : World} {file q : Nat} (h : w.Serves file q) :
    w.Quiet fun s => s.Serves file q :=
  ⟨h.store, h.locks⟩

theorem World.Quiet.serves {w : World} {file q : Nat} (h : w.Quiet fun s => s.Serves file q) :
    w.Serves file q :=
  ⟨h.store, h.locks⟩

theorem World.Quiet.forgetLocks {S : Store → Prop} {w : World} (h : w.Quiet S) :
    w.forgetLocks.Quiet S :=
  ⟨h.store, h.locks.forgetIdle⟩

namespace Task

/-- Some steps of the only task; idle locks are forgotten after each. Where the task cannot go on
its wait ends. -/
inductive Goes : Nat → World → Task → World → Task → Prop
  | stay {w : World} {t : Task} : Goes 0 w t w t
  | go {n : Nat} {w w' w'' : World} {t t' t'' : Task} (step : t.step 0 .go w = some (w', t'))
      (rest : Goes n w'.forgetLocks t' w'' t'') : Goes (n + 1) w t w'' t''
  | wait {n : Nat} {w w' w'' : World} {t t' t'' : Task} (stuck : t.step 0 .go w = none)
      (step : t.step 0 .expire w = some (w', t')) (rest : Goes n w'.forgetLocks t' w'' t'') :
      Goes (n + 1) w t w'' t''

/-- A task that is done in a quiet world, and what has come of it. -/
structure Ends (S : Store → Prop) (w : World) (t : Task) (effect : Effect) : Prop where
  quiet : w.Quiet S
  stage : t.stage = .done effect.1
  rows : w.store.rows = effect.2.1
  dice : w.entropy = effect.2.2

theorem step_done {t : Task} {r : Except Error Reply} (h : t.stage = .done r) (id : Nat)
    (choice : Choice) (w : World) : t.step id choice w = none := by
  unfold step
  rw [h]
  cases choice <;> simp [advance, h]

end Task

namespace System

variable {n m : Nat} {w w' : World} {t t' : Task}

/-- A system of one task goes the way of the task. -/
theorem settleFor_of_goes (h : Task.Goes n w t w' t') :
    settleFor (n + m) ⟨w, [t]⟩ = settleFor m ⟨w', [t']⟩ := by
  induction h with
  | stay => rw [Nat.zero_add]
  | @go n w w' w'' t t' t'' step _ ih =>
    have hround : round .go (ids ⟨w, [t]⟩) ⟨w, [t]⟩ = (true, ⟨w'.forgetLocks, [t']⟩) := by
      show round .go [0] ⟨w, [t]⟩ = _
      simp [round, System.step, step, System.forgetLocks, World.forgetLocks]
    rw [Nat.add_right_comm, settleFor, hround]
    exact ih
  | @wait n w w' w'' t t' t'' stuck step _ ih =>
    have hround : round .go (ids ⟨w, [t]⟩) ⟨w, [t]⟩ = (false, ⟨w, [t]⟩) := by
      show round .go [0] ⟨w, [t]⟩ = _
      simp [round, System.step, stuck]
    have hexpire : expireFirst (ids ⟨w, [t]⟩) ⟨w, [t]⟩ = (true, ⟨w'.forgetLocks, [t']⟩) := by
      show expireFirst [0] ⟨w, [t]⟩ = _
      simp [expireFirst, System.step, step, System.forgetLocks, World.forgetLocks]
    rw [Nat.add_right_comm, settleFor, hround]
    simp only [hexpire]
    exact ih

/-- When the only task is done, nothing moves any more. -/
theorem settleFor_of_done {r : Except Error Reply} (h : t.stage = .done r) :
    settleFor m ⟨w, [t]⟩ = ⟨w, [t]⟩ := by
  cases m with
  | zero => rfl
  | succ m =>
    have hids : ids ⟨w, [t]⟩ = [0] := rfl
    simp [settleFor, hids, round, expireFirst, System.step, Task.step_done h]

/-- The rounds that a system is given for one call. -/
theorem rounds_add (w : World) (call : Call) : (add ⟨w, []⟩ call).rounds =
    32 * (w.store.pool.size.toNat + w.store.connections.length + 20) := by
  simp only [rounds, add, List.nil_append, List.length_singleton]
  omega

end System

/-- **The steps of the only task are what carrying out its call comes to**, if there are no more of
them than the rounds that a system is given. -/
theorem callOn_eq_of_goes {n : Nat} {w w' : World} {call : Call} {t : Task}
    {r : Except Error Reply} (h : Task.Goes n w (.new call) w' t) (hdone : t.stage = .done r)
    (hn : n ≤ 32 * (w.store.pool.size.toNat + w.store.connections.length + 20)) :
    Session.callOn w call = (r, w') := by
  have hsettle : (System.add ⟨w, []⟩ call).settle = ⟨w', [t]⟩ := by
    unfold System.settle
    rw [System.rounds_add]
    obtain ⟨m, hm⟩ := Nat.exists_eq_add_of_le hn
    rw [hm]
    exact (System.settleFor_of_goes h).trans (System.settleFor_of_done hdone)
  unfold Session.callOn
  rw [hsettle]
  simp [System.result?, Task.result?, hdone]

/-! ### The visit of the only task -/

/-- A world of which another store is left, and in which these notes have been made since under a
trace number. -/
structure World.Leaves (w : World) (trace : Option Nat) (s : Store) (notes : List Log.Note)
    (w' : World) : Prop where
  store : w'.store = s
  entropy : w'.entropy = w.entropy
  log : w'.log = w.log ++ notes.map fun n => ⟨trace, n⟩
  /-- Idle locks may have been forgotten. -/
  locks : ∀ held : KeyLocks → Prop, (∀ l, held l → held l.forgetIdle) → held w.locks →
    held w'.locks

namespace World.Leaves

variable {w w' w'' : World} {trace : Option Nat} {s t : Store} {notes more : List Log.Note}

theorem refl (w : World) (trace : Option Nat) : w.Leaves trace w.store [] w :=
  ⟨rfl, rfl, (List.append_nil _).symm, fun _ _ h => h⟩

theorem trans (h : w.Leaves trace s notes w') (h' : w'.Leaves trace t more w'') :
    w.Leaves trace t (notes ++ more) w'' where
  store := h'.store
  entropy := h'.entropy.trans h.entropy
  log := by rw [h'.log, h.log, List.map_append, List.append_assoc]
  locks := fun held hforget hw => h'.locks held hforget (h.locks held hforget hw)

theorem forgetLocks (h : w.Leaves trace s notes w') : w.Leaves trace s notes w'.forgetLocks :=
  ⟨h.store, h.entropy, h.log, fun held hforget hw => hforget _ (h.locks held hforget hw)⟩

/-- A step of a visit leaves another store, and its notes. -/
theorem ofStep (w : World) (trace : Option Nat) (s : Store) (notes : List Log.Note) :
    w.Leaves trace s notes ((w.withStore s).record trace notes) :=
  ⟨rfl, rfl, rfl, fun _ _ h => h⟩

theorem record (h : w.Leaves trace s notes w') (more : List Log.Note) :
    w.Leaves trace s (notes ++ more) (w'.record trace more) :=
  h.trans ⟨h.store ▸ rfl, rfl, rfl, fun _ _ h => h⟩

theorem idle (h : w.Leaves trace s notes w') (hidle : w.locks.Idle) : w'.locks.Idle :=
  h.locks KeyLocks.Idle (fun _ h => h.forgetIdle) hidle

theorem quiet {S : Store → Prop} (h : w.Leaves trace s notes w') (hidle : w.locks.Idle)
    (hs : S s) : w'.Quiet S :=
  ⟨h.store ▸ hs, h.idle hidle⟩

end World.Leaves

namespace Task

variable {p : Purpose} {n m : Nat} {w : World} {t : Task} {s' : Store} {notes : List Log.Note}

/-- Where a task is once a step of its visit has left a world. -/
def onward (stage : Phase p.Answer → Stage) (after : World → Task → p.Result → World × Task)
    (w : World) (t : Task) : Progress p.Answer → World × Task
  | .going phase => (w, t.moveTo (stage phase))
  | .ended r => after w t r

/-- **The visit of the only task** goes as if it were no task's. The task goes on after it in the
world that the visit has left. -/
theorem goes_of_runs {stage : Phase p.Answer → Stage}
    {after : World → Task → p.Result → World × Task}
    (hstage : ∀ (w : World) (t : Task) choice phase, t.stage = stage phase →
      t.step 0 choice w = visit 0 w t choice p phase stage after)
    {s : Store} {now : Progress p.Answer} {r : p.Result}
    (h : Visit.Runs p n s now notes s' (.ended r)) (hw : w.store = s) :
    ∃ w₁ t₁, w.Leaves t.trace s' notes w₁ ∧ t₁.call = t.call ∧ t₁.traces = t.traces ∧
      ∀ {m : Nat} {w' : World} {t' : Task},
        Goes m (after w₁ t₁ r).1.forgetLocks (after w₁ t₁ r).2 w' t' →
        Goes (n + m) (onward stage after w t now).1.forgetLocks (onward stage after w t now).2
          w' t' := by
  have hvisit : ∀ (w : World) (t : Task) (choice : Choice) (phase : Phase p.Answer),
      (t.moveTo (stage phase)).step 0 choice w = (Visit.step 0 p choice phase w.store).map
        fun u => onward stage after ((w.withStore u.store).record t.trace u.notes)
          (t.moveTo (stage phase)) u.progress := by
    intro w t choice phase
    rw [hstage w _ choice phase rfl]
    unfold visit onward
    congr 1
  generalize hlast : Progress.ended r = last at h
  induction h generalizing w t with
  | stay =>
    subst hlast
    refine ⟨w, t, hw ▸ World.Leaves.refl w t.trace, rfl, rfl, ?_⟩
    intro m w' t' hgoes
    rw [Nat.zero_add]
    exact hgoes
  | @go n s u s' phase next last now more step _ ih =>
    subst hw
    obtain ⟨w₁, t₁, hleaves, hcall, htraces, hgoes⟩ :=
      ih (w := (w.forgetLocks.withStore u).record t.trace now) (t := t.moveTo (stage phase)) rfl
        hlast
    refine ⟨w₁, t₁, (World.Leaves.refl w t.trace).forgetLocks.trans
      ((World.Leaves.ofStep _ _ u now).trans hleaves), hcall, htraces, ?_⟩
    intro m w' t' h
    rw [Nat.add_right_comm]
    refine .go ?_ (hgoes h)
    rw [onward, hvisit]
    exact congrArg _ step
  | @wait n s u s' phase next last now more stuck step _ ih =>
    subst hw
    obtain ⟨w₁, t₁, hleaves, hcall, htraces, hgoes⟩ :=
      ih (w := (w.forgetLocks.withStore u).record t.trace now) (t := t.moveTo (stage phase)) rfl
        hlast
    refine ⟨w₁, t₁, (World.Leaves.refl w t.trace).forgetLocks.trans
      ((World.Leaves.ofStep _ _ u now).trans hleaves), hcall, htraces, ?_⟩
    intro m w' t' h
    rw [Nat.add_right_comm]
    refine .wait ?_ ?_ (hgoes h)
    · rw [onward, hvisit]
      exact congrArg _ stuck
    · rw [onward, hvisit]
      exact congrArg _ step

/-- A task that is not logged ends without a word. -/
theorem finish_eq (hcall : t.call.context? = none) (w : World) (r : Except Error Reply) :
    finish w t r = (w, t.moveTo (.done r)) := by
  rw [finish, hcall]

/-- A task that is not logged ends as its visit does. -/
theorem afterVisit_eq {r : p.Result} (hcall : t.call.context? = none) (htrace : t.trace = none)
    (w : World) : afterVisit w t p r =
      (w.record none (visited p r).1, t.moveTo (.done (visited p r).2)) := by
  have hafter : afterVisit w t p r = finish (w.record t.trace (visited p r).1) t (visited p r).2 :=
    rfl
  rw [hafter, finish_eq hcall, htrace]

end Task

/-- The only task goes the way of a visit that has the world to itself, from its call to its end. -/
theorem Task.goes_of_call {p : Purpose} {n : Nat} {w : World} {s' : Store} {notes : List Log.Note}
    {r : p.Result} (call : Call)
    (h : Visit.Runs p n w.store (.going .entering) notes s' (.ended r))
    (hcall : call.purpose? = some p) :
    ∃ w' t, Goes (n + 1) w (.new call) w' t ∧ t.stage = .done (visited p r).2 ∧
      w.Leaves none s' (notes ++ (visited p r).1) w' := by
  have hbegin : (Task.new call).step 0 .go w =
      some (w, (Task.new call).moveTo (.visiting p .entering)) := by
    cases call with
    | borrow e | openPool => cases hcall; rfl
    | execute | rating | closePool | holdLock => cases hcall
  have hplain : call.context? = none := by
    cases call with
    | execute => cases hcall
    | rating | borrow | openPool | closePool | holdLock => rfl
  have hstage : ∀ (w : World) (t : Task) choice phase, t.stage = .visiting p phase →
      t.step 0 choice w = visit 0 w t choice p phase (.visiting p)
        fun w t r => afterVisit w t p r := by
    intro w t choice phase ht
    unfold step
    rw [ht]
  obtain ⟨w₁, t₁, hleaves, hcall₁, htraces₁, hgoes⟩ :=
    goes_of_runs (w := w) (t := Task.new call) hstage h rfl
  have hafter := afterVisit_eq (t := t₁) (r := r)
    (by rw [hcall₁]; exact hplain) (by rw [trace, htraces₁]; rfl) w₁
  have hdone := hgoes (m := 0) .stay
  rw [hafter] at hdone
  exact ⟨_, _, .go hbegin hdone, rfl, (hleaves.record _).forgetLocks⟩

/-- **The steps of a visit that has the world to itself** are what carrying out its call comes to.
-/
theorem callOn_of_runs {p : Purpose} {n : Nat} {w : World} {s' : Store} {notes : List Log.Note}
    {r : p.Result} (call : Call)
    (h : Visit.Runs p n w.store (.going .entering) notes s' (.ended r))
    (hcall : call.purpose? = some p)
    (hn : n < 32 * (w.store.pool.size.toNat + w.store.connections.length + 20)) :
    ∃ w', Session.callOn w call = ((Task.visited p r).2, w') ∧
      w.Leaves none s' (notes ++ (Task.visited p r).1) w' := by
  obtain ⟨w', t, hgoes, hdone, hleaves⟩ := Task.goes_of_call call h hcall
  exact ⟨w', callOn_eq_of_goes hgoes hdone (by omega), hleaves⟩

/-! ### The last steps -/

namespace Task

variable {S : Store → Prop} {lock : Nat} {w : World} {t : Task}

@[simp] theorem entropy_finish (w : World) (t : Task) (r : Except Error Reply) :
    (finish w t r).1.entropy = w.entropy := by
  unfold finish
  cases t.call.context? <;> rfl

@[simp] theorem entropy_beginTrace (w : World) (t : Task) :
    (beginTrace w t).1.entropy = w.entropy := by
  unfold beginTrace
  split <;> rfl

theorem Ends.forgetLocks {effect : Effect} (h : Ends S w t effect) :
    Ends S w.forgetLocks t effect :=
  ⟨h.quiet.forgetLocks, h.stage, h.rows, h.dice⟩

theorem ends_finish (h : w.Quiet S) (t : Task) (r : Except Error Reply) :
    Ends S (finish w t r).1 (finish w t r).2 (r, w.store.rows, w.entropy) := by
  obtain ⟨hstore, hlocks, -, hstage⟩ := finish_spec w t r
  refine ⟨⟨?_, ?_⟩, hstage, by rw [hstore], entropy_finish w t r⟩
  · rw [hstore]
    exact h.store
  · rw [hlocks]
    exact h.locks

theorem ends_finishRolling (h : w.Quiet S) (t : Task) (pool : Value) :
    Ends S (finishRolling w t pool).1 (finishRolling w t pool).2
      (rolled pool w.store.rows w.entropy) := by
  unfold finishRolling rolled
  rcases roll pool w.entropy with ⟨r, dice⟩
  have hquiet : ({ w with entropy := dice } : World).Quiet S := ⟨h.store, h.locks⟩
  cases r with
  | ok o => exact ends_finish hquiet t (.ok (.outcome o))
  | error e => exact ends_finish hquiet t (.error (.ofRoll e))

/-- A world whose only task holds a lock, with its store and its dice. -/
structure Lending (w : World) (lock : Nat) (s : Store) (dice : Entropy) : Prop where
  store : w.store = s
  locks : w.locks.HeldAlone lock
  dice : w.entropy = dice

namespace Lending

variable {s : Store} {dice : Entropy}

/-- A visit changes nothing but the store and the log. -/
theorem leaves {w' : World} {trace : Option Nat} {s' : Store} {notes : List Log.Note}
    (h : Lending w lock s dice) (hleaves : w.Leaves trace s' notes w') :
    Lending w' lock s' dice :=
  ⟨hleaves.store, hleaves.locks _ (fun _ h => h.forgetIdle) h.locks, hleaves.entropy.trans h.dice⟩

/-- Notes change nothing else. -/
theorem record (h : Lending w lock s dice) (trace : Option Nat) (notes : List Log.Note) :
    Lending (w.record trace notes) lock s dice :=
  ⟨h.store, h.locks, h.dice⟩

/-- The world is quiet once the lock is given back. -/
theorem release (h : Lending w lock s dice) (hs : S s) : (release w lock).Quiet S :=
  ⟨by rw [← h.store] at hs; exact hs, h.locks.release⟩

/-- The task gives its lock back and is done. -/
theorem ends_finish (h : Lending w lock s dice) (hs : S s) (t : Task) (r : Except Error Reply) :
    Ends S (finish (Task.release w lock) t r).1 (finish (Task.release w lock) t r).2
      (r, s.rows, dice) := by
  have := Task.ends_finish (h.release hs) t r
  rw [← h.store, ← h.dice]
  exact this

/-- The task gives its lock back, rolls a pool and is done. -/
theorem ends_finishRolling (h : Lending w lock s dice) (hs : S s) (t : Task) (pool : Value) :
    Ends S (finishRolling (Task.release w lock) t pool).1
      (finishRolling (Task.release w lock) t pool).2 (rolled pool s.rows dice) := by
  have := Task.ends_finishRolling (h.release hs) t pool
  rw [← h.store, ← h.dice]
  exact this

end Lending

/-! ### A record is written and read -/

section Steps

variable {terms : Terms} {bound : Nat} {channel user : Value} {s : Store} {dice : Entropy}

theorem ends_afterSaving (hw : Lending w lock s dice) (hs : S s) (t : Task) (a : Adjustment)
    (changed : Character) (r : Except Failure Unit) (channel user : Value) :
    Ends S (afterSaving w t lock channel user a changed r).1
      (afterSaving w t lock channel user a changed r).2
      ((saved changed r).2.map fun _ => .adjusted a.after, s.rows, dice) := by
  unfold afterSaving
  rcases saved changed r with ⟨notes, result⟩
  have hnoted := hw.record t.trace notes
  cases result with
  | error e => exact hnoted.ends_finish hs t (.error e)
  | ok =>
    exact (hnoted.record t.trace (adjustedNotes channel user a)).ends_finish hs t
      (.ok (.adjusted a.after))

/-- **The changed record is written or refused**, and then the task ends. -/
theorem goes_saving {a : Adjustment} {changed : Character} (hold : terms.Hold S bound) (hs : S s)
    (hw : Lending w lock s dice) :
    ∃ n w' t', n ≤ bound ∧
      Goes n w.forgetLocks (t.moveTo (.saving lock channel user a changed .entering)) w' t' ∧
      Ends S w' t'
      ((saved changed (terms.save s.rows changed)).2.map fun _ => .adjusted a.after,
        terms.rowsAfter s.rows changed, dice) := by
  have hstage : ∀ (w : World) (t : Task) choice phase,
      t.stage = .saving lock channel user a changed phase →
      t.step 0 choice w = visit 0 w t choice (.borrow (.save changed)) phase
        (.saving lock channel user a changed)
        fun w t r => afterSaving w t lock channel user a changed r := by
    intro w t choice phase h
    unfold step
    rw [h]
  obtain ⟨n, notes, s', hn, hruns, hs', hrows⟩ := hold.saves hs changed
  obtain ⟨w₁, t₁, hleaves, -, -, hgoes⟩ := goes_of_runs (t := t) hstage hruns hw.store
  have hends := ends_afterSaving (hw.leaves hleaves) hs' t₁ a changed (terms.save s.rows changed)
  rw [← hrows]
  exact ⟨n + 0, _, _, by omega, hgoes .stay, (hends channel user).forgetLocks⟩

/-- **A record that has been read is used**, and then the task ends. -/
theorem goes_using {c : Character} (hold : terms.Hold S bound) (hs : S s)
    (hw : Lending w lock s dice) (use : Use) :
    ∃ n w' t', n ≤ bound ∧
      Goes n (useRecord w t lock channel user c use).1.forgetLocks
        (useRecord w t lock channel user c use).2 w' t' ∧
      Ends S w' t' (use.under terms c s.rows dice) := by
  have hdone : ∀ {r : World × Task} {effect : Effect}, Ends S r.1 r.2 effect →
      ∃ n w' t', n ≤ bound ∧ Goes n r.1.forgetLocks r.2 w' t' ∧ Ends S w' t' effect :=
    fun h => ⟨0, _, _, by omega, .stay, h.forgetLocks⟩
  cases use with
  | rating a => exact hdone (hw.ends_finish hs t (.ok (.rating (c.rating a))))
  | view => exact hdone (hw.ends_finish hs t (.ok (.character c)))
  | resist which => exact hdone (hw.ends_finishRolling hs t (.int (c.attributeRating which)))
  | roll a bonus =>
    simp only [useRecord, rollWithBonus, Use.under, Use.apply]
    cases Value.plus (c.rating a).toInt bonus with
    | error m => exact hdone (hw.ends_finish hs t (.error (.mismatch m)))
    | ok pool => exact hdone (hw.ends_finishRolling hs t pool)
  | adjust a delta =>
    simp only [useRecord, Use.under]
    cases adjust c a delta with
    | error e => exact hdone (hw.ends_finish hs t (.error e))
    | ok made =>
      obtain ⟨adjustment, changed⟩ := made
      exact goes_saving hold hs hw

/-- What has been read is used if it is a record, and then the task ends. -/
theorem goes_afterLoading (channel user : Value) (r : Except Failure (Option Row))
    (hold : terms.Hold S bound) (hs : S s) (hw : Lending w lock s dice) (t : Task) (use : Use) :
    ∃ n w' t', n ≤ bound ∧
      Goes n (afterLoading w t lock channel user use r).1.forgetLocks
        (afterLoading w t lock channel user use r).2 w' t' ∧
      Ends S w' t' (match (loaded channel user r).2 with
        | .error e => (.error e, s.rows, dice)
        | .ok c => use.under terms c s.rows dice) := by
  unfold afterLoading
  rcases loaded channel user r with ⟨notes, result⟩
  have hnoted := hw.record t.trace notes
  cases result with
  | error e => exact ⟨0, _, _, by omega, .stay, (hnoted.ends_finish hs t (.error e)).forgetLocks⟩
  | ok c => exact goes_using hold hs hnoted use

/-- **The record of a character is read and used**, and then the task ends. -/
theorem goes_loading {x y : String} {use : Use} (hold : terms.Hold S bound) (hs : S s)
    (hw : Lending w lock s dice) (t : Task) :
    ∃ n w' t', n ≤ 2 * bound ∧
      Goes n w.forgetLocks (t.moveTo (.loading lock (.text x) (.text y) use .entering)) w' t' ∧
      Ends S w' t'
        (match (loaded (.text x) (.text y) (terms.load (rowAt s.rows (.text x) (.text y)))).2 with
        | .error e => (.error e, s.rows, dice)
        | .ok c => use.under terms c s.rows dice) := by
  have hstage : ∀ (w : World) (t : Task) choice phase,
      t.stage = .loading lock (.text x) (.text y) use phase →
      t.step 0 choice w =
        visit 0 w t choice (.borrow (.ask (.character (.text x) (.text y)))) phase
          (.loading lock (.text x) (.text y) use)
          fun w t r => afterLoading w t lock (.text x) (.text y) use r := by
    intro w t choice phase h
    unfold step
    rw [h]
  obtain ⟨n, notes, s', hn, hruns, hs', hrows⟩ := hold.loads hs x y
  obtain ⟨w₁, t₁, hleaves, -, -, hgoes⟩ := goes_of_runs (t := t) hstage hruns hw.store
  obtain ⟨m, w', t', hm, hrest, hends⟩ := goes_afterLoading (.text x) (.text y)
    (terms.load (rowAt s.rows (.text x) (.text y))) hold hs' (hw.leaves hleaves) t₁ use
  rw [hrows] at hends
  exact ⟨n + m, w', t', by omega, hgoes hrest, hends⟩

end Steps

end Task

/-! ### Orders in a quiet world -/

/-- An order on a character with a key of texts, or on none. -/
def Order.HasTexts (o : Order) : Prop :=
  ∀ channel user use, o.plan = .withCharacter channel user use →
    ∃ x y, channel = .text x ∧ user = .text y

theorem Order.hasTexts_of_view {o : Order} {x y : String}
    (h : o.intent = .view (.text x) (.text y)) : o.HasTexts := by
  intro _ _ _ hplan
  have hview := Order.plan_eq hplan fun _ h => nomatch h
  rw [h] at hview
  cases hview
  exact ⟨x, y, rfl, rfl⟩

theorem Order.hasTexts_of_adjust {o : Order} {x y : String} {name delta : Value}
    (h : o.intent = .adjust (.text x) (.text y) name delta) : o.HasTexts := by
  intro _ _ _ hplan
  have hadjust := Order.plan_eq hplan fun _ h => nomatch h
  rw [h, Intent.plan] at hadjust
  split at hadjust
  · cases hadjust
  · cases hadjust
    exact ⟨x, y, rfl, rfl⟩

namespace Task

variable {terms : Terms} {S : Store → Prop} {bound : Nat} {w : World}

/-- **A task that has come to a lock** has it, reads the record and ends. -/
theorem goes_reachLock (hold : terms.Hold S bound) (h : w.Quiet S) (t : Task) (x y : String)
    (use : Use) :
    ∃ n w' t', n ≤ 2 * bound + 1 ∧
      Goes n (reachLock 0 w t (.text x) (.text y)
          fun lock => .queued lock (.text x) (.text y) use).1.forgetLocks
        (reachLock 0 w t (.text x) (.text y)
          fun lock => .queued lock (.text x) (.text y) use).2 w' t' ∧
      Ends S w' t'
        (match (loaded (.text x) (.text y)
            (terms.load (rowAt w.store.rows (.text x) (.text y)))).2 with
          | .error e => (.error e, w.store.rows, w.entropy)
          | .ok c => use.under terms c w.store.rows w.entropy) := by
  have hheld := (h.locks.reach ⟨.text x, .text y⟩).forgetIdle
  generalize hlock : (w.locks.lockFor ⟨.text x, .text y⟩).2 = lock at hheld
  have hreach : reachLock 0 w t (.text x) (.text y)
      (fun lock => .queued lock (.text x) (.text y) use) =
        (w.withLocks (w.locks.reach ⟨.text x, .text y⟩ 0),
          t.moveTo (.queued lock (.text x) (.text y) use)) := by
    rw [← hlock]
    rfl
  rw [hreach]
  have hstep : (t.moveTo (.queued lock (.text x) (.text y) use)).step 0 .go
      (w.withLocks (w.locks.reach ⟨.text x, .text y⟩ 0)).forgetLocks =
        some ((w.withLocks (w.locks.reach ⟨.text x, .text y⟩ 0)).forgetLocks,
          (t.moveTo (.queued lock (.text x) (.text y) use)).moveTo
            (.loading lock (.text x) (.text y) use .entering)) := by
    have hhead := hheld.isHeldBy
    simp only [step, moveTo, advance, World.forgetLocks, World.withLocks, hhead, if_true]
  have hlending : Lending (w.withLocks (w.locks.reach ⟨.text x, .text y⟩ 0)).forgetLocks lock
      w.store w.entropy := ⟨rfl, hheld, rfl⟩
  obtain ⟨n, w', t', hn, hgoes, hends⟩ := goes_loading hold h.store hlending
    (t.moveTo (.queued lock (.text x) (.text y) use))
  exact ⟨n + 1, w', t', by omega, .go hstep hgoes, hends⟩

/-- What an order comes to is carried out once its task has begun. -/
theorem goes_begin (hold : terms.Hold S bound) (h : w.Quiet S) {o : Order} (ho : o.HasTexts)
    {t : Task} (ht : t.call = .execute o) :
    ∃ n w' t', n ≤ 2 * bound + 1 ∧ Goes n (begin 0 w t).1.forgetLocks (begin 0 w t).2 w' t' ∧
      Ends S w' t' (o.under terms w.store.rows w.entropy) := by
  simp only [begin, ht, Order.under]
  cases hplan : o.plan with
  | refuse e => exact ⟨0, _, _, by omega, .stay, (ends_finish h t (.error e)).forgetLocks⟩
  | rollDice n => exact ⟨0, _, _, by omega, .stay, (ends_finishRolling h t n).forgetLocks⟩
  | withCharacter channel user use =>
    obtain ⟨x, y, rfl, rfl⟩ := ho channel user use hplan
    exact goes_reachLock hold h t x y use

/-- **An order in a quiet world** goes to its end on the terms of the store. -/
theorem goes_execute (hold : terms.Hold S bound) (h : w.Quiet S) {o : Order} (ho : o.HasTexts) :
    ∃ n w' t', n ≤ 2 * bound + 2 ∧ Goes n w (.new (.execute o)) w' t' ∧
      Ends S w' t' (o.under terms w.store.rows w.entropy) := by
  obtain ⟨hstore, hlocks, hcall, -⟩ := beginTrace_spec w (.new (.execute o))
  have hbegun : (beginTrace w (.new (.execute o))).1.Quiet S :=
    ⟨by rw [hstore]; exact h.store, by rw [hlocks]; exact h.locks⟩
  obtain ⟨n, w', t', hn, hgoes, hends⟩ := goes_begin hold hbegun ho hcall
  rw [hstore, entropy_beginTrace] at hends
  exact ⟨n + 1, w', t', by omega, .go rfl hgoes, hends⟩

end Task

/-- **An order in a quiet world is carried out at once**, on the terms of the store, and the world
is quiet again. -/
theorem callOn_execute {terms : Terms} {S : Store → Prop} {bound : Nat} {w : World}
    (hold : terms.Hold S bound) (h : w.Quiet S) {o : Order} (ho : o.HasTexts)
    (hbound : 2 * bound + 2 ≤ 32 * (w.store.pool.size.toNat + w.store.connections.length + 20)) :
    ∃ w', Session.callOn w (.execute o) = ((o.under terms w.store.rows w.entropy).1, w') ∧
      w'.Quiet S ∧ w'.store.rows = (o.under terms w.store.rows w.entropy).2.1 ∧
      w'.entropy = (o.under terms w.store.rows w.entropy).2.2 := by
  obtain ⟨n, w', t', hn, hgoes, hends⟩ := Task.goes_execute hold h ho
  exact ⟨w', callOn_eq_of_goes hgoes hends.stage (by omega), hends.quiet, hends.rows, hends.dice⟩

/-! ### Worlds that serve -/

/-- A character with a key of texts can be asked for, and its row is the answer. -/
theorem select_text {d : Database} {t : CharacterTable} (ht : d.table = some t)
    (channel user : String) :
    d.select (.text channel) (.text user) = .ok (rowAt d.rows (.text channel) (.text user)) := by
  rw [rowAt_text, Database.rows, ht]
  simp [Database.select, ht, Database.keyTexts, keyText?, CharacterTable.find?]

/-- A store that serves gives every row and takes every record. -/
theorem hold_serves (file q : Nat) : Terms.full.Hold (fun s => s.Serves file q) 5 where
  loads := by
    intro s hs x y
    obtain ⟨table, ht, -⟩ := hs.table
    rw [← Store.database_of_file? hs.found] at ht
    have hstatement : NeedsTable (Question.character (.text x) (.text y)).statement :=
      needsTable_character
    obtain ⟨n, t, hn, hruns, hserves, hrows, -⟩ := hs.answers hstatement rfl (select_text ht x y)
    exact ⟨n + 1, _, t, by omega, .go (Visit.go_entering hs.current) hruns, hserves, hrows⟩
  saves := by
    intro s hs c
    obtain ⟨n, t, hn, hruns, hserves, hrows, -⟩ := hs.saves c
    exact ⟨n + 1, _, t, by omega, .go (Visit.go_entering hs.current) hruns, hserves, hrows⟩

/-- **An order in a world that serves is carried out at once**, and the world serves on. -/
theorem World.Serves.execute {w : World} {file q : Nat} (h : w.Serves file q) {o : Order}
    (ho : o.HasTexts) :
    ∃ w', Session.callOn w (.execute o) = ((o.atOnce w.store.rows w.entropy).1, w') ∧
      w'.Serves file q ∧ w'.store.rows = (o.atOnce w.store.rows w.entropy).2.1 ∧
      w'.entropy = (o.atOnce w.store.rows w.entropy).2.2 := by
  obtain ⟨w', hcall, hquiet, hrows, hdice⟩ :=
    callOn_execute (hold_serves file q) h.quiet ho (by omega)
  rw [o.under_full] at hcall hrows hdice
  exact ⟨w', hcall, hquiet.serves, hrows, hdice⟩

/-- **Whoever counts in a world that serves** gets the number of rows, and the world serves on. -/
theorem World.Serves.count {w : World} {file q : Nat} (h : w.Serves file q) :
    ∃ w', Session.callOn w (.borrow (.ask .count)) = (.ok (.count w.store.rows.length), w') ∧
      w'.Serves file q ∧ w'.store.rows = w.store.rows := by
  have hstatement : NeedsTable Question.count.statement := needsTable_count
  have hanswer : Question.count.ask w.store.database = .ok w.store.rows.length := by
    obtain ⟨t, ht, -⟩ := h.store.table
    rw [← Store.database_of_file? h.store.found] at ht
    simp [Question.ask, Database.count, ht, Store.rows, Database.rows]
  obtain ⟨n, t, hn, hruns, hserves, hrows, -⟩ := h.store.answers hstatement rfl hanswer
  obtain ⟨w', hcall, hleaves⟩ := callOn_of_runs (.borrow (.ask .count))
    (.go (Visit.go_entering h.store.current) hruns) rfl (by omega)
  refine ⟨w', hcall, (hleaves.quiet h.locks hserves).serves, ?_⟩
  rw [hleaves.store]
  exact hrows

/-- **A pool in memory serves once it is opened**, whatever size was asked for. -/
theorem exists_serves_memory (size : Int) (dice : Entropy) :
    ∃ w, Session.callOn (Session.world .empty .memory size dice) .openPool = (.ok .done, w) ∧
      w.Serves 0 0 ∧ w.store.rows = [] ∧ w.entropy = dice := by
  have hopens : ∃ w t, Task.Goes 4 (Session.world .empty .memory size dice) (.new .openPool) w t ∧
      t.stage = .done (.ok .done) ∧ w.Serves 0 0 ∧ w.store.rows = [] ∧ w.entropy = dice := by
    -- The steps are computed: coming to the pool, connecting, setting up, and the end.
    refine ⟨_, _, .go rfl (.go rfl (.go rfl (.go rfl .stay))), rfl, ⟨?_, ?_⟩, rfl, rfl⟩
    · refine ⟨rfl, Nat.zero_lt_one, List.cons_ne_nil 0 [], ?_, ?_, rfl, Nat.zero_lt_one, rfl, rfl,
        ⟨_, rfl, rfl⟩⟩
      · intro c hc
        obtain rfl := List.mem_singleton.1 hc
        exact ⟨_, rfl, rfl, rfl, rfl, rfl⟩
      · intro c k hk
        cases c with
        | zero =>
          cases hk
          rfl
        | succ c => cases hk
    · exact ⟨KeyLocks.sound_empty, fun _ => rfl⟩
  obtain ⟨w, t, hgoes, hdone, hw⟩ := hopens
  exact ⟨w, callOn_eq_of_goes hgoes hdone (by omega), hw⟩

end CharacterLedger.Ledger
