import CharacterLedger.Proofs.Ledger.Operations

/-!
# Serializability

Operations that are begun at once and take their steps in any order come to the same as if those
that succeed were carried out one by one, in the order in which they end.  On one character, that is
the order in which they came to its lock.  An operation that fails leaves no trace.

* `successes`, `arrivals` — what a history says of the operations;
* `Serial` — the invariant: the rows are those after the operations that have succeeded so far;
* `Serial.step` — a step of any operation preserves it;
* `serializable` — every run is a serial one.
-/

namespace CharacterLedger.Ledger

open CharacterLedger.Storage CharacterLedger.Table

/-! ### Histories -/

namespace Event

/-- The task that has succeeded, and what it came back with. -/
def success? : Event → Option (Nat × Reply)
  | ended id (.ok reply) => some (id, reply)
  | ended _ (.error _) | reached _ => none

/-- The task that has come to a lock. -/
def arrival? : Event → Option Nat
  | reached id => some id
  | ended .. => none

end Event

/-- The tasks that have succeeded, in the order in which they ended, and what they came back with.
-/
def successes (es : List Event) : List (Nat × Reply) := es.filterMap Event.success?

/-- The tasks that have come to a lock, in this order. -/
def arrivals (es : List Event) : List Nat := es.filterMap Event.arrival?

@[simp] theorem successes_append (es es' : List Event) :
    successes (es ++ es') = successes es ++ successes es' :=
  List.filterMap_append ..

@[simp] theorem arrivals_append (es es' : List Event) :
    arrivals (es ++ es') = arrivals es ++ arrivals es' :=
  List.filterMap_append ..

/-- A step succeeds when it ends a task in a reply. -/
theorem successes_between (id : Nat) (st st' : Stage) :
    (successes (Event.between id st st') = [] ∧ ∀ reply, st' ≠ .done (.ok reply)) ∨
      ∃ reply, st' = .done (.ok reply) ∧ successes (Event.between id st st') = [(id, reply)] := by
  cases st' with
  | done r =>
    cases r with
    | ok reply => exact .inr ⟨reply, rfl, by cases st <;> rfl⟩
    | error e => exact .inl ⟨by cases st <;> rfl, fun _ h => nomatch h⟩
  | ready | visiting | closing | queued | loading | saving | queuedToHold | holding =>
    exact .inl ⟨by cases st <;> rfl, fun _ h => nomatch h⟩

/-- A task comes to a lock when it begins. -/
theorem arrivals_between (id : Nat) (st st' : Stage) :
    arrivals (Event.between id st st') = [] ∨
      st = .ready ∧ arrivals (Event.between id st st') = [id] := by
  cases st' with
  | queued | queuedToHold =>
    cases st with
    | ready => exact .inr ⟨rfl, rfl⟩
    | visiting | closing | queued | loading | saving | queuedToHold | holding | done =>
      exact .inl rfl
  | ready | visiting | closing | loading | saving | holding | done =>
    exact .inl (by cases st <;> rfl)

/-- Those of the tasks that are about one character. -/
def onKey (ops : List Operation) (key : String × String) (ids : List Nat) : List Nat :=
  ids.filter fun id => (ops[id]?.map Operation.key) == some key

@[simp] theorem onKey_append (ops : List Operation) (key : String × String) (ids ids' : List Nat) :
    onKey ops key (ids ++ ids') = onKey ops key ids ++ onKey ops key ids' :=
  List.filter_append ..

theorem onKey_singleton {ops : List Operation} {id : Nat} {op : Operation} (h : ops[id]? = some op)
    (key : String × String) : onKey ops key [id] = if op.key = key then [id] else [] := by
  unfold onKey
  rw [List.filter_cons, h]
  simp

/-! ### What a step says in the history -/

namespace Operation

variable {op : Operation} {id : Nat} {s s' : Store} {l l' : KeyLocks} {st st' : Stage}

/-- What a step of an operation does to the line of its character, and says of it. -/
inductive Told (op : Operation) (id : Nat) (l : KeyLocks) (st : Stage) (l' : KeyLocks)
    (st' : Stage) : Prop
  /-- Nobody comes or goes. -/
  | nothing (locks : l' = l) (noSuccess : successes (Event.between id st st') = [])
      (noArrival : arrivals (Event.between id st st') = [])
  | comes (locks : l' = l.reach (lockKey op.key) id)
      (told : Event.between id st st' = [.reached id])
  | goes {lock : Nat} {r : Except Error Reply} (holds : st.lock? = some (lock, true))
      (locks : l' = l.release lock) (told : Event.between id st st' = [.ended id r])

/-- Every step of an operation is told so. -/
theorem told_of_moves (hmove : Task.Moves id op.call s l st s' l' st')
    (hfits : Task.Fits op.call st) : Told op id l st l' st' := by
  cases hmove with
  | refuse | acquire | acquireToHold | load | adjusts | save => exact .nothing rfl rfl rfl
  | @reach channel user use key about isKey =>
    obtain ⟨rfl, rfl, -⟩ := use?_eq_some about
    cases isKey
    exact .comes rfl rfl
  | loadFails | used | cannotAdjust | saveFails | saved | letGo => exact .goes rfl rfl rfl
  | rollAtOnce executes rolls => exact absurd rolls (op.not_rolls executes)
  | closeNothing closes | closeAtOnce closes | goClosing closes => cases op <;> cases closes
  | goVisiting purpose => cases op <;> cases purpose
  | reachToHold holds => cases op <;> cases holds
  | closeNext | closed => cases op <;> cases hfits
  | visit | visited => cases op <;> cases hfits

/-- Where an operation that has come to its lock stands. -/
theorem standing?_eq_some {t : Task} {lock : Nat} {holds : Bool} (hcall : t.call = op.call)
    (hfits : Task.Fits t.call t.stage) (hlock : t.stage.lock? = some (lock, holds)) :
    t.standing? = some ⟨lock, lockKey op.key, holds⟩ := by
  obtain ⟨key, hkey⟩ := Task.key?_of_fits hfits hlock
  have hop := hkey
  rw [hcall] at hop
  rw [key?_eq_some hop] at hkey
  exact Task.standing?_of_lock? hlock hkey

end Operation

/-! ### The invariant -/

/-- What is true of a system that began with some rows, after a history of operations. -/
structure Serial (ops : List Operation) (before : List Row) (es : List Event) (s : System) :
    Prop where
  /-- The rows are those after the operations that have succeeded, carried out one by one. -/
  replayed : serially ((successes es).filterMap fun success => ops[success.1]?) before =
    .ok ((successes es).map Prod.snd, s.rows)
  results : ∀ id reply, (id, reply) ∈ successes es ↔ s.result? id = some (.ok reply)
  once : ((successes es).map Prod.fst).Nodup
  arrived : (arrivals es).Nodup
  begun : ∀ id, id ∈ arrivals es → ∃ t, s.tasks[id]? = some t ∧ t.stage ≠ .ready
  seen : ∀ (id : Nat) (t : Task), s.tasks[id]? = some t → Seen s.rows t.stage
  /-- Those who have come to the lock of a character have left its line, the ones that have
  succeeded in the order in which they came, or still stand in it. -/
  order : ∀ key, ∃ left, onKey ops key (arrivals es) =
      left ++ s.world.locks.lineOf (lockKey key) ∧
    (onKey ops key ((successes es).map Prod.fst)).Sublist left

namespace Serial

variable {ops : List Operation} {before : List Row} {es : List Event} {s s' : System} {id : Nat}
  {t t' : Task} {op : Operation}

/-- The line of a character is made of those who have come and have not left, in this order. -/
theorem order_of_told (h : Serial ops before es s) (hsound : s.Sound) (hop : ops[id]? = some op)
    (htold : Operation.Told op id s.world.locks t.stage s'.world.locks t'.stage)
    (ht : s.tasks[id]? = some t) (hcall : t.call = op.call) (key : String × String) :
    ∃ left, onKey ops key (arrivals (es ++ Event.between id t.stage t'.stage)) =
        left ++ s'.world.locks.lineOf (lockKey key) ∧
      (onKey ops key
        ((successes (es ++ Event.between id t.stage t'.stage)).map Prod.fst)).Sublist left := by
  obtain ⟨left, harrivals, hleft⟩ := h.order key
  rw [arrivals_append, successes_append, List.map_append, onKey_append, onKey_append, harrivals]
  cases htold with
  | nothing locks noSuccess noArrival =>
    rw [locks, noSuccess, noArrival]
    exact ⟨left, by simp [onKey], by simpa [onKey] using hleft⟩
  | comes locks told =>
    rw [told, locks, KeyLocks.lineOf_reach hsound.locks.sound]
    refine ⟨left, ?_, (List.append_nil _).symm ▸ hleft⟩
    rw [show arrivals [Event.reached id] = [id] from rfl, onKey_singleton hop, List.append_assoc]
    by_cases hkey : op.key = key
    · rw [if_pos hkey, if_pos (by rw [hkey])]
    · rw [if_neg hkey, if_neg fun he => hkey (lockKey_inj he).symm, List.append_nil]
  | @goes lock r holds locks told =>
    have hstanding : s.standing id = some ⟨lock, lockKey op.key, true⟩ := by
      rw [System.standing, ht]
      exact Operation.standing?_eq_some hcall (hsound.fits id t ht) holds
    rw [told, locks, KeyLocks.lineOf_release hsound.locks.sound
      (hsound.locks.registered id _ hstanding)]
    rw [show arrivals [Event.ended id r] = [] from rfl]
    by_cases hkey : op.key = key
    · -- Whoever leaves has stood at the head of the line.
      subst hkey
      obtain ⟨rest, hrest⟩ : ∃ rest, s.world.locks.lineOf (lockKey op.key) = id :: rest := by
        rw [hsound.locks.lineOf_eq hstanding]
        exact List.head?_eq_some_iff.1 (hsound.locks.holder id _ hstanding rfl)
      refine ⟨left ++ [id], ?_, ?_⟩
      · rw [if_pos rfl, hrest]
        simp [onKey]
      · refine List.Sublist.append hleft ?_
        cases r with
        | ok reply =>
          have hended : onKey ops op.key ((successes [Event.ended id (.ok reply)]).map Prod.fst) =
              [id] := (onKey_singleton hop op.key).trans (if_pos rfl)
          exact hended ▸ List.Sublist.refl [id]
        | error e => exact List.nil_sublist _
    · refine ⟨left, ?_, ?_⟩
      · rw [if_neg fun he => hkey (lockKey_inj he).symm]
        simp [onKey]
      · have hnone : onKey ops key ((successes [Event.ended id r]).map Prod.fst) = [] := by
          cases r with
          | ok reply =>
            rw [show (successes [Event.ended id (.ok reply)]).map Prod.fst = [id] from rfl,
              onKey_singleton hop, if_neg hkey]
          | error e => rfl
        rw [hnone, List.append_nil]
        exact hleft

section Step

variable {choice : Choice}

/-- A task that can move has not succeeded. -/
theorem not_mem_successes (h : Serial ops before es s) (ht : s.tasks[id]? = some t)
    (hstage : ∀ r, t.stage ≠ .done r) (reply : Reply) : (id, reply) ∉ successes es := by
  intro hm
  obtain ⟨u, hu, hdone⟩ := System.result?_eq_some_iff.1 ((h.results id reply).1 hm)
  rw [ht, Option.some.injEq] at hu
  exact hstage _ (hu ▸ hdone)

theorem results_of_step (h : Serial ops before es s) (ht : s.tasks[id]? = some t)
    (ht' : s'.tasks[id]? = some t')
    (hothers : ∀ other, other ≠ id → s'.tasks[other]? = s.tasks[other]?)
    (hstage : ∀ r, t.stage ≠ .done r) (other : Nat) (reply : Reply) :
    (other, reply) ∈ successes (es ++ Event.between id t.stage t'.stage) ↔
      s'.result? other = some (.ok reply) := by
  rw [successes_append, List.mem_append, h.results]
  have hsuccesses := successes_between id t.stage t'.stage
  by_cases hother : other = id
  · subst hother
    have hno : s.result? other ≠ some (.ok reply) := fun hr =>
      h.not_mem_successes ht hstage reply ((h.results other reply).2 hr)
    rw [System.result?_eq_some_iff (s := s'), ht']
    obtain ⟨hnew, hfails⟩ | ⟨reply', hdone, hnew⟩ := hsuccesses
    · simp [hnew, hno, hfails reply]
    · rw [hnew]
      simp [hno, hdone, eq_comm]
  · have hsame : s'.result? other = s.result? other := by
      rw [System.result?, System.result?, hothers other hother]
    rw [hsame]
    obtain ⟨hnew, -⟩ | ⟨reply', -, hnew⟩ := hsuccesses
    · simp [hnew]
    · simp [hnew, hother]

theorem once_of_step (h : Serial ops before es s) (ht : s.tasks[id]? = some t)
    (hstage : ∀ r, t.stage ≠ .done r) (st' : Stage) :
    ((successes (es ++ Event.between id t.stage st')).map Prod.fst).Nodup := by
  rw [successes_append, List.map_append]
  obtain ⟨hnew, -⟩ | ⟨reply, -, hnew⟩ := successes_between id t.stage st'
  · simpa [hnew] using h.once
  · rw [hnew, List.nodup_append]
    refine ⟨h.once, by simp, ?_⟩
    intro other hm other' hm' heq
    obtain ⟨⟨who, reply'⟩, hold, rfl⟩ := List.mem_map.1 hm
    rw [show who = id from heq.trans (List.mem_singleton.1 hm')] at hold
    exact h.not_mem_successes ht hstage reply' hold

theorem arrived_of_step (h : Serial ops before es s) (ht : s.tasks[id]? = some t) (st' : Stage) :
    (arrivals (es ++ Event.between id t.stage st')).Nodup := by
  rw [arrivals_append]
  obtain hnew | ⟨hready, hnew⟩ := arrivals_between id t.stage st'
  · simpa [hnew] using h.arrived
  · rw [hnew, List.nodup_append]
    refine ⟨h.arrived, by simp, ?_⟩
    intro other hm other' hm' heq
    rw [heq, List.mem_singleton.1 hm'] at hm
    obtain ⟨u, hu, hbegun⟩ := h.begun id hm
    rw [ht, Option.some.injEq] at hu
    exact hbegun (hu ▸ hready)

theorem begun_of_step (h : Serial ops before es s) (ht' : s'.tasks[id]? = some t')
    (hothers : ∀ other, other ≠ id → s'.tasks[other]? = s.tasks[other]?)
    (hbegun : t'.stage ≠ .ready) {other : Nat}
    (hm : other ∈ arrivals (es ++ Event.between id t.stage t'.stage)) :
    ∃ u, s'.tasks[other]? = some u ∧ u.stage ≠ .ready := by
  by_cases hother : other = id
  · subst hother
    exact ⟨t', ht', hbegun⟩
  · rw [hothers other hother]
    rw [arrivals_append] at hm
    refine h.begun other ((List.mem_append.1 hm).resolve_right ?_)
    obtain hnew | ⟨-, hnew⟩ := arrivals_between id t.stage t'.stage
    · simp [hnew]
    · simpa [hnew] using hother

/-- **A step of any operation preserves the invariant.** -/
theorem step (h : Serial ops before es s) (hsound : s.Sound) (hone : s.OneDatabase)
    (hcalls : s.calls = ops.map Operation.call) (hstep : s.step id choice = some s') :
    Serial ops before (es ++ s.events s' id) s' := by
  obtain ⟨t, t', ht, hset, -, hmove⟩ := System.moves_of_step hstep
  obtain ⟨op, hop, hcall⟩ := System.exists_call_eq hcalls ht
  obtain ⟨ht', hothers⟩ := System.tasks_of_set ht hset
  have hstage : ∀ r, t.stage ≠ .done r := by
    intro r hr
    rw [hr] at hmove
    exact hmove.not_done
  have hbegun : t'.stage ≠ .ready := by
    intro hready
    rw [hready] at hmove
    exact hmove.not_ready
  have hrows := System.rows_of_move hsound hone ht hset hmove
  have hanswers := System.answers hsound hone ht
  have hfits := hsound.fits id t ht
  rw [hcall] at hmove hfits
  have hseen := Task.seen_of_moves hmove (h.seen id t ht) hanswers
    (Task.rows_eq_of_not_commits hrows)
  have hends := Operation.of_moves hmove hfits (h.seen id t ht) hrows
  rw [show s.events s' id = Event.between id t.stage t'.stage by simp only [System.events, ht, ht']]
  refine ⟨?_, h.results_of_step ht ht' hothers hstage, h.once_of_step ht hstage _,
    h.arrived_of_step ht _, fun other => h.begun_of_step ht' hothers hbegun, ?_,
    h.order_of_told hsound hop (Operation.told_of_moves hmove hfits) ht hcall⟩
  · rw [successes_append, List.filterMap_append, List.map_append]
    obtain ⟨hnew, hfails⟩ | ⟨reply, hdone, hnew⟩ := successes_between id t.stage t'.stage
    · obtain ⟨reply, hdone, -⟩ | ⟨-, hsame⟩ := hends
      · exact absurd hdone (hfails reply)
      · rw [hnew, hsame]
        simpa using h.replayed
    · obtain ⟨reply', hdone', happly⟩ | ⟨hfails, -⟩ := hends
      · rw [hdone] at hdone'
        cases hdone'
        rw [hnew]
        simpa [hop] using serially_concat h.replayed happly
      · exact absurd hdone (hfails reply)
  · intro other u hu
    by_cases hother : other = id
    · subst hother
      rw [ht', Option.some.injEq] at hu
      rw [← hu]
      exact hseen
    · rw [hothers other hother] at hu
      refine System.seen_of_step hsound ?_ h.seen ht hrows hu hother
      intro id t ht
      obtain ⟨op, -, hop⟩ := System.exists_call_eq hcalls ht
      exact hop ▸ op.hasTexts

end Step

/-- Forgetting idle locks changes no line. -/
theorem forgetLocks (h : Serial ops before es s) (hsound : s.Sound) :
    Serial ops before es s.forgetLocks := by
  refine ⟨h.replayed, h.results, h.once, h.arrived, h.begun, h.seen, ?_⟩
  intro key
  rw [show s.forgetLocks.world.locks = s.world.locks.forgetIdle from rfl,
    KeyLocks.lineOf_forgetIdle hsound.locks.sound]
  exact h.order key

/-- Before anybody has begun there is nothing to be said. -/
theorem start {w : World} (hrest : w.AtRest) (ops : List Operation) :
    Serial ops w.store.rows [] (System.start w (ops.map Operation.call)) := by
  refine ⟨rfl, ?_, List.nodup_nil, List.nodup_nil, (fun _ hm => nomatch hm), ?_, ?_⟩
  · intro id reply
    refine ⟨(fun hm => nomatch hm), ?_⟩
    intro hr
    obtain ⟨t, ht, hdone⟩ := System.result?_eq_some_iff.1 hr
    rw [(System.stage_of_start ht).2] at hdone
    cases hdone
  · intro id t ht
    rw [(System.stage_of_start ht).2]
    exact trivial
  · intro key
    refine ⟨[], ?_, List.nil_sublist _⟩
    show [] = [] ++ w.locks.lineOf (lockKey key)
    unfold KeyLocks.lineOf
    cases w.locks.register.lookup (lockKey key) with
    | none => rfl
    | some lock => simp [hrest.idle lock]

end Serial

/-! ### Runs -/

/-- **Runs of operations are serializable.**  Whatever the order of the steps, and whichever waits
expire or statements fail, the replies and the rows after a run are those of the operations that
have succeeded, carried out one by one in the order in which they ended; and operations on one
character have ended in the order in which they came to its lock. -/
theorem serializable {w : World} {ops : List Operation} {es : List Event} {s : System}
    (hrest : w.AtRest) (hone : w.store.OneDatabase)
    (hrun : Run (System.start w (ops.map Operation.call)) es s) :
    serially ((successes es).filterMap fun success => ops[success.1]?) w.store.rows =
        .ok ((successes es).map Prod.snd, s.rows) ∧
      (∀ id reply, (id, reply) ∈ successes es ↔ s.result? id = some (.ok reply)) ∧
      ((successes es).map Prod.fst).Nodup ∧ (arrivals es).Nodup ∧
      ∀ key, (onKey ops key ((successes es).map Prod.fst)).Sublist
        (onKey ops key (arrivals es)) := by
  have hopen : ∀ call, call ∈ ops.map Operation.call → call ≠ .closePool := by
    intro call hcall
    obtain ⟨op, -, rfl⟩ := List.mem_map.1 hcall
    cases op <;> exact fun h => nomatch h
  have hreads : ∀ e, Call.borrow e ∈ ops.map Operation.call →
      ¬ (Purpose.borrow e).IsTransaction := by
    intro e hcall
    obtain ⟨op, -, heq⟩ := List.mem_map.1 hcall
    cases op <;> cases heq
  have hsound := System.sound_start hrest hopen
  have honeStart := System.oneDatabase_start hone hreads
  have hcalls : ∀ {es s}, Run (System.start w (ops.map Operation.call)) es s →
      s.calls = ops.map Operation.call := by
    intro es s hrun
    rw [hrun.calls, System.calls_start]
  have hserial : Serial ops w.store.rows es s := by
    induction hrun with
    | start => exact .start hrest ops
    | step run step ih =>
      exact ih.step (run.sound hsound) (run.oneDatabase hsound honeStart) (hcalls run) step
    | forget run ih => exact ih.forgetLocks (run.sound hsound)
  refine ⟨hserial.replayed, hserial.results, hserial.once, hserial.arrived, ?_⟩
  intro key
  obtain ⟨left, harrivals, hleft⟩ := hserial.order key
  rw [harrivals]
  exact hleft.trans (List.sublist_append_left left _)

/-- Three operations on one character: the first raises a rating, the second waits for a connection
until its wait expires, and the third reads what the first has written. -/
theorem serializable_of_three :
    ∃ es s,
      Run (System.start (Session.world .empty .memory 1 (.script 0 []))
        ([.adjust "c" "u" (.text "hack") (.int 3), .adjust "c" "u" (.text "hack") (.int (-1)),
          .get "c" "u" (.text "hack")].map Operation.call)) es s ∧
      arrivals es = [0, 1, 2] ∧ (successes es).map Prod.fst = [0, 2] ∧
      serially [.adjust "c" "u" (.text "hack") (.int 3), .get "c" "u" (.text "hack")] [] =
        .ok ((successes es).map Prod.snd, s.rows) := by
  let ops : List Operation := [.adjust "c" "u" (.text "hack") (.int 3),
    .adjust "c" "u" (.text "hack") (.int (-1)), .get "c" "u" (.text "hack")]
  let s₀ := System.start (Session.world .empty .memory 1 (.script 0 [])) (ops.map Operation.call)
  let steps : List (Nat × Choice) := [(0, .go), (1, .go), (2, .go)] ++
    List.replicate 11 (0, .go) ++ List.replicate 6 (1, .go) ++ [(1, .expire)] ++
    List.replicate 5 (2, .go)
  have htold : (s₀.follow steps).map (fun r => (arrivals r.1, (successes r.1).map Prod.fst)) =
      some ([0, 1, 2], [0, 2]) := by decide +kernel
  obtain ⟨⟨es, s⟩, hfollow, htold⟩ := Option.map_eq_some_iff.1 htold
  obtain ⟨harrivals, hsuccesses⟩ := Prod.mk.inj htold
  have hrun : Run s₀ es s := Run.start.of_follow hfollow
  have hone : (Session.world .empty .memory 1 (.script 0 [])).store.OneDatabase := by
    refine Store.oneDatabase_of_fresh trivial ?_
    intro path id hid
    rw [Disk.fileAt?_empty] at hid
    cases hid
  obtain ⟨hserial, -⟩ := serializable (World.atRest_world ..) hone hrun
  refine ⟨es, s, hrun, harrivals, hsuccesses, ?_⟩
  have hops : (successes es).filterMap (fun success => ops[success.1]?) =
      ((successes es).map Prod.fst).filterMap fun id => ops[id]? := by
    rw [List.filterMap_map]
    rfl
  rw [hops, hsuccesses] at hserial
  exact hserial

end CharacterLedger.Ledger
