import CharacterLedger.Proofs.Storage.Causes
import CharacterLedger.Storage.Visit

/-!
# The moves of a visit

A step of a visit is computed by one function for each phase and choice.  What is proved about
visits needs less than that: where the visit was, where it has got to, and what became of the
store.  This module lists the moves a visit can make, one rule each, and shows that every step is
one of them:

* `Visit.Mishap`, `Visit.Cause` — why a visit can meet a fault;
* `Visit.Begins`, `Visit.CountsIn` — the two ends of opening a pool;
* `Visit.Moves` — a move, from a phase and a store to a store and a phase or a result;
* `Visit.moves_of_step` — every step of a visit, by whatever choice, is a move.

Later modules go through the rules of `Moves` and never unfold a step again.
-/

namespace CharacterLedger.Storage

open CharacterLedger.Table

/-! ### What phases stand for -/

namespace Phase

variable {α : Type}

/-- The connections that a visit has in its hands. -/
def held : Phase α → List Nat
  | connecting made => made
  | preparing c | checking _ c | replacing _ c | working _ c | committing _ c | undoing _ c _
  | returning _ c _ => [c]
  | entering | awaitingOpening | abandoning _ | awaiting _ => []

/-- The queue that a visit waits at, or gives its connection back to. -/
def queue? : Phase α → Option Nat
  | awaiting q | checking q _ | replacing q _ | working q _ | committing q _ | undoing q _ _
  | returning q _ _ => some q
  | entering | awaitingOpening | connecting _ | preparing _ | abandoning _ => none

/-- Whether a visit opens the pool. -/
def isOpening : Phase α → Bool
  | connecting _ | preparing _ | abandoning _ => true
  | _ => false

/-- Whether a visit opens the pool or stands in line to open it. -/
def isInLine : Phase α → Bool
  | awaitingOpening => true
  | phase => phase.isOpening

/-- The connection that a visit has begun a transaction on. -/
def transaction? : Phase α → Option Nat
  | committing _ c | undoing _ c _ => some c
  | _ => none

/-- The connection that a visit runs its statements on. -/
def inUse? : Phase α → Option Nat
  | preparing c | working _ c | committing _ c | undoing _ c _ => some c
  | _ => none

/-- The connections that a visit that opens the pool has made so far. -/
def made? : Phase α → Option (List Nat)
  | connecting made => some made
  | preparing c => some [c]
  | _ => none

end Phase

namespace Progress

variable {α β : Type}

/-- What can be said of the phase that a visit goes on in, and `d` if the visit has ended. -/
def yields (f : (α : Type) → Phase α → β) (d : β) : Progress α → β
  | going phase => f α phase
  | ended _ => d

/-- What a visit leaves in its hands. -/
def held (next : Progress α) : List Nat := next.yields @Phase.held []

/-- The connection that a visit has begun a transaction on and leaves so. -/
def transaction? (next : Progress α) : Option Nat := next.yields @Phase.transaction? none

end Progress

namespace Purpose

/-- Whether an answer is that to the question that a connection was borrowed for. -/
def Answers (s : Store) (c : Nat) : (p : Purpose) → p.Answer → Prop
  | .borrow (.ask question), a => s.CarriedOut c question.ask a
  | _, _ => False

/-- Whether a transaction makes one database out of another. -/
def Writes : Purpose → Database → Database → Prop
  | .borrow (.save character), d, e => d.upsert character = .ok e
  | .borrow (.change x), d, e => x.apply d = .ok e
  | _, _, _ => False

/-- Whether a connection is borrowed for a transaction. -/
def IsTransaction : Purpose → Prop
  | .borrow (.save _) | .borrow (.change _) => True
  | _ => False

/-- Whether a change of the database goes past the ledger. -/
def IsChange : Purpose → Prop
  | .borrow (.change _) => True
  | _ => False

/-- Whether the statement that a connection is borrowed for can be at fault itself, by its
parameters or by what it finds in a database. -/
def Objects : Purpose → Fault → Prop
  | .borrow (.ask question), f => question.bound = .error f ∨ ∃ d, question.ask d = .error f
  | .borrow (.save character), f => ∃ d : Database, d.upsert character = .error f
  | .borrow (.change x), f => x.bound = .error f ∨ ∃ d, x.apply d = .error f
  | _, _ => False

/-- Whether a connection is borrowed for no statement at all. -/
def IsIdle : Purpose → Prop
  | .borrow .keep | .borrow .breakConnection => True
  | _ => False

end Purpose

namespace Visit

/-! ### Causes -/

/-- A fault that a visit at a phase can meet whatever its statement is. -/
inductive Mishap (s : Store) {α : Type} (phase : Phase α) : Fault → Prop
  /-- The database or the file system reports it. -/
  | store {f : Fault} (reported : f.isOfStore = true) : Mishap s phase f
  /-- The file of the pool has a path that no file can have. -/
  | path {path : String} (named : s.pool.location = .file path)
      (zero : Location.hasZero path = true) : Mishap s phase .zeroCharacter
  /-- The connection that the visit uses has been closed. -/
  | closed {c : Nat} (used : phase.inUse? = some c) (isClosed : s.isOpen c = false) :
      Mishap s phase .inactive

/-- Why a visit at a phase can meet a fault. -/
inductive Cause (p : Purpose) (s : Store) (phase : Phase p.Answer) (f : Fault) : Prop
  | mishap (mishap : Mishap s phase f)
  /-- The statement itself is at fault. -/
  | statement (objects : p.Objects f)

namespace Cause

variable {p : Purpose} {s t : Store} {phase : Phase p.Answer} {f : Fault}

theorem ofStore (h : f.isOfStore = true) : Cause p s phase f := .mishap (.store h)

theorem ofDatabase (h : f.isOfDatabase = true) : Cause p s phase f :=
  .ofStore (Fault.isOfStore_of_isOfDatabase h)

/-- The causes of failing to make a directory or a connection. -/
theorem ofPath (h : f.isOfStore = true ∨ f = .zeroCharacter ∧
    ∃ path, s.pool.location = .file path ∧ Location.hasZero path = true) : Cause p s phase f := by
  obtain h | ⟨rfl, path, hnamed, hzero⟩ := h
  · exact .ofStore h
  · exact .mishap (.path hnamed hzero)

/-- The causes of a failing statement on the connection that the visit uses. -/
theorem ofStatement {c : Nat} {objects : Prop}
    (h : f.isOfStore = true ∨ (f = .inactive ∧ s.isOpen c = false) ∨ objects)
    (hused : phase.inUse? = some c) (hobjects : objects → p.Objects f) : Cause p s phase f := by
  obtain h | ⟨rfl, hclosed⟩ | h := h
  · exact .ofStore h
  · exact .mishap (.closed hused hclosed)
  · exact .statement (hobjects h)

end Cause

/-! ### Moves -/

/-- Where a visit is once the pool is open with a queue. -/
def arrival : (p : Purpose) → Nat → Progress p.Answer
  | .borrow _, q => .going (.awaiting q)
  | .openPool, _ => .ended (.ok ())

/-- The visit at the head of the line begins to open the pool. -/
inductive Begins (p : Purpose) (s : Store) : Store → Progress p.Answer → Prop
  | refused {t : Store} {f : Fault} (made : makeDirectory s = (t, .error f)) :
      Begins p s (t.withPool t.pool.leave) (.ended (.error (.fault f)))
  | empty {t : Store} (made : makeDirectory s = (t, .ok ())) (small : t.pool.size ≤ 0) :
      Begins p s (t.withPool (t.pool.install []).leave) (arrival p t.pool.queues.length)
  | going {t : Store} (made : makeDirectory s = (t, .ok ())) (large : 0 < t.pool.size) :
      Begins p s t (.going (.connecting []))

/-- One more connection is counted in, which may have been the last. -/
inductive CountsIn (p : Purpose) (s : Store) (made : List Nat) (c : Nat) :
    Store → Progress p.Answer → Prop
  | last (enough : s.pool.size ≤ made.length + 1) :
      CountsIn p s made c (s.withPool (s.pool.install (made ++ [c])).leave)
        (arrival p s.pool.queues.length)
  | more (few : made.length + 1 < s.pool.size) :
      CountsIn p s made c s (.going (.connecting (made ++ [c])))

/-- The store with a connection among those that closing the pool closes. -/
def track (s : Store) (c : Nat) : Store :=
  s.withPool { s.pool with tracked := s.pool.tracked ++ [c] }

/-- A move of the visit of `me`.  Whatever a rule does not mention stays as it is. -/
inductive Moves (me : Nat) (p : Purpose) (s : Store) :
    Phase p.Answer → Store → Progress p.Answer → Prop
  /-- The pool is open. -/
  | arrive {q : Nat} (isOpen : s.pool.current = some q) : Moves me p s .entering s (arrival p q)
  /-- Somebody else opens the pool. -/
  | lineUp (isClosed : s.pool.current = none) (others : s.pool.opening ≠ []) :
      Moves me p s .entering (s.withPool (s.pool.join me)) (.going .awaitingOpening)
  /-- Nobody else opens the pool. -/
  | beginFirst {t : Store} {next : Progress p.Answer} (isClosed : s.pool.current = none)
      (alone : s.pool.opening = []) (begins : Begins p (s.withPool (s.pool.join me)) t next) :
      Moves me p s .entering t next
  /-- There is no directory for the file of the pool. -/
  | turnAway {f : Fault} (isClosed : s.pool.current = none) (cause : Cause p s .entering f) :
      Moves me p s .entering s (.ended (.error (.fault f)))
  /-- Somebody else has opened the pool. -/
  | arriveLater {q : Nat} (isOpen : s.pool.current = some q)
      (first : s.pool.opening.head? = some me) :
      Moves me p s .awaitingOpening (s.withPool s.pool.leave) (arrival p q)
  /-- Somebody else has failed to open the pool. -/
  | beginLater {t : Store} {next : Progress p.Answer} (isClosed : s.pool.current = none)
      (first : s.pool.opening.head? = some me) (begins : Begins p s t next) :
      Moves me p s .awaitingOpening t next
  /-- There is no directory for the file of the pool even now. -/
  | turnAwayLater {f : Fault} (first : s.pool.opening.head? = some me)
      (cause : Cause p s .awaitingOpening f) :
      Moves me p s .awaitingOpening (s.withPool s.pool.leave) (.ended (.error (.fault f)))
  /-- The first connection is made. -/
  | connectFirst {t : Store} {c : Nat} (made : s.connect = .ok (t, c)) :
      Moves me p s (.connecting []) (track t c) (.going (.preparing c))
  /-- Another connection is made. -/
  | connectNext {made : List Nat} {t u : Store} {c : Nat} {next : Progress p.Answer}
      (some : made ≠ []) (connected : s.connect = .ok (t, c))
      (counts : CountsIn p (track t c) made c u next) :
      Moves me p s (.connecting made) u next
  /-- A connection cannot be made. -/
  | connectFails {made : List Nat} {f : Fault} (cause : Cause p s (.connecting made) f) :
      Moves me p s (.connecting made) s (.going (.abandoning f))
  /-- The database needs no setting up. -/
  | prepared {c : Nat} {t u : Store} {next : Progress p.Answer} (alike : s.Alike t)
      (counts : CountsIn p t [] c u next) :
      Moves me p s (.preparing c) u next
  /-- The database is set up. -/
  | setUp {c : Nat} {t u : Store} {d : Database} {next : Progress p.Answer} (alike : s.Alike t)
      (free : s.isBusy c = false)
      (carried : s.CarriedOut c (fun d => .ok d.setUp) d)
      (counts : CountsIn p (t.write c d) [] c u next) :
      Moves me p s (.preparing c) u next
  /-- The database cannot be set up. -/
  | preparingFails {c : Nat} {t : Store} {f : Fault} (alike : s.Alike t)
      (cause : Cause p s (.preparing c) f) :
      Moves me p s (.preparing c) t (.going (.abandoning f))
  /-- One connection of a failed opening is closed. -/
  | abandonOne {f : Fault} {c : Nat} (last : s.pool.tracked.getLast? = some c) :
      Moves me p s (.abandoning f) (s.closeLast c) (.going (.abandoning f))
  /-- All connections of a failed opening are closed. -/
  | abandoned {f : Fault} (none : s.pool.tracked = []) :
      Moves me p s (.abandoning f) (s.withPool s.pool.leave) (.ended (.error (.fault f)))
  /-- A connection in memory is taken as it is. -/
  | takeInMemory {q c : Nat} {rest : List Nat} (inMemory : s.pool.location = .memory)
      (atHand : s.pool.queue q = c :: rest) :
      Moves me p s (.awaiting q) (s.withPool (s.pool.drop q)) (.going (.working q c))
  /-- A connection to a file is looked at first. -/
  | takeToFile {q c : Nat} {rest : List Nat} (toFile : s.pool.location ≠ .memory)
      (atHand : s.pool.queue q = c :: rest) :
      Moves me p s (.awaiting q) (s.withPool (s.pool.drop q)) (.going (.checking q c))
  /-- No connection has come back in time. -/
  | giveUp {q : Nat} : Moves me p s (.awaiting q) s (.ended (.error .timeout))
  /-- The connection is sound. -/
  | sound {q c : Nat} (isOpen : s.isOpen c = true) :
      Moves me p s (.checking q c) s (.going (.working q c))
  /-- The connection is of no use any more. -/
  | unsound {q c : Nat} : Moves me p s (.checking q c) s (.going (.replacing q c))
  /-- A new connection takes the place of the old one. -/
  | replace {q c new : Nat} {t : Store} (made : s.connect = .ok (t, new)) :
      Moves me p s (.replacing q c) (t.withPool (t.pool.retrack c new)) (.going (.working q new))
  /-- No new connection can be made, and the old one goes back. -/
  | replaceFails {q c : Nat} {f : Fault} (cause : Cause p s (.replacing q c) f) :
      Moves me p s (.replacing q c) (s.withPool (s.pool.put q c)) (.ended (.error (.fault f)))
  /-- A question is answered. -/
  | answer {q c : Nat} {t : Store} {a : p.Answer} (alike : s.Alike t) (answers : p.Answers s c a) :
      Moves me p s (.working q c) t (.going (.returning q c a))
  /-- The statement of a transaction is carried out, but not ended. -/
  | draft {q c : Nat} {t : Store} {k : Connection} {d : Database} (alike : s.Alike t)
      (free : s.isBusy c = false) (found : s.connection? c = some k) (isOpen : k.isOpen = true)
      (writes : p.Writes (s.content k) d) :
      Moves me p s (.working q c) (t.setDraft c (some d)) (.going (.committing q c))
  /-- A change past the ledger is made at once. -/
  | writeAtOnce {q c : Nat} {t : Store} {d : Database} {a : p.Answer} (alike : s.Alike t)
      (free : s.isBusy c = false) (change : p.IsChange) :
      Moves me p s (.working q c) (t.write c d) (.going (.returning q c a))
  /-- The statement of a transaction fails once the transaction has begun. -/
  | strike {q c : Nat} {t : Store} {f : Fault} (alike : s.Alike t) (saving : p.IsTransaction)
      (cause : Cause p s (.working q c) f) :
      Moves me p s (.working q c) (t.beginTransaction c) (.going (.undoing q c f))
  /-- The statement of a transaction is kept out by another transaction for too long. -/
  | keptOut {q c : Nat} {f : Fault} (saving : p.IsTransaction)
      (cause : Cause p s (.working q c) f) :
      Moves me p s (.working q c) s (.going (.undoing q c f))
  /-- A statement fails, and the connection goes back. -/
  | refuse {q c : Nat} {t : Store} {f : Fault} (alike : s.Alike t)
      (cause : Cause p s (.working q c) f) :
      Moves me p s (.working q c) (t.withPool (t.pool.put q c)) (.ended (.error (.fault f)))
  /-- A connection that was kept goes back. -/
  | letGo {q c : Nat} {a : p.Answer} (idle : p.IsIdle) :
      Moves me p s (.working q c) (s.withPool (s.pool.put q c)) (.ended (.ok a))
  /-- A connection is closed behind the back of the pool. -/
  | breakOff {q c : Nat} {a : p.Answer} (idle : p.IsIdle) :
      Moves me p s (.working q c) ((s.close c).withPool (s.pool.put q c)) (.ended (.ok a))
  /-- A transaction is ended. -/
  | commit {q c : Nat} {a : p.Answer} (isOpen : s.isOpen c = true) (saving : p.IsTransaction) :
      Moves me p s (.committing q c) ((s.commit c).withPool ((s.commit c).pool.put q c))
        (.ended (.ok a))
  /-- A transaction is gone with its connection. -/
  | commitLost {q c : Nat} (isClosed : s.isOpen c = false) :
      Moves me p s (.committing q c) (s.withPool (s.pool.put q c))
        (.ended (.error (.fault .inactive)))
  /-- A transaction cannot be ended. -/
  | commitFails {q c : Nat} {f : Fault} (cause : Cause p s (.committing q c) f) :
      Moves me p s (.committing q c) s (.going (.undoing q c f))
  /-- A transaction is taken back. -/
  | undo {q c : Nat} {f : Fault} (isOpen : s.isOpen c = true) :
      Moves me p s (.undoing q c f) ((s.setDraft c none).withPool (s.pool.put q c))
        (.ended (.error (.fault f)))
  /-- A transaction that was to be taken back is gone with its connection. -/
  | undoLost {q c : Nat} {f : Fault} (isClosed : s.isOpen c = false) :
      Moves me p s (.undoing q c f) (s.withPool (s.pool.put q c))
        (.ended (.error (.fault .inactive)))
  /-- The connection goes back once the answer is there. -/
  | giveBack {q c : Nat} {a : p.Answer} :
      Moves me p s (.returning q c a) (s.withPool (s.pool.put q c)) (.ended (.ok a))

/-! ### Every step is a move -/

variable {me : Nat} {p : Purpose} {s : Store}

theorem withOpenPool_eq (p : Purpose) (s : Store) (q : Nat) (notes : List Log.Note) :
    withOpenPool p s q notes = ⟨s, notes, arrival p q⟩ := by
  cases p <;> rfl

theorem begins_beginOpening (p : Purpose) (s : Store) :
    Begins p s (beginOpening p s).store (beginOpening p s).progress := by
  unfold beginOpening
  rcases hmade : makeDirectory s with ⟨t, r⟩
  cases r with
  | error f => exact .refused hmade
  | ok =>
    dsimp only
    by_cases h : isComplete t [] = true
    · have hsize : t.pool.size ≤ 0 := by simpa [isComplete] using h
      rw [if_pos h, finishOpening, withOpenPool_eq]
      exact .empty hmade hsize
    · have hsize : 0 < t.pool.size := by simpa [isComplete] using h
      rw [if_neg h]
      exact .going hmade hsize

theorem countsIn_countIn (p : Purpose) (s : Store) (made : List Nat) (c : Nat)
    (notes : List Log.Note) :
    CountsIn p s made c (countIn p s made c notes).store (countIn p s made c notes).progress := by
  unfold countIn
  by_cases h : isComplete s (made ++ [c]) = true
  · rw [if_pos h, finishOpening, withOpenPool_eq]
    exact .last (by simpa [isComplete] using h)
  · rw [if_neg h]
    exact .more (by simpa [isComplete] using h)

/-- Setting up the database of a new pool is a move of the visit that opens it. -/
theorem moves_of_prepare {c : Nat} {st : Step p.Answer} (h : prepare p s c = some st) :
    Moves me p s (.preparing c) st.store st.progress := by
  unfold prepare at h
  have hused : (Phase.preparing c : Phase p.Answer).inUse? = some c := rfl
  have halike := (Store.ask_spec s c .version (.ok ()) fun d => .ok d.version).1
  rcases hask : s.ask c .version (.ok ()) (fun d => .ok d.version) with ⟨t, r⟩
  rw [hask] at h halike
  cases r with
  | error f =>
    cases h
    exact .preparingFails halike
      (.ofStatement (Store.ask_eq_error (congrArg Prod.snd hask)) hused (by simp))
  | ok version =>
    dsimp only at h halike
    by_cases hw : setUpWrites version = true
    · by_cases hb : t.isBusy c = true
      · simp [hw, hb] at h
      · obtain ⟨haltered, hcarried⟩ := Store.alter_spec t c .setUp (.ok ()) fun d => .ok d.setUp
        rcases halter : t.alter c .setUp (.ok ()) (fun d => .ok d.setUp) with ⟨u, r⟩
        rw [halter] at haltered hcarried
        simp only [hw, hb, halter, Bool.not_true, Bool.false_eq_true, if_false] at h
        cases r with
        | error f =>
          cases h
          have hfaults := Store.alter_eq_error (congrArg Prod.snd halter)
          rw [halike.isOpen] at hfaults
          exact .preparingFails (halike.trans haltered) (.ofStatement hfaults hused (by simp))
        | ok d =>
          cases h
          have hfree : s.isBusy c = false := by rw [← halike.isBusy c]; simpa using hb
          exact .setUp (halike.trans haltered) hfree (halike.carriedOut (hcarried d rfl))
            (countsIn_countIn p _ [] c _)
    · simp only [hw, Bool.not_false, if_true] at h
      cases h
      exact .prepared halike (countsIn_countIn p t [] c _)

theorem moves_of_connectNext (made : List Nat) :
    Moves me p s (.connecting made) (connectNext p s made).store
      (connectNext p s made).progress := by
  unfold connectNext
  cases hc : s.connect with
  | error f => exact .connectFails (.ofPath (Store.connect_eq_error hc))
  | ok made' =>
    obtain ⟨t, c⟩ := made'
    cases made with
    | nil => exact .connectFirst hc
    | cons first rest =>
      exact .connectNext (List.cons_ne_nil first rest) hc
        (countsIn_countIn p (track t c) (first :: rest) c [])

theorem moves_of_enter :
    Moves me p s .entering (enter me p s).store (enter me p s).progress := by
  unfold enter
  cases hcurrent : s.pool.current with
  | some q =>
    simp only [withOpenPool_eq]
    exact .arrive hcurrent
  | none =>
    by_cases halone : s.pool.opening = []
    · simp only [halone, List.isEmpty_nil, if_true]
      exact .beginFirst hcurrent halone (begins_beginOpening p _)
    · have : s.pool.opening.isEmpty = false := by simpa using halone
      simp only [this, Bool.false_eq_true, if_false]
      exact .lineUp hcurrent halone

theorem moves_of_takeTurn (hfirst : s.pool.opening.head? = some me) :
    Moves me p s .awaitingOpening (takeTurn p s).store (takeTurn p s).progress := by
  unfold takeTurn
  cases hcurrent : s.pool.current with
  | some q =>
    simp only [withOpenPool_eq]
    exact .arriveLater hcurrent hfirst
  | none => exact .beginLater hcurrent hfirst (begins_beginOpening p s)

/-! ### Moves of the errand -/

theorem moves_of_workOnSave {character : Character} {q c : Nat} {st : Step Unit}
    (h : workOnSave character s q c = some st) :
    Moves me (.borrow (.save character)) s (.working q c) st.store st.progress := by
  unfold workOnSave at h
  by_cases hb : s.isBusy c = true
  · simp [hb] at h
  · rw [if_neg hb] at h
    obtain ⟨halike, hcarried⟩ := Store.alter_spec s c .save (.ok ()) fun d => d.upsert character
    rcases halter : s.alter c .save (.ok ()) (fun d => d.upsert character) with ⟨t, r⟩
    rw [halter] at halike hcarried
    rw [halter] at h
    cases r with
    | error f =>
      dsimp only at h
      by_cases hf : f.isOfDatabase = true
      · rw [if_pos hf] at h
        cases h
        exact .strike halike trivial (.ofDatabase hf)
      · rw [if_neg hf] at h
        cases h
        exact .refuse halike (.ofStatement (Store.alter_eq_error (congrArg Prod.snd halter))
          rfl (Or.resolve_left · nofun))
    | ok d =>
      cases h
      obtain ⟨k, hk, hopen, hupsert⟩ := hcarried d rfl
      exact .draft halike (by simpa using hb) hk hopen hupsert

theorem moves_of_workOnChange {x : Change} {q c : Nat} {st : Step Unit}
    (h : workOnChange x s q c = some st) :
    Moves me (.borrow (.change x)) s (.working q c) st.store st.progress := by
  unfold workOnChange at h
  by_cases hb : s.isBusy c = true
  · simp [hb] at h
  · rw [if_neg hb] at h
    have hfree : s.isBusy c = false := by simpa using hb
    obtain ⟨halike, hcarried⟩ := Store.alter_spec s c x.statement x.bound x.apply
    rcases halter : s.alter c x.statement x.bound x.apply with ⟨t, r⟩
    rw [halter] at halike hcarried
    rw [halter] at h
    cases r with
    | error f =>
      cases h
      exact .refuse halike (.ofStatement (Store.alter_eq_error (congrArg Prod.snd halter))
        rfl id)
    | ok d =>
      dsimp only at h
      by_cases hx : x.isTransaction = true
      · rw [if_pos hx] at h
        cases h
        obtain ⟨k, hk, hopen, happly⟩ := hcarried d rfl
        exact .draft halike hfree hk hopen happly
      · rw [if_neg hx] at h
        cases h
        exact .writeAtOnce halike hfree trivial

theorem moves_of_work {e : Errand} {q c : Nat} {st : Step e.Answer}
    (h : work e s q c = some st) :
    Moves me (.borrow e) s (.working q c) st.store st.progress := by
  cases e with
  | ask question =>
    simp only [work] at h
    obtain ⟨halike, hcarried⟩ :=
      Store.ask_spec s c question.statement question.bound question.ask
    rcases hask : s.ask c question.statement question.bound question.ask with ⟨t, r⟩
    rw [hask] at h halike hcarried
    cases r with
    | error f =>
      cases h
      exact .refuse halike (.ofStatement (Store.ask_eq_error (congrArg Prod.snd hask))
        rfl id)
    | ok a =>
      cases h
      exact .answer halike (hcarried a rfl)
  | save character => exact moves_of_workOnSave h
  | change x => exact moves_of_workOnChange h
  | breakConnection =>
    cases h
    exact .breakOff trivial
  | keep => cases h

theorem moves_of_workFailing {e : Errand} {q c : Nat} {f : Fault} {st : Step e.Answer}
    (h : workFailing e s q c f = some st) (hf : f.isOfDatabase = true) :
    Moves me (.borrow e) s (.working q c) st.store st.progress := by
  cases e with
  | ask | change =>
    cases h
    exact .refuse (.refl s) (.ofDatabase hf)
  | save =>
    cases h
    exact .strike (.refl s) trivial (.ofDatabase hf)
  | breakConnection | keep => cases h

theorem moves_of_workExpired {e : Errand} {q c : Nat} {st : Step e.Answer}
    (h : workExpired e s q c = some st) :
    Moves me (.borrow e) s (.working q c) st.store st.progress := by
  cases e with
  | save =>
    simp only [workExpired, Option.ite_none_right_eq_some, Option.some.injEq] at h
    obtain ⟨-, rfl⟩ := h
    exact .keptOut trivial (.ofDatabase rfl)
  | change =>
    simp only [workExpired, Option.ite_none_right_eq_some, Option.some.injEq] at h
    obtain ⟨-, rfl⟩ := h
    exact .refuse (.refl s) (.ofDatabase rfl)
  | ask | breakConnection | keep => cases h

theorem moves_of_endTransaction {e : Errand} {q c : Nat} {st : Step e.Answer}
    (h : endTransaction e s q c = some st) :
    Moves me (.borrow e) s (.committing q c) st.store st.progress := by
  cases e with
  | save | change =>
    simp only [endTransaction] at h
    by_cases ho : s.isOpen c = true
    · rw [if_pos ho] at h
      cases h
      exact .commit ho trivial
    · rw [if_neg ho] at h
      cases h
      exact .commitLost (by simpa using ho)
  | ask | breakConnection | keep => cases h

theorem moves_of_undo {e : Errand} {q c : Nat} {f : Fault} {st : Step e.Answer}
    (h : undo e s q c f = some st) :
    Moves me (.borrow e) s (.undoing q c f) st.store st.progress := by
  cases e with
  | save | change =>
    simp only [undo] at h
    by_cases ho : s.isOpen c = true
    · rw [if_pos ho] at h
      cases h
      exact .undo ho
    · rw [if_neg ho] at h
      cases h
      exact .undoLost (by simpa using ho)
  | ask | breakConnection | keep => cases h

/-! ### Moves by choice -/

theorem moves_of_go {phase : Phase p.Answer} {st : Step p.Answer}
    (h : go me p s phase = some st) : Moves me p s phase st.store st.progress := by
  cases phase with
  | entering =>
    cases h
    exact moves_of_enter
  | awaitingOpening =>
    simp only [go, Option.ite_none_right_eq_some, Option.some.injEq] at h
    obtain ⟨hfirst, rfl⟩ := h
    exact moves_of_takeTurn hfirst
  | connecting made =>
    cases h
    exact moves_of_connectNext made
  | preparing c => exact moves_of_prepare h
  | abandoning f =>
    simp only [go] at h
    cases hlast : s.pool.tracked.getLast? with
    | none =>
      rw [hlast] at h
      cases h
      exact .abandoned (List.getLast?_eq_none_iff.1 hlast)
    | some c =>
      rw [hlast] at h
      cases h
      exact .abandonOne hlast
  | awaiting q =>
    simp only [go] at h
    cases hq : s.pool.queue q with
    | nil => simp [hq] at h
    | cons c rest =>
      rw [hq] at h
      cases hl : s.pool.location with
      | memory =>
        simp only [hl, Option.some.injEq] at h
        subst h
        exact .takeInMemory hl hq
      | file path =>
        simp only [hl, Option.some.injEq] at h
        subst h
        exact .takeToFile (by simp [hl]) hq
  | checking q c =>
    simp only [go] at h
    split at h
    · next hopen =>
      cases h
      exact .sound hopen
    · cases h
      exact .unsound
  | replacing q c =>
    simp only [go] at h
    cases hc : s.connect with
    | error f =>
      rw [hc] at h
      cases h
      exact .replaceFails (.ofPath (Store.connect_eq_error hc))
    | ok made =>
      rw [hc] at h
      cases h
      exact .replace hc
  | working q c =>
    cases p with
    | borrow e => exact moves_of_work h
    | openPool => cases h
  | committing q c =>
    cases p with
    | borrow e => exact moves_of_endTransaction h
    | openPool => cases h
  | undoing q c f =>
    cases p with
    | borrow e => exact moves_of_undo h
    | openPool => cases h
  | returning q c a =>
    cases h
    exact .giveBack

theorem moves_of_expire {phase : Phase p.Answer} {st : Step p.Answer}
    (h : expire p s phase = some st) : Moves me p s phase st.store st.progress := by
  cases phase with
  | awaiting q =>
    cases h
    exact .giveUp
  | preparing c =>
    simp only [expire, Option.ite_none_right_eq_some, Option.some.injEq] at h
    obtain ⟨-, rfl⟩ := h
    exact .preparingFails (.refl s) (.ofDatabase rfl)
  | working q c =>
    cases p with
    | borrow e => exact moves_of_workExpired h
    | openPool => cases h
  | _ => cases h

theorem moves_of_fail {f : Fault} {phase : Phase p.Answer} {st : Step p.Answer}
    (h : fail me p s f phase = some st) : Moves me p s phase st.store st.progress := by
  cases phase with
  | entering =>
    simp only [fail, mayLackDirectory, Option.ite_none_right_eq_some, Option.some.injEq,
      Bool.and_eq_true, Option.isNone_iff_eq_none] at h
    obtain ⟨⟨⟨⟨hcurrent, -⟩, hfile⟩, -⟩, rfl⟩ := h
    exact .turnAway hcurrent (.ofStore (by simp [Fault.isOfStore, hfile]))
  | awaitingOpening =>
    simp only [fail, mayLackDirectory, Option.ite_none_right_eq_some, Option.some.injEq,
      Bool.and_eq_true, beq_iff_eq] at h
    obtain ⟨⟨⟨-, hfile⟩, hfirst⟩, rfl⟩ := h
    exact .turnAwayLater hfirst (.ofStore (by simp [Fault.isOfStore, hfile]))
  | connecting made =>
    simp only [fail, Option.ite_none_right_eq_some, Option.some.injEq] at h
    obtain ⟨hf, rfl⟩ := h
    exact .connectFails (.ofDatabase hf)
  | preparing c =>
    simp only [fail, Option.ite_none_right_eq_some, Option.some.injEq] at h
    obtain ⟨hf, rfl⟩ := h
    exact .preparingFails (.refl s) (.ofDatabase hf)
  | checking q c =>
    simp only [fail, Option.ite_none_right_eq_some, Option.some.injEq] at h
    obtain ⟨-, rfl⟩ := h
    exact .unsound
  | replacing q c =>
    simp only [fail, Option.ite_none_right_eq_some, Option.some.injEq] at h
    obtain ⟨hf, rfl⟩ := h
    exact .replaceFails (.ofDatabase hf)
  | working q c =>
    simp only [fail, Option.ite_none_right_eq_some] at h
    cases p with
    | borrow e => exact moves_of_workFailing h.2 h.1
    | openPool => cases h.2
  | committing q c =>
    simp only [fail, Option.ite_none_right_eq_some, Option.some.injEq] at h
    obtain ⟨hf, rfl⟩ := h
    exact .commitFails (.ofDatabase hf)
  | abandoning | awaiting | undoing | returning => cases h

theorem moves_of_finish {phase : Phase p.Answer} {st : Step p.Answer}
    (h : finish p s phase = some st) : Moves me p s phase st.store st.progress := by
  cases phase with
  | working q c =>
    cases p with
    | borrow e =>
      cases e with
      | keep =>
        cases h
        exact .letGo trivial
      | _ => cases h
    | openPool => cases h
  | _ => cases h

/-- **Every step of a visit is one of its moves.** -/
theorem moves_of_step {choice : Choice} {phase : Phase p.Answer} {st : Step p.Answer}
    (h : step me p choice phase s = some st) : Moves me p s phase st.store st.progress := by
  cases choice with
  | go => exact moves_of_go h
  | expire => exact moves_of_expire h
  | fail f => exact moves_of_fail h
  | finish => exact moves_of_finish h

end Visit

end CharacterLedger.Storage
