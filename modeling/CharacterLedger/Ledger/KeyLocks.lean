import CharacterLedger.Error

/-!
# Locks for characters

Every character has a lock, made when it is first asked for. Whoever asks for it stands in its line;
the task at the head has the lock, and the others get it in the order in which they came. A lock
that nobody holds or waits for may be forgotten at any time, and the next to ask for it gets a new
one.

A lock is a thing of its own, known by a number, and not the same as its entry in the register:
tasks refer to the lock and find it in its line even if its entry were gone.
-/

namespace CharacterLedger.Ledger

open CharacterLedger.Number

/-- Half of the key of a lock. Numbers that are equal are one key, whatever their type. -/
inductive KeyPart where
  | nothing
  | number (n : Int)
  | real (x : Binary64)
  | text (s : String)
deriving DecidableEq, Repr

/-- The half of a key that a value is; lists and objects are none. -/
def KeyPart.ofValue : Value → Except Mismatch KeyPart
  | .null => .ok nothing
  | .flag b => .ok (number (if b then 1 else 0))
  | .int n => .ok (number n)
  | .real x =>
    match x.toInt? with
    | some n => .ok (number n)
    | none => .ok (real x)
  | .text s => .ok (text s)
  | .list _ => .error (.noKey .list)
  | .object _ => .error (.noKey .object)

/-- The key of a lock: a channel and a user. -/
structure Key where
  channel : KeyPart
  user : KeyPart
deriving DecidableEq, Repr

/-- The key of a channel and a user. -/
def Key.ofValues (channel user : Value) : Except Mismatch Key :=
  match KeyPart.ofValue channel, KeyPart.ofValue user with
  | .error m, _ => .error m
  | .ok _, .error m => .error m
  | .ok channel, .ok user => .ok ⟨channel, user⟩

/-- The locks. -/
structure KeyLocks where
  /-- The lock that each key is registered with. -/
  register : List (Key × Nat)
  /-- For each lock who stands in its line, the holder first. -/
  lines : List (Nat × List Nat)
  /-- The number of the next lock. -/
  fresh : Nat
deriving DecidableEq

namespace KeyLocks

/-- No locks. -/
def empty : KeyLocks := ⟨[], [], 0⟩

/-- The number of registered locks. -/
def size (l : KeyLocks) : Nat := l.register.length

/-- The line of a lock. -/
def line (l : KeyLocks) (lock : Nat) : List Nat := (l.lines.lookup lock).getD []

/-- The locks with another line of one of them. -/
def setLine (l : KeyLocks) (lock : Nat) (tasks : List Nat) : KeyLocks :=
  { l with lines := l.lines.map fun p => if p.1 = lock then (lock, tasks) else p }

/-- The lock of a key, which is made if the key has none. -/
def lockFor (l : KeyLocks) (k : Key) : KeyLocks × Nat :=
  match l.register.lookup k with
  | some lock => (l, lock)
  | none =>
    ({ l with
        register := l.register ++ [(k, l.fresh)]
        lines := l.lines ++ [(l.fresh, [])]
        fresh := l.fresh + 1 }, l.fresh)

/-- The locks with a task at the end of a line. -/
def join (l : KeyLocks) (lock task : Nat) : KeyLocks := l.setLine lock (l.line lock ++ [task])

/-- Whether the task holds the lock. -/
def isHeldBy (l : KeyLocks) (lock task : Nat) : Bool := (l.line lock).head? == some task

/-- The locks with the holder gone from a line. -/
def release (l : KeyLocks) (lock : Nat) : KeyLocks := l.setLine lock (l.line lock).tail

/-- Whether nobody stands in the line of a lock. -/
def isIdle (l : KeyLocks) (lock : Nat) : Bool := (l.line lock).isEmpty

/-- Forgets all idle locks. -/
def forgetIdle (l : KeyLocks) : KeyLocks :=
  { l with
    register := l.register.filter fun p => !l.isIdle p.2
    lines := l.lines.filter fun p => !p.2.isEmpty }

end KeyLocks

end CharacterLedger.Ledger
