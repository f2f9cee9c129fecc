import CharacterLedger.Table.Directory
import CharacterLedger.Table.Statement

/-!
# Connections

A connection to a database file. It remembers the shape that it last saw the database in, until it
has looked there is none, and the statements that it has judged before, which it does not judge
again.
-/

namespace CharacterLedger.Storage

open CharacterLedger.Table

/-- A connection to a file. -/
structure Connection where
  file : Nat
  /-- The path that the file was opened by; a private database has none. -/
  path : Option Path
  mayWrite : Bool
  isOpen : Bool
  /-- What an unfinished transaction has made of the database. -/
  draft : Option Database
  /-- The shape of the database as far as it is known. -/
  shape : Option Shape
  /-- The statements that have been judged sound. -/
  prepared : List Statement
deriving DecidableEq

namespace Connection

/-- A new connection. -/
def new (file : Nat) (path : Option Path) (mayWrite : Bool) : Connection :=
  ⟨file, path, mayWrite, true, none, none, []⟩

/-- The connection closed. What its transaction had written is lost. -/
def close (k : Connection) : Connection := { k with isOpen := false, draft := none }

/-- Judges a statement by a shape, which is remembered. -/
def judge (k : Connection) (st : Statement) (shape : Shape) : Connection × Except Fault Unit :=
  let k := { k with shape := some shape }
  match st.judge shape with
  | .ok () => ({ k with prepared := st :: k.prepared }, .ok ())
  | .error f => (k, .error f)

/-- Judges a statement, of a database whose shape is the given one or cannot be seen. A shape that
is known is trusted at first. -/
def prepare (k : Connection) (st : Statement) (seen : Except Fault Shape) :
    Connection × Except Fault Unit :=
  if k.prepared.contains st || !st.needsShape then (k, .ok ())
  else
    match k.shape, seen with
    | none, .error f => (k, .error f)
    | none, .ok shape => k.judge st shape
    | some known, .error _ => k.judge st known
    | some known, .ok shape =>
      match k.judge st known with
      | (k, .ok ()) => (k, .ok ())
      | (k, .error f) =>
        if Statement.isReconsidered f then k.judge st shape else (k, .error f)

/-- The connection after a statement has been carried out on a database of this shape. -/
def learn (k : Connection) (st : Statement) (shape : Shape) : Connection :=
  if st.needsShape then { k with shape := some shape } else k

@[simp] theorem isOpen_close (k : Connection) : k.close.isOpen = false := rfl

@[simp] theorem judge_snd (k : Connection) (st : Statement) (shape : Shape) :
    (k.judge st shape).2 = st.judge shape := by
  unfold judge
  cases st.judge shape <;> rfl

end Connection

end CharacterLedger.Storage
