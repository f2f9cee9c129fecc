import CharacterLedger.Log
import CharacterLedger.Storage.Store
import CharacterLedger.Table.Insertion

/-!
# Errands

What a connection is borrowed for. Questions are answered from the database as it is. Saving a
record and inserting a row take two steps, a statement and the end of its transaction, and both can
fail; other changes are written at once. Each errand has its own type of answer.
-/

namespace CharacterLedger.Storage

open CharacterLedger.Table

/-- A question about the database. -/
inductive Question where
  | character (channel user : Value)
  | count
  | shape
  | rows

/-- The type of the answer to a question. -/
abbrev Question.Answer : Question → Type
  | character .. => Option Row
  | count => Nat
  | shape => Int × List String
  | rows => List Row

/-- The answer to a question. -/
def Question.ask : (q : Question) → Database → Except Fault q.Answer
  | character channel user, d => d.select channel user
  | count, d => d.count
  | shape, d => .ok (d.version, d.columns)
  | rows, d => d.sortedRows

/-- The statement that a question is asked by. -/
def Question.statement : Question → Statement
  | character .. => .character
  | count => .count
  | shape => .columns
  | rows => .rows

/-- What is wrong with the parameters of a question. -/
def Question.bound : Question → Except Fault Unit
  | character channel user => (Database.keyTexts channel user).map fun _ => ()
  | count | shape | rows => .ok ()

/-- A change of the database that goes past the ledger. -/
inductive Change where
  | insert (i : Insertion)
  | dropTable
  | addTrigger (e : Event)
  | dropTrigger (e : Event)

/-- The database after a change. -/
def Change.apply : Change → Database → Except Fault Database
  | insert i, d => d.insert i
  | dropTable, d => d.dropTable
  | addTrigger e, d => d.addTrigger e
  | dropTrigger e, d => d.dropTrigger e

/-- The statement that a change is made by. -/
def Change.statement : Change → Statement
  | insert i => .insert i.columns
  | dropTable => .dropTable
  | addTrigger e => .addTrigger e
  | dropTrigger e => .dropTrigger e

/-- What is wrong with the parameters of a change. -/
def Change.bound : Change → Except Fault Unit
  | insert i => i.parameters.map fun _ => ()
  | dropTable | addTrigger _ | dropTrigger _ => .ok ()

/-- Whether a change is a transaction of its own that has to be ended. -/
def Change.isTransaction : Change → Bool
  | insert _ => true
  | dropTable | addTrigger _ | dropTrigger _ => false

/-- What a connection is borrowed for. -/
inductive Errand where
  | ask (q : Question)
  | save (c : Character)
  | change (x : Change)
  /-- To close it behind the back of the pool. -/
  | breakConnection
  /-- To keep it until told to give it back. -/
  | keep

/-- The type of what an errand comes back with. -/
abbrev Errand.Answer : Errand → Type
  | ask q => q.Answer
  | save _ => Unit
  | change _ => Unit
  | breakConnection => Unit
  | keep => Unit

/-- What a visit to the pool is for. -/
inductive Purpose where
  | borrow (e : Errand)
  | openPool

/-- The type of what a visit comes back with. -/
abbrev Purpose.Answer : Purpose → Type
  | borrow e => e.Answer
  | openPool => Unit

/-- Why a visit fails. -/
inductive Failure where
  | timeout
  | fault (f : Fault)
deriving DecidableEq, Repr

/-- The result of a visit for a purpose. -/
abbrev Purpose.Result (p : Purpose) : Type := Except Failure p.Answer

/-- The result of borrowing a connection for an errand. -/
abbrev Errand.Result (e : Errand) : Type := Except Failure e.Answer

end CharacterLedger.Storage
