import CharacterLedger.Table.Database

/-!
# Statements

What can be asked of a database or done to it, as far as it can be judged without looking at rows. A
connection judges a statement by the shape of the database as it knows it, which may be out of date,
and keeps statements that it has judged sound.
-/

namespace CharacterLedger.Table

/-- The shape of a database: nothing if the table is missing, else the events that its triggers
refuse. -/
abbrev Shape := Option (List Event)

/-- The shape of a database. -/
def Database.shape (d : Database) : Shape := d.table.map CharacterTable.triggers

/-- A statement, without its parameters. -/
inductive Statement where
  | version
  | columns
  | character
  | count
  | rows
  | setUp
  | save
  | insert (columns : List Action)
  | dropTable
  | addTrigger (e : Event)
  | dropTrigger (e : Event)
deriving DecidableEq, Repr

namespace Statement

/-- Whether the shape has to be known to judge the statement. -/
def needsShape : Statement → Bool
  | version => false
  | _ => true

/-- What is wrong with a statement for a database of this shape. -/
def judge : Statement → Shape → Except Fault Unit
  | version, _ | columns, _ | setUp, _ => .ok ()
  | addTrigger _, none => .error .noTableForTrigger
  | addTrigger e, some events =>
    if events.contains e then .error (.triggerExists e) else .ok ()
  | dropTrigger e, none => .error (.noTrigger e)
  | dropTrigger e, some events => if events.contains e then .ok () else .error (.noTrigger e)
  | _, none => .error .noTable
  | _, some _ => .ok ()

/-- Whether a connection that judges a statement unsound for this reason looks whether it still
knows the right shape. It does if something is missing, but not if something is there already. -/
def isReconsidered : Fault → Bool
  | .triggerExists _ => false
  | _ => true

end Statement

end CharacterLedger.Table
