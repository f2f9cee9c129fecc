import CharacterLedger.Value

/-!
# Values that do not go together

Values of any types may meet where they are compared, added or counted, or stand where a name or an
argument is asked for. If their types or their number do not allow it, a `Mismatch` says so.
-/

namespace CharacterLedger

/-- Values of types that do not go together. -/
inductive Mismatch where
  | compare (symbol : String) (left right : Kind)
  | add (right : Kind)
  | notWhole (kind : Kind)
  | notName (kind : Kind)
  | noKey (kind : Kind)
  | noKeyword
  | tooManyArguments (owner : String) (least most given : Nat)
  | missingArguments (owner : String) (names : List String)
  | unsupported (typeName : String)
deriving DecidableEq, Repr

/-- How many arguments may be given. -/
def Mismatch.countText (least most : Nat) : String :=
  if least = most then toString most else "from " ++ toString least ++ " to " ++ toString most

/-- The names of arguments, each in quotes. -/
def Mismatch.namesText : List String → String
  | [] => ""
  | [name] => "'" ++ name ++ "'"
  | [name, last] => "'" ++ name ++ "' and '" ++ last ++ "'"
  | name :: names => "'" ++ name ++ "', " ++ namesText names

/-- The report of a mismatch. -/
def Mismatch.message : Mismatch → String
  | compare symbol left right =>
    "'" ++ symbol ++ "' not supported between instances of '" ++ left.name ++ "' and '" ++
      right.name ++ "'"
  | add right => "unsupported operand type(s) for +: 'int' and '" ++ right.name ++ "'"
  | notWhole kind => "'" ++ kind.name ++ "' object cannot be interpreted as an integer"
  | notName kind => "attribute name must be string, not '" ++ kind.name ++ "'"
  | noKey kind => "unhashable type: '" ++ kind.name ++ "'"
  | noKeyword => "keywords must be strings"
  | tooManyArguments owner least most given =>
    owner ++ ".__init__() takes " ++ countText least most ++ " positional arguments but " ++
      toString given ++ " were given"
  | missingArguments owner names =>
    owner ++ ".__init__() missing " ++ toString names.length ++ " required positional argument" ++
      (if names.length = 1 then "" else "s") ++ ": " ++ namesText names
  | unsupported typeName => "Unsupported intent: " ++ typeName

/-- Why a value cannot be a key: lists and objects cannot. -/
def Value.keyMismatch? : Value → Option Mismatch
  | .list _ => some (.noKey .list)
  | .object _ => some (.noKey .object)
  | _ => none

end CharacterLedger
