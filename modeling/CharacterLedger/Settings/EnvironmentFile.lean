import CharacterLedger.Settings.EnvironmentFile.Binding

/-!
# Environment files

The bindings of a file stand for environment variables. In a value, a name in braces behind a dollar
sign stands for the value of that name, with a default behind `:-`. A name may be looked for earlier
in the file and in the environment.
-/

namespace CharacterLedger.Settings.EnvironmentFile

/-- The closing brace. -/
def closingBrace : Char := '\x7d'

/-- A name in braces, a default for it, and the text behind. -/
def scanReference (cs : List Char) : Option (String × String × List Char) :=
  let isPart (c : Char) : Bool := c != closingBrace && c != ':'
  let name := String.ofList (cs.takeWhile isPart)
  match cs.dropWhile isPart with
  | ':' :: '-' :: rest =>
    match rest.dropWhile (· != closingBrace) with
    | _ :: after => some (name, String.ofList (rest.takeWhile (· != closingBrace)), after)
    | [] => none
  | c :: rest => if c = closingBrace then some (name, "", rest) else none
  | [] => none

/-- The text with names in braces replaced by what `find?` gives for them: a value, no value, or
nothing, and then the default counts. -/
def interpolate (find? : String → Option (Option String)) : Nat → List Char → List Char
  | 0, _ => []
  | count + 1, cs =>
    match cs with
    | [] => []
    | '$' :: '\x7b' :: rest =>
      match scanReference rest with
      | some (name, default, rest) =>
        let value := match find? name with
          | some value => value.getD ""
          | none => default
        value.toList ++ interpolate find? count rest
      | none => '$' :: interpolate find? count ('\x7b' :: rest)
    | c :: rest => c :: interpolate find? count rest

/-- The value of a name among bindings, of which the last counts. -/
def last? (bindings : List Binding) (name : String) : Option (Option String) :=
  bindings.reverse.lookup name

/-- The bindings with names in their values replaced. What stands earlier in the file goes before
the environment. -/
def resolve (environment : List (String × String)) (before : List Binding) :
    List Binding → List Binding
  | [] => before
  | (name, value) :: bindings =>
    let find? (n : String) : Option (Option String) :=
      match last? before n with
      | some v => some v
      | none => (environment.lookup n).map some
    let value := value.map fun v =>
      String.ofList (interpolate find? (v.toList.length + 1) v.toList)
    resolve environment (before ++ [(name, value)]) bindings

/-- The bindings with another one: in the place of the one with its name, or at the end. -/
def put (b : Binding) : List Binding → List Binding
  | [] => [b]
  | c :: bindings => if c.1 = b.1 then b :: bindings else c :: put b bindings

/-- The bindings of a file in an environment. A repeated name keeps its first place and its last
value. -/
def read (environment : List (String × String)) (text : String) : List Binding :=
  let cs := unifyBreaks (dropMark text.toList)
  (resolve environment [] (scanBindings (cs.length + 1) cs)).foldl (fun found b => put b found) []

end CharacterLedger.Settings.EnvironmentFile
