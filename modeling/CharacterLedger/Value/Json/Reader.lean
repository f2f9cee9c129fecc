import CharacterLedger.Number.Numeral
import CharacterLedger.Text.Hexadecimal
import CharacterLedger.Value

/-!
# Reading JSON

`Value.ofJson?` reads a JSON text as a value. Numbers with a point or a power of ten are reals, all
others integers. The words for infinity and not-a-number are read as reals. Of members with one
name the last counts, in the place of the first. An integer of more than 4300 digits is refused.
-/

namespace CharacterLedger.Value

namespace Json

open CharacterLedger.Number CharacterLedger.Text

/-- The four blank characters of JSON. -/
def isBlank (c : Char) : Bool := c = ' ' || c = '\t' || c = '\n' || c = '\r'

/-- The text without blanks in front. -/
def skipBlank (cs : List Char) : List Char := cs.dropWhile isBlank

/-- The number of four hexadecimal digits. -/
def hexFour? (a b c d : Char) : Option Nat := do
  return ((← hexValue? a) * 16 + (← hexValue? b)) * 256 + (← hexValue? c) * 16 + (← hexValue? d)

/-- The character of a one-letter escape. -/
def escape? (c : Char) : Option Char :=
  [('"', '"'), ('\\', '\\'), ('/', '/'), ('b', Char.ofNat 8), ('f', Char.ofNat 12),
    ('n', '\n'), ('r', '\r'), ('t', '\t')].lookup c

/-- Half a surrogate pair stands for no character; it is read as the replacement character. -/
def replacement : Char := Char.ofNat 0xfffd

/-- The characters read so far, last first, after a first half of a surrogate pair that was not
continued. -/
def flush (acc : List Char) : Option Nat → List Char
  | some _ => replacement :: acc
  | none => acc

/-- The characters read so far, last first, and a first half that waits for its second, after a
unit of UTF-16. -/
def pushUnit (acc : List Char) (high : Option Nat) (unit : Nat) : List Char × Option Nat :=
  if 0xdc00 ≤ unit ∧ unit < 0xe000 then
    match high with
    | some first =>
      (Char.ofNat (0x10000 + (first - 0xd800) * 0x400 + (unit - 0xdc00)) :: acc, none)
    | none => (replacement :: acc, none)
  else if 0xd800 ≤ unit ∧ unit < 0xdc00 then (flush acc high, some unit)
  else (Char.ofNat unit :: flush acc high, none)

/-- The rest of a string behind its opening mark, and the text behind the closing one. -/
def scanString (acc : List Char) (high : Option Nat) : List Char → Option (String × List Char)
  | '"' :: rest => some (String.ofList (flush acc high).reverse, rest)
  | '\\' :: 'u' :: a :: b :: c :: d :: rest =>
    match hexFour? a b c d with
    | some unit => let (acc, high) := pushUnit acc high unit; scanString acc high rest
    | none => none
  | '\\' :: c :: rest =>
    match escape? c with
    | some e => scanString (e :: flush acc high) none rest
    | none => none
  | c :: rest => if c.toNat < 0x20 then none else scanString (c :: flush acc high) none rest
  | [] => none

/-- A point with digits behind it, if they stand at the front. -/
def takeFraction (cs : List Char) : Option (List Char) × List Char :=
  match cs with
  | '.' :: rest =>
    let (digits, rest) := takeDigits rest
    if digits.isEmpty then (none, cs) else (some digits, rest)
  | _ => (none, cs)

/-- A power of ten, if it stands at the front. -/
def takePower (cs : List Char) : Option Int × List Char :=
  match cs with
  | c :: rest =>
    if c = 'e' || c = 'E' then
      let (sign, rest) := takeSign rest
      let (digits, rest) := takeDigits rest
      if digits.isEmpty then (none, cs)
      else (some (if sign = some true then -(ofDigits digits : Int) else ofDigits digits), rest)
    else (none, cs)
  | [] => (none, cs)

/-- The number at the front of a text that starts with a digit or a minus sign. -/
def scanNumber (cs : List Char) : Option (Value × List Char) :=
  let (negative, rest) := match cs with
    | '-' :: rest => (true, rest)
    | _ => (false, cs)
  let (whole, rest) := match rest with
    | '0' :: rest => (['0'], rest)
    | _ => takeDigits rest
  if whole.isEmpty then none
  else
    let (fraction, rest) := takeFraction rest
    let (power, rest) := takePower rest
    let n : Numeral := ⟨if negative then some true else none, whole, fraction, power⟩
    if !n.isPlain then some (.real n.toBinary64, rest)
    else if mostDigits < whole.length then none
    else some (.int n.toInt, rest)

/-- The words of JSON, and those for the reals that are not finite. -/
def words : List (List Char × Value) := [
  ("null".toList, .null), ("true".toList, .flag true), ("false".toList, .flag false),
  ("NaN".toList, .real .nan), ("Infinity".toList, .real (.infinite false)),
  ("-Infinity".toList, .real (.infinite true))]

/-- The word at the front of the text. -/
def scanWord (cs : List Char) : Option (Value × List Char) :=
  (words.find? fun w => w.1.isPrefixOf cs).map fun w => (w.2, cs.drop w.1.length)

mutual

/-- The value at the front of the text, whose nesting and length `depth` bounds. -/
def scanValue : Nat → List Char → Option (Value × List Char)
  | 0, _ => none
  | depth + 1, cs =>
    match cs with
    | '"' :: rest => (scanString [] none rest).map fun r => (.text r.1, r.2)
    | '[' :: rest =>
      match skipBlank rest with
      | ']' :: rest => some (.list [], rest)
      | rest => (scanItems depth rest).map fun r => (.list r.1, r.2)
    | '\x7b' :: rest =>
      match skipBlank rest with
      | '\x7d' :: rest => some (.object [], rest)
      | rest => (scanMembers depth rest).map fun r => (.object (Fields.ofList r.1), r.2)
    | cs =>
      match scanWord cs with
      | some r => some r
      | none => scanNumber cs

/-- The items of a list up to its closing bracket. -/
def scanItems : Nat → List Char → Option (List Value × List Char)
  | 0, _ => none
  | depth + 1, cs =>
    match scanValue depth cs with
    | none => none
    | some (v, rest) =>
      match skipBlank rest with
      | ',' :: rest => (scanItems depth (skipBlank rest)).map fun r => (v :: r.1, r.2)
      | ']' :: rest => some ([v], rest)
      | _ => none

/-- The members of an object up to its closing brace. -/
def scanMembers : Nat → List Char → Option (List (String × Value) × List Char)
  | 0, _ => none
  | depth + 1, cs =>
    match cs with
    | '"' :: rest =>
      match scanString [] none rest with
      | none => none
      | some (name, rest) =>
        match skipBlank rest with
        | ':' :: rest =>
          match scanValue depth (skipBlank rest) with
          | none => none
          | some (v, rest) =>
            match skipBlank rest with
            | ',' :: rest =>
              (scanMembers depth (skipBlank rest)).map fun r => ((name, v) :: r.1, r.2)
            | '\x7d' :: rest => some ([(name, v)], rest)
            | _ => none
        | _ => none
    | _ => none

end

end Json

/-- The value that a JSON text writes. Every step into a text takes at least one character off it,
so its length bounds the nesting. -/
def ofJson? (s : String) : Option Value :=
  let cs := Json.skipBlank s.toList
  match Json.scanValue (cs.length + 1) cs with
  | some (v, rest) => if (Json.skipBlank rest).isEmpty then some v else none
  | none => none

end CharacterLedger.Value
