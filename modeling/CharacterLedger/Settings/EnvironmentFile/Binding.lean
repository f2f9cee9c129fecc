import CharacterLedger.Text.Blank

/-!
# Bindings in environment files

A file of lines `NAME=value` that stand for environment variables. `export` may stand in front,
blanks around the equals sign do not count, and a `#` after a blank starts a comment. A value may
stand in quotation marks of either kind, and then may have line breaks and escapes. A name without
an equals sign has no value. A line that cannot be read is skipped.
-/

namespace CharacterLedger.Settings.EnvironmentFile

open CharacterLedger.Text

/-- The characters of a file with every line break a single newline. -/
def unifyBreaks : List Char → List Char
  | '\r' :: '\n' :: cs => '\n' :: unifyBreaks cs
  | '\r' :: cs => '\n' :: unifyBreaks cs
  | c :: cs => c :: unifyBreaks cs
  | [] => []

/-- The mark that may stand in front of a text, which is no part of it. -/
def byteOrderMark : Char := '\ufeff'

/-- The text without a mark in front. -/
def dropMark (cs : List Char) : List Char :=
  if cs.head? = some byteOrderMark then cs.tail else cs

/-- Blanks within a line. -/
def isInlineBlank (c : Char) : Bool := isBlank c && c != '\n' && c != '\r'

/-- The text without blanks of its first line in front. -/
def skipInline (cs : List Char) : List Char := cs.dropWhile isInlineBlank

/-- The text behind its first line. -/
def skipLine (cs : List Char) : List Char := (cs.dropWhile (· != '\n')).drop 1

/-- The word that may stand in front of a name. -/
def exportWord : List Char := "export".toList

/-- The text without the word `export` and the blanks behind it. -/
def skipExport (cs : List Char) : List Char :=
  let rest := cs.drop exportWord.length
  if exportWord.isPrefixOf cs && rest.head?.any isInlineBlank then skipInline rest else cs

/-- The name at the front, none in front of a comment, and the rest. -/
def scanName (cs : List Char) : Option (Option (List Char) × List Char) :=
  match cs with
  | '#' :: _ => some (none, cs)
  | '\'' :: rest =>
    let name := rest.takeWhile (· != '\'')
    match rest.dropWhile (· != '\'') with
    | _ :: rest => if name.isEmpty then none else some (some name, rest)
    | [] => none
  | _ =>
    let isPart (c : Char) : Bool := c != '=' && c != '#' && !isBlank c
    let name := cs.takeWhile isPart
    if name.isEmpty then none else some (some name, cs.dropWhile isPart)

/-- The text up to the closing mark, and the text behind it. A backslash goes with the character
behind it, which does not close even if it is the mark. -/
def scanQuoted (mark : Char) : List Char → Option (List Char × List Char)
  | [] => none
  | '\\' :: c :: cs => (scanQuoted mark cs).map fun r => ('\\' :: c :: r.1, r.2)
  | c :: cs =>
    if c = mark then some ([], cs) else (scanQuoted mark cs).map fun r => (c :: r.1, r.2)

/-- What the escapes between single quotation marks stand for. -/
def singleEscapes : List (Char × Char) := [('\\', '\\'), ('\'', '\'')]

/-- What the escapes between double quotation marks stand for. -/
def doubleEscapes : List (Char × Char) := [
  ('\\', '\\'), ('\'', '\''), ('"', '"'), ('a', Char.ofNat 7), ('b', Char.ofNat 8),
  ('f', Char.ofNat 12), ('n', '\n'), ('r', '\r'), ('t', '\t'), ('v', Char.ofNat 11)]

/-- The text with its escapes resolved; a backslash before anything else stays. -/
def unescape (escapes : List (Char × Char)) : List Char → List Char
  | '\\' :: c :: cs =>
    match escapes.lookup c with
    | some e => e :: unescape escapes cs
    | none => '\\' :: unescape escapes (c :: cs)
  | c :: cs => c :: unescape escapes cs
  | [] => []

/-- The text up to a comment, which starts at a `#` behind a blank. -/
def dropComment : List Char → List Char
  | c :: '#' :: cs => if isBlank c then [] else c :: dropComment ('#' :: cs)
  | c :: cs => c :: dropComment cs
  | [] => []

/-- The value behind an equals sign, and the rest. Blanks in front of the value do not count, but a
comment may start behind them. -/
def scanValue (cs : List Char) : Option (List Char × List Char) :=
  match skipInline cs with
  | '\'' :: rest => (scanQuoted '\'' rest).map fun r => (unescape singleEscapes r.1, r.2)
  | '"' :: rest => (scanQuoted '"' rest).map fun r => (unescape doubleEscapes r.1, r.2)
  | _ =>
    let line := cs.takeWhile (· != '\n')
    some (trim isBlank (dropComment line), cs.dropWhile (· != '\n'))

/-- The text behind the end of the line, if nothing but blanks and a comment stand before it. -/
def scanEnd (cs : List Char) : Option (List Char) :=
  let rest := skipInline cs
  let rest := if rest.head? = some '#' then rest.dropWhile (· != '\n') else rest
  match rest with
  | [] => some []
  | '\n' :: rest => some rest
  | _ => none

/-- A name and its value. -/
abbrev Binding := String × Option String

/-- The binding of a name, if there is a name. -/
def binding? (name : Option (List Char)) (value : Option (List Char)) : Option Binding :=
  name.map fun n => (String.ofList n, value.map String.ofList)

/-- The binding at the front, if it can be read, and the rest. -/
def scanBinding (cs : List Char) : Option Binding × List Char :=
  let cs := cs.dropWhile isBlank
  if cs.isEmpty then (none, [])
  else
    match scanName (skipExport cs) with
    | none => (none, skipLine (skipExport cs))
    | some (name, rest) =>
      match skipInline rest with
      | '=' :: rest =>
        match scanValue rest with
        | none => (none, skipLine rest)
        | some (value, rest) =>
          match scanEnd rest with
          | none => (none, skipLine rest)
          | some rest => (binding? name (some value), rest)
      | rest =>
        match scanEnd rest with
        | none => (none, skipLine rest)
        | some rest => (binding? name none, rest)

/-- The bindings of a text; every one takes at least one character. -/
def scanBindings : Nat → List Char → List Binding
  | 0, _ => []
  | count + 1, cs =>
    if cs.isEmpty then []
    else
      let (found, rest) := scanBinding cs
      found.toList ++ scanBindings count rest

end CharacterLedger.Settings.EnvironmentFile
