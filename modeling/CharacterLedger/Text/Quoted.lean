import CharacterLedger.Text.Hexadecimal
import CharacterLedger.Text.Printable

/-!
# Quoted text

The quoted form of a text stands on one line between two quotation marks and shows every character
that is not printable by its code point. The mark is an apostrophe, unless the text has an
apostrophe and no double quotation mark.
-/

namespace CharacterLedger.Text

/-- The apostrophe, the usual quotation mark. -/
def apostrophe : Char := Char.ofNat 0x27

/-- The double quotation mark. -/
def doubleMark : Char := Char.ofNat 0x22

/-- The mark that the quoted form of the text stands between. -/
def markOf (cs : List Char) : Char :=
  if cs.contains apostrophe && !cs.contains doubleMark then doubleMark else apostrophe

/-- The code point in the shortest of the three hexadecimal forms that holds it. -/
def escapePoint (n : Nat) : List Char :=
  if n < 0x100 then '\\' :: 'x' :: hex 2 n
  else if n < 0x10000 then '\\' :: 'u' :: hex 4 n
  else '\\' :: 'U' :: hex 8 n

/-- One character between marks `mark`. -/
def quoteChar (mark c : Char) : List Char :=
  if c = mark || c = '\\' then ['\\', c]
  else if c = '\n' then ['\\', 'n']
  else if c = '\r' then ['\\', 'r']
  else if c = '\t' then ['\\', 't']
  else if isPrintable c then [c]
  else escapePoint c.toNat

/-- The quoted form of the text. -/
def quote (cs : List Char) : List Char :=
  markOf cs :: cs.flatMap (quoteChar (markOf cs)) ++ [markOf cs]

/-- The quoted form of a text as a text. -/
def quoted (s : String) : String := String.ofList (quote s.toList)

end CharacterLedger.Text
