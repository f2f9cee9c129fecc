import CharacterLedger.Number.Numeral
import CharacterLedger.Table.Address
import CharacterLedger.Text.Hexadecimal
import CharacterLedger.Text.Pieces

/-!
# Reading addresses

The text that a database is opened by is a path, or an address that begins with `file:`. In an
address, two hexadecimal digits behind a percent sign stand for a byte, options may follow behind a
question mark, and what follows a number sign does not count. The options say what may be done with
the file, or that there is no file at all.
-/

namespace CharacterLedger.Table.Address

open CharacterLedger.Number CharacterLedger.Text

/-! ### Escapes -/

/-- The byte that two hexadecimal digits write. -/
def byte? (high low : Char) : Option Nat :=
  match hexValue? high, hexValue? low with
  | some h, some l => some (16 * h + l)
  | _, _ => none

/-- The bytes of a text with its escapes resolved. They end before an escaped zero. -/
def unescape : List Char → List UInt8
  | '%' :: high :: low :: cs =>
    match byte? high low with
    | some 0 => []
    | some n => UInt8.ofNat n :: unescape cs
    | none => '%'.toNat.toUInt8 :: unescape (high :: low :: cs)
  | c :: cs => String.utf8EncodeChar c ++ unescape cs
  | [] => []

/-- The text with its escapes resolved. -/
def unescaped (cs : List Char) : String :=
  let bytes := ByteArray.mk (unescape cs).toArray
  (String.fromUTF8? bytes).getD (String.ofList cs)

/-! ### Options -/

/-- The name and the value of an option. -/
def option (piece : List Char) : String × String :=
  (unescaped (piece.takeWhile (· ≠ '=')), unescaped ((piece.dropWhile (· ≠ '=')).drop 1))

/-- The options of a text; those without a name do not count. -/
def options (cs : List Char) : List (String × String) :=
  ((pieces '&' cs).map option).filter fun o => o.1 != ""

/-- The words that switch an option on. -/
def onWords : List String := ["on", "yes", "true"]

/-- The greatest number that switches an option on. -/
def greatestSwitch : Nat := 0x7fffffff

/-- Whether the value of an option switches it on. Of a number the last byte decides. -/
def isOn (value : String) : Bool :=
  match takeDigits value.toList with
  | ([], _) => onWords.contains (String.ofList (value.toList.map Char.toLower))
  | (digits, _) =>
    let n := ofDigits digits
    n ≤ greatestSwitch && n % 256 ≠ 0

/-- The access that the value of an option gives. -/
def access? (value : String) : Option Access :=
  [("ro", .read), ("rw", .write), ("rwc", .create), ("memory", .memory)].lookup value

/-- The address changed by an option. -/
def apply (a : Address) (name value : String) : Except AddressDefect Address :=
  if name = "mode" then
    match access? value with
    | some access =>
      if a.access.limit < access.need then .error (.notAllowed value)
      else .ok { a with access := access }
    | none => .error (.mode "access" value)
  else if name = "cache" then
    if value = "shared" || value = "private" then .ok a else .error (.mode name value)
  else if name = "vfs" then .ok { a with system := value }
  else if name = "immutable" then .ok { a with isFixed? := a.isFixed?.or (some (isOn value)) }
  else .ok a

/-! ### Reading an address -/

/-- What an address begins with. -/
def scheme : List Char := "file:".toList

/-- The text behind the name of a machine, which may stand between two slashes and another. -/
def dropAuthority : List Char → Except AddressDefect (List Char)
  | '/' :: '/' :: cs =>
    let name := String.ofList (cs.takeWhile (· ≠ '/'))
    if name = "" || name = "localhost" then .ok (cs.dropWhile (· ≠ '/'))
    else .error (.authority name)
  | cs => .ok cs

/-- The address that is written behind the scheme. -/
def ofBody (cs : List Char) : Except AddressDefect Address :=
  match dropAuthority cs with
  | .error d => .error d
  | .ok cs =>
    let cs := cs.takeWhile (· ≠ '#')
    let query := (cs.dropWhile (· ≠ '?')).drop 1
    let start : Except AddressDefect Address := .ok (ofPath (unescaped (cs.takeWhile (· ≠ '?'))))
    let address := (options query).foldl (fun a o => a.bind fun a => a.apply o.1 o.2) start
    address.bind fun a => if systems.contains a.system then .ok a else .error (.system a.system)

/-- The address that a text writes. -/
def ofText (s : String) : Except AddressDefect Address :=
  if scheme.isPrefixOf s.toList then ofBody (s.toList.drop scheme.length) else .ok (ofPath s)

theorem ofText_of_not_scheme {s : String} (h : scheme.isPrefixOf s.toList = false) :
    ofText s = .ok (ofPath s) := by
  simp [ofText, h]

end CharacterLedger.Table.Address
