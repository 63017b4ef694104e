import Vigil.Text.Numeral
import Vigil.Yaml.Cursor

/-!
Tags of YAML nodes. A tag is a sequence of octets, since the escapes in it name octets; most tags
are the UTF-8 encoding of a text, but escapes can spell out sequences that are not.
-/

namespace Vigil.Yaml

structure Tag where
  octets : List UInt8
  deriving DecidableEq, Repr

namespace Tag

def ofText (s : String) : Tag := ⟨s.toUTF8.toList⟩

/-- The tag of a type of the YAML language itself. -/
def standard (type : String) : Tag := ofText ("tag:yaml.org,2002:" ++ type)

/-- A tag made of a start and a rest. -/
def append (start rest : Tag) : Tag := ⟨start.octets ++ rest.octets⟩

/-- The name that a local tag has after its exclamation mark. -/
def localName? (t : Tag) : Option String :=
  match t.octets with
  | first :: name => if first == 33 then String.fromUTF8? ⟨name.toArray⟩ else none
  | [] => none

/-- The characters with which a tag is written. Some flow signs belong to tags in angle brackets
only. -/
def isTagChar (verbatim : Bool) (c : Char) : Bool :=
  isWordChar c || ";/?:@&=+$.!~*'()%".toList.contains c || (verbatim && ",[]".toList.contains c)

/-- How many octets there are in an encoded character, by the first of them. -/
def width? (octet : Nat) : Option Nat :=
  if octet < 0x80 then some 1
  else if octet / 0x20 = 6 then some 2
  else if octet / 0x10 = 14 then some 3
  else if octet / 8 = 30 then some 4
  else none

/-- Whether an octet can follow the first one of an encoded character. -/
def isContinuation (octet : Nat) : Bool := octet / 0x40 == 2

/-- The octets that a tag is written for. An escape is a percent sign and two hexadecimal digits;
`due` more of them belong to the character that is being spelt out. -/
def written? (due : Nat) : List Char → Option (List UInt8)
  | [] => if due = 0 then some [] else none
  | '%' :: a :: b :: rest =>
    match Text.digits? 16 [a, b] with
    | none => none
    | some n =>
      match due with
      | 0 => (width? n).bind fun width => (written? (width - 1) rest).map (n.toUInt8 :: ·)
      | due + 1 =>
        if isContinuation n then (written? due rest).map (n.toUInt8 :: ·) else none
  | c :: rest =>
    if due = 0 && c != '%' then (written? 0 rest).map (c.toNat.toUInt8 :: ·) else none

/-- The tag that characters are written for. An octet of zero ends it. -/
def ofWritten? (cs : List Char) : Option Tag :=
  (written? 0 cs).map fun octets => ⟨octets.takeWhile (· != 0)⟩

end Tag

end Vigil.Yaml
