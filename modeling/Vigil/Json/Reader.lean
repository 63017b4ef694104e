import Vigil.Json
import Vigil.Json.Number
import Vigil.Sorted.Map

/-!
Reading JSON texts. Of members with one name the last one counts, and the members of an object are
ordered by name.
-/

namespace Vigil.Json

open Vigil.Text

def isSpace (c : Char) : Bool := c == ' ' || c == '\n' || c == '\r' || c == '\t'

def skipSpace (cs : List Char) : List Char := cs.dropWhile isSpace

/-- Four hexadecimal digits. -/
def hex4? : List Char → Option (Nat × List Char)
  | a :: b :: c :: d :: rest => (digits? 16 [a, b, c, d]).map fun n => (n, rest)
  | _ => none

/-- The character that an escape stands for, and the rest. A code point beyond the basic plane
takes two escapes. -/
def escape? : List Char → Option (Char × List Char)
  | '"' :: rest => some ('"', rest)
  | '\\' :: rest => some ('\\', rest)
  | '/' :: rest => some ('/', rest)
  | 'b' :: rest => some (Char.ofNat 8, rest)
  | 'f' :: rest => some (Char.ofNat 12, rest)
  | 'n' :: rest => some ('\n', rest)
  | 'r' :: rest => some ('\r', rest)
  | 't' :: rest => some ('\t', rest)
  | 'u' :: rest =>
    match hex4? rest with
    | none => none
    | some (n, rest) =>
      if n < 0xD800 ∨ 0xE000 ≤ n then some (Char.ofNat n, rest)
      else if 0xDC00 ≤ n then none
      else
        match rest with
        | '\\' :: 'u' :: rest =>
          match hex4? rest with
          | none => none
          | some (m, rest) =>
            if 0xDC00 ≤ m ∧ m < 0xE000 then
              some (Char.ofNat (0x10000 + (n - 0xD800) * 0x400 + (m - 0xDC00)), rest)
            else none
        | _ => none
  | _ => none

/-- The characters of a string up to its closing quote, and the rest. The fuel exceeds the number of
characters that are left. -/
def stringBody? : Nat → List Char → List Char → Option (String × List Char)
  | 0, _, _ => none
  | fuel + 1, acc, cs =>
    match cs with
    | [] => none
    | '"' :: rest => some (String.ofList acc.reverse, rest)
    | '\\' :: rest =>
      match escape? rest with
      | none => none
      | some (c, rest) => stringBody? fuel (c :: acc) rest
    | c :: rest => if c.toNat < 32 then none else stringBody? fuel (c :: acc) rest

def isNumberChar (c : Char) : Bool :=
  (digitIn? 10 c).isSome || c == '-' || c == '+' || c == '.' || c == 'e' || c == 'E'

/-- Read the rest of a word. -/
def word? (word : List Char) (j : Json) (cs : List Char) : Option (Json × List Char) :=
  if word.isPrefixOf cs then some (j, cs.drop word.length) else none

/-- Members in the order of their names, the last of each name. -/
def ordered (members : List (String × Json)) : List (String × Json) :=
  (SortedMap.ofList members).toList

mutual

/-- Read a value. Every level of nesting and every item costs one unit of fuel. -/
def value? : Nat → List Char → Option (Json × List Char)
  | 0, _ => none
  | fuel + 1, cs =>
    match skipSpace cs with
    | '\x7b' :: rest =>
      match skipSpace rest with
      | '\x7d' :: rest => some (object [], rest)
      | rest => members? fuel [] rest
    | '[' :: rest =>
      match skipSpace rest with
      | ']' :: rest => some (array [], rest)
      | rest => items? fuel [] rest
    | '"' :: rest => (stringBody? fuel [] rest).map fun (s, rest) => (string s, rest)
    | 'n' :: rest => word? ['u', 'l', 'l'] null rest
    | 't' :: rest => word? ['r', 'u', 'e'] (bool true) rest
    | 'f' :: rest => word? ['a', 'l', 's', 'e'] (bool false) rest
    | cs =>
      let (text, rest) := cs.span isNumberChar
      (number? text).map fun j => (j, rest)

/-- Read the items of an array from the first one on. -/
def items? : Nat → List Json → List Char → Option (Json × List Char)
  | 0, _, _ => none
  | fuel + 1, acc, cs =>
    match value? fuel cs with
    | none => none
    | some (j, rest) =>
      match skipSpace rest with
      | ',' :: rest => items? fuel (j :: acc) rest
      | ']' :: rest => some (array (j :: acc).reverse, rest)
      | _ => none

/-- Read the members of an object from the first name on. -/
def members? : Nat → List (String × Json) → List Char → Option (Json × List Char)
  | 0, _, _ => none
  | fuel + 1, acc, cs =>
    match skipSpace cs with
    | '"' :: rest =>
      match stringBody? fuel [] rest with
      | none => none
      | some (name, rest) =>
        match skipSpace rest with
        | ':' :: rest =>
          match value? fuel rest with
          | none => none
          | some (j, rest) =>
            match skipSpace rest with
            | ',' :: rest => members? fuel ((name, j) :: acc) rest
            | '\x7d' :: rest => some (object (ordered ((name, j) :: acc).reverse), rest)
            | _ => none
        | _ => none
    | _ => none

end

/-- Read a text that holds one value and nothing else. -/
def parse? (text : String) : Option Json :=
  let cs := text.toList
  match value? (cs.length + 1) cs with
  | some (j, rest) => if (skipSpace rest).isEmpty then some j else none
  | none => none

end Vigil.Json
