import Vigil.Json
import Vigil.Text.Quoted

/-!
JSON texts of JSON values, on one line (`Json.compact`) or with one item a line and two spaces of
indentation a level (`Json.pretty`). A floating-point number that is not finite has no JSON text
and is written as null.
-/

namespace Vigil.Json

/-- How one character of a string is written. -/
def escapeChar (c : Char) : String :=
  if c = '"' then "\\\""
  else if c = '\\' then "\\\\"
  else if c = '\n' then "\\n"
  else if c = '\r' then "\\r"
  else if c = '\t' then "\\t"
  else if c.toNat < 16 then "\\u000" ++ Text.hexadecimal c.toNat
  else if c.toNat < 32 then "\\u00" ++ Text.hexadecimal c.toNat
  else c.toString

def stringText (s : String) : String :=
  "\"" ++ String.join (s.toList.map escapeChar) ++ "\""

/-- A whole floating-point number keeps a fraction digit, which tells it from a whole number. -/
def floatText (x : Float) : String :=
  if x.isFinite then
    let text := Decimal.positional x
    if text.toList.contains '.' then text else text ++ ".0"
  else "null"

def scalarText : Json → String
  | null => "null"
  | bool b => if b then "true" else "false"
  | int n => toString n
  | float x => floatText x
  | string s => stringText s
  | array _ => "[]"
  | object _ => "\x7b\x7d"

mutual

def compact : Json → String
  | array items => "[" ++ ",".intercalate (compactItems items) ++ "]"
  | object members => "\x7b" ++ ",".intercalate (compactMembers members) ++ "\x7d"
  | j => scalarText j

def compactItems : List Json → List String
  | [] => []
  | j :: js => compact j :: compactItems js

def compactMembers : List (String × Json) → List String
  | [] => []
  | (name, j) :: ms => (stringText name ++ ":" ++ compact j) :: compactMembers ms

end

def indentation (level : Nat) : String := String.ofList (List.replicate (2 * level) ' ')

/-- Lay out the parts of an array or object, one a line. -/
def block (opening closing : String) (level : Nat) (parts : List String) : String :=
  match parts with
  | [] => opening ++ closing
  | parts =>
    let indented := parts.map fun part => indentation (level + 1) ++ part
    opening ++ "\n" ++ ",\n".intercalate indented ++ "\n" ++ indentation level ++ closing

mutual

def prettyAt (level : Nat) : Json → String
  | array items => block "[" "]" level (prettyItems level items)
  | object members => block "\x7b" "\x7d" level (prettyMembers level members)
  | j => scalarText j

def prettyItems (level : Nat) : List Json → List String
  | [] => []
  | j :: js => prettyAt (level + 1) j :: prettyItems level js

def prettyMembers (level : Nat) : List (String × Json) → List String
  | [] => []
  | (name, j) :: ms =>
    (stringText name ++ ": " ++ prettyAt (level + 1) j) :: prettyMembers level ms

end

def pretty (j : Json) : String := prettyAt 0 j

end Vigil.Json
