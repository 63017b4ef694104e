import Vigil.Text.Unprintable

/-!
Texts in double quotes, for messages that cite what they were given. A quote and a backslash take
a backslash, five control characters have short names, and any other character that cannot be
shown is given by its code point.
-/

namespace Vigil.Text

/-- Lower-case hexadecimal digits without leading zeros. -/
def hexadecimal (n : Nat) : String := String.ofList (Nat.toDigits 16 n)

/-- How one character is written between quotes. -/
def escapeChar (c : Char) : String :=
  if c = '"' then "\\\""
  else if c = '\\' then "\\\\"
  else if c = '\n' then "\\n"
  else if c = '\r' then "\\r"
  else if c = '\t' then "\\t"
  else if c = Char.ofNat 0 then "\\0"
  else if 32 ≤ c.toNat ∧ c.toNat < 127 then c.toString
  else if isUnprintable c then "\\u\x7b" ++ hexadecimal c.toNat ++ "\x7d"
  else c.toString

def quote (s : String) : String :=
  "\"" ++ String.join (s.toList.map escapeChar) ++ "\""

end Vigil.Text
