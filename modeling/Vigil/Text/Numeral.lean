/-!
Decimal numerals of bounded size: an optional plus sign and one or more ASCII digits, whose value
lies below a limit. Leading zeros are read, so a number has many numerals; `decimal` writes the
one without sign or leading zeros.
-/

namespace Vigil.Text

/-- Below this lie the values of 32 bits. -/
def limit32 : Nat := 4294967296

/-- Below this lie the values of 64 bits. -/
def limit64 : Nat := 18446744073709551616

/-- The value of a character as a digit in `base`, which is at most sixteen. -/
def digitIn? (base : Nat) (c : Char) : Option Nat :=
  let n := c.toNat
  let d :=
    if 48 ≤ n ∧ n ≤ 57 then n - 48
    else if 97 ≤ n ∧ n ≤ 102 then n - 87
    else if 65 ≤ n ∧ n ≤ 70 then n - 55
    else base
  if d < base then some d else none

/-- Read digits after a number that has the value `acc` so far. -/
def readDigits (base acc : Nat) : List Char → Option Nat
  | [] => some acc
  | c :: cs => (digitIn? base c).bind fun d => readDigits base (acc * base + d) cs

/-- Read one or more digits. -/
def digits? (base : Nat) : List Char → Option Nat
  | [] => none
  | cs => readDigits base 0 cs

/-- Leave out one plus sign at the start. -/
def dropPlus : List Char → List Char
  | '+' :: cs => cs
  | cs => cs

/-- Read an optional plus sign and digits, for a value below `limit`. -/
def numeral? (limit : Nat) (cs : List Char) : Option Nat :=
  (digits? 10 (dropPlus cs)).bind fun n => if n < limit then some n else none

/-- The numeral of a number without sign or leading zeros. -/
def decimal (n : Nat) : String := toString n

end Vigil.Text
