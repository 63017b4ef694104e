import Vigil.Text.Numeral

/-!
Decimal floating-point texts: digits with an optional point and an optional exponent, read to the
nearest floating-point number. What overflows is infinite.
-/

namespace Vigil.Decimal

open Vigil.Text

/-- The digits at the start of a text, and the rest. -/
def splitDigits (cs : List Char) : List Char × List Char :=
  cs.span (fun c => (digitIn? 10 c).isSome)

/-- An exponent: a sign and one or more digits. -/
def exponent? (cs : List Char) : Option Int :=
  match cs with
  | '-' :: ds => (digits? 10 ds).map fun n => -(n : Int)
  | '+' :: ds => (digits? 10 ds).map fun n => (n : Int)
  | ds => (digits? 10 ds).map fun n => (n : Int)

/-- The floating-point number nearest to `digits * 10 ^ exponent`. Exponents far outside of the
range of floating-point numbers are settled without computing the power. -/
def nearest (digits : Nat) (exponent : Int) : Float :=
  let size : Int := ((toString digits).length : Int) + exponent
  if digits = 0 then 0.0
  else if 400 < size then 1.0 / 0.0
  else if size < -400 then 0.0
  else
    match exponent with
    | .ofNat k => Float.ofScientific (digits * Nat.pow 10 k) false 0
    | .negSucc k => Float.ofScientific digits true (k + 1)

/-- Read an unsigned decimal. At least one digit stands before or after the point. -/
def unsigned? (cs : List Char) : Option Float :=
  let (whole, rest) := splitDigits cs
  let (fraction, rest) :=
    match rest with
    | '.' :: ds => splitDigits ds
    | _ => ([], rest)
  let exponent :=
    match rest with
    | [] => some 0
    | 'e' :: ds => exponent? ds
    | 'E' :: ds => exponent? ds
    | _ => none
  if whole.isEmpty && fraction.isEmpty then none
  else
    match digits? 10 (whole ++ fraction), exponent with
    | some n, some e => some (nearest n (e - fraction.length))
    | _, _ => none

/-- Read a decimal with an optional minus sign. -/
def float? (cs : List Char) : Option Float :=
  match cs with
  | '-' :: ds => (unsigned? ds).map fun x => -x
  | ds => unsigned? ds

end Vigil.Decimal
