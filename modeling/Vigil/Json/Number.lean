import Vigil.Json
import Vigil.Decimal.Reading
import Vigil.Decimal.Shortest

/-!
The numbers of JSON texts. A number with a point or an exponent is a floating-point number, and so
is a whole number outside of the range of 64 bits and a negative zero. The digits of such a number
are gathered while they fit in 64 bits. What they make is rounded, and rounded once more when it is
scaled by its power of ten, so a number of many digits may come out beside the nearest one.
-/

namespace Vigil.Json

open Vigil.Text

/-- Whole numbers have no leading zeros. -/
def wholeNumber? (cs : List Char) : Option Nat :=
  match cs with
  | ['0'] => some 0
  | '0' :: _ => none
  | cs => digits? 10 cs

/-- Append a digit, unless the digits would no longer fit in 64 bits. -/
def appendDigit? (digits : Nat) (c : Char) : Option Nat :=
  (digitIn? 10 c).bind fun d =>
    if digits * 10 + d < limit64 then some (digits * 10 + d) else none

/-- Gather whole digits. From the first one that does not fit each one only raises the exponent. -/
def gatherWhole (digits : Nat) : List Char → Decimal
  | [] => ⟨digits, 0⟩
  | c :: cs =>
    match appendDigit? digits c with
    | some digits => gatherWhole digits cs
    | none => ⟨digits, (c :: cs).length⟩

/-- Gather digits of the fraction up to the first one that does not fit. -/
def gatherFraction (d : Decimal) : List Char → Decimal
  | [] => d
  | c :: cs =>
    match appendDigit? d.digits c with
    | some digits => gatherFraction ⟨digits, d.exponent - 1⟩ cs
    | none => d

/-- Greater powers of ten are no floating-point numbers. -/
def greatestPower : Nat := 308

def tenTo (k : Nat) : Float := Float.ofScientific 1 false k

/-- Divide digits by a power of ten, in two steps where it is too great for one. Nothing is left
where it is too great for two. -/
def dividedBy (x : Float) (k : Nat) : Float :=
  if k ≤ greatestPower then x / tenTo k
  else if k ≤ 2 * greatestPower then x / tenTo greatestPower / tenTo (k - greatestPower)
  else 0.0

/-- Scale digits by their power of ten. There is no number where the outcome is not finite. -/
def scaled? (d : Decimal) : Option Float :=
  if d.digits = 0 then some 0.0
  else
    match d.exponent with
    | .ofNat k =>
      if k ≤ greatestPower then (some (Float.ofNat d.digits * tenTo k)).filter Float.isFinite
      else none
    | .negSucc k => some (dividedBy (Float.ofNat d.digits) (k + 1))

/-- Scale digits once the exponent at the end of the text is read, if there is one. -/
def raised? (d : Decimal) : List Char → Option Float
  | [] => scaled? d
  | c :: ds =>
    if c == 'e' || c == 'E' then
      (Decimal.exponent? ds).bind fun e => scaled? ⟨d.digits, d.exponent + e⟩
    else none

/-- The floating-point number of whole digits and the text after them. A point has a digit after
it. -/
def real? (whole rest : List Char) : Option Float :=
  let d := gatherWhole 0 whole
  match rest with
  | '.' :: rest =>
    let (fraction, rest) := Decimal.splitDigits rest
    if fraction.isEmpty then none else raised? (gatherFraction d fraction) rest
  | rest => raised? d rest

/-- The value of a number's text. -/
def number? (text : List Char) : Option Json :=
  let (negative, digits) :=
    match text with
    | '-' :: ds => (true, ds)
    | ds => (false, ds)
  let (whole, rest) := Decimal.splitDigits digits
  let real := (real? whole rest).map fun x => float (if negative then -x else x)
  match wholeNumber? whole with
  | none => none
  | some n =>
    if rest.isEmpty then
      if negative then if n = 0 ∨ limit64 / 2 < n then real else some (int (-(n : Int)))
      else if n < limit64 then some (int n)
      else real
    else real

end Vigil.Json
