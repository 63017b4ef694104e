import Vigil.Decimal.Shortest

/-!
Floating-point numbers as plain positional decimals: never an exponent, no fraction part on whole
numbers, and words for what is not a finite number.
-/

namespace Vigil.Decimal

def digitText (n : Nat) : List Char := (toString n).toList

/-- Write the digits with the decimal point where the exponent puts it. -/
def chars (d : Decimal) : List Char :=
  let digits := digitText d.digits
  match d.exponent with
  | .ofNat k => digits ++ List.replicate k '0'
  | .negSucc k =>
    let places := k + 1
    let padded := List.replicate (places + 1 - digits.length) '0' ++ digits
    let whole := padded.take (padded.length - places)
    let fraction := padded.drop (padded.length - places)
    let kept := (fraction.reverse.dropWhile (· == '0')).reverse
    if kept.isEmpty then whole else whole ++ '.' :: kept

/-- Whether the sign bit is set. -/
def isNegative (x : Float) : Bool := x.toBits >>> 63 == 1

/-- The text of a floating-point number. -/
def positional (x : Float) : String :=
  if x.isNaN then "NaN"
  else
    let sign := if isNegative x then "-" else ""
    if x.isInf then sign ++ "inf"
    else
      let v := Binary.ofBits x.toBits
      if v.mantissa = 0 then sign ++ "0"
      else sign ++ String.ofList v.shortest.chars

end Vigil.Decimal
