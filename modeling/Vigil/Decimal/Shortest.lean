/-!
The shortest decimal of a binary fraction: the fewest digits that denote a number which rounds to
the same floating-point number, and of those the nearest, which of two is the greater. Everything
is exact arithmetic on natural numbers: for each count of digits the two neighbours of the value on
that decimal grid are compared with the interval of numbers that round to it.
-/

namespace Vigil

/-- The number `digits * 10 ^ exponent`. -/
structure Decimal where
  digits : Nat
  exponent : Int
  deriving DecidableEq, Repr

namespace Decimal

/-- A positive floating-point number `mantissa * 2 ^ exponent`; `lowest` tells that its lower
neighbour is only half as far away as its upper one. -/
structure Binary where
  mantissa : Nat
  exponent : Int
  lowest : Bool
  deriving DecidableEq, Repr

/-- The leading bit of a normal number's mantissa, which its bits leave out. -/
def leadingBit : Nat := 4503599627370496

/-- The magnitude of a finite floating-point number from its bits. -/
def Binary.ofBits (bits : UInt64) : Binary :=
  let fraction := (bits &&& 0xFFFFFFFFFFFFF).toNat
  let biased := ((bits >>> 52) &&& 0x7FF).toNat
  if biased = 0 then ⟨fraction, -1074, false⟩
  else ⟨fraction + leadingBit, (biased : Int) - 1075, fraction == 0 && biased != 1⟩

/-- `n * b ^ e` as a fraction. -/
def scaled (n b : Nat) (e : Int) : Nat × Nat :=
  match e with
  | .ofNat k => (n * b.pow k, 1)
  | .negSucc k => (n, b.pow (k + 1))

/-- Comparison of fractions with positive denominators. -/
def fractionLe (a b : Nat × Nat) : Bool := a.1 * b.2 ≤ b.1 * a.2

def fractionLt (a b : Nat × Nat) : Bool := a.1 * b.2 < b.1 * a.2

namespace Binary

def value (v : Binary) : Nat × Nat := scaled v.mantissa 2 v.exponent

/-- A quarter of the last place is the unit of both ends of the rounding interval. -/
def lower (v : Binary) : Nat × Nat :=
  scaled (4 * v.mantissa - if v.lowest then 1 else 2) 2 (v.exponent - 2)

def upper (v : Binary) : Nat × Nat := scaled (4 * v.mantissa + 2) 2 (v.exponent - 2)

/-- Whether a number rounds to `v`. The ends belong to the number with the even mantissa. -/
def rounds (v : Binary) (x : Nat × Nat) : Bool :=
  if v.mantissa % 2 = 0 then fractionLe v.lower x && fractionLe x v.upper
  else fractionLt v.lower x && fractionLt x v.upper

/-- The greatest `e` with `10 ^ e ≤ v`, found upwards from `e`, or downwards. -/
def magnitudeFrom (x : Nat × Nat) : Nat → Int → Int
  | 0, e => e
  | fuel + 1, e =>
    if fractionLt x (scaled 1 10 e) then magnitudeFrom x fuel (e - 1)
    else if fractionLe (scaled 1 10 (e + 1)) x then magnitudeFrom x fuel (e + 1)
    else e

/-- A first guess from the binary exponent is off by a few places at most. -/
def magnitude (v : Binary) : Int :=
  magnitudeFrom v.value 400 (((v.mantissa.log2 : Int) + v.exponent) * 30103 / 100000)

/-- The decimal with `count` digits that rounds to `v` and is nearest to it, if there is one; of two
that are as near, the greater. -/
def withDigits? (v : Binary) (count : Nat) : Option Decimal :=
  let unit := v.magnitude - (count : Int) + 1
  let x := v.value
  let u := scaled 1 10 unit
  let below := x.1 * u.2 / (x.2 * u.1)
  let above := below + 1
  let number := fun d : Nat => scaled d 10 unit
  let fits := fun d : Nat => 0 < d && v.rounds (number d)
  let nearerBelow := fractionLt (2 * x.1, x.2) (scaled (below + above) 10 unit)
  match fits below, fits above with
  | true, true => some ⟨if nearerBelow then below else above, unit⟩
  | true, false => some ⟨below, unit⟩
  | false, true => some ⟨above, unit⟩
  | false, false => none

/-- Seventeen digits tell any two floating-point numbers apart. -/
def shortest (v : Binary) : Decimal :=
  ((List.range 17).findSome? fun n => v.withDigits? (n + 1)).getD ⟨v.mantissa, v.exponent⟩

end Binary

end Decimal

end Vigil
