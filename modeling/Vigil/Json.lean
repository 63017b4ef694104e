import Vigil.Decimal.Positional

/-!
JSON values. Whole numbers and floating-point numbers are different values, since a field for a
count takes the former only. The members of an object keep the order in which they are listed.
-/

namespace Vigil

inductive Json where
  | null
  | bool (b : Bool)
  | int (n : Int)
  | float (x : Float)
  | string (s : String)
  | array (items : List Json)
  | object (members : List (String × Json))
  deriving Inhabited

namespace Json

/-- The first member with a name. -/
def find (name : String) : List (String × Json) → Option Json
  | [] => none
  | m :: ms => if m.1 = name then some m.2 else find name ms

/-- The member of an object with a name. -/
def get? (name : String) : Json → Option Json
  | object members => find name members
  | _ => none

/-- A whole number that is not negative and lies below a limit. -/
def nat? (limit : Nat) : Json → Option Nat
  | int (.ofNat n) => if n < limit then some n else none
  | _ => none

def string? : Json → Option String
  | string s => some s
  | _ => none

def array? : Json → Option (List Json)
  | array items => some items
  | _ => none

/-- A number of either sort, as a floating-point number. -/
def float? : Json → Option Float
  | int n => some (Float.ofInt n)
  | float x => some x
  | _ => none

def ofNat (n : Nat) : Json := int n

end Json

end Vigil
