import Vigil.Sorted.Set
import Vigil.Text.Blank
import Vigil.Text.Numeral
import Vigil.Text.Quoted

/-!
Identifiers of cluster members: numbers of 32 bits, ordered as numbers and written in decimal.
-/

namespace Vigil

structure InstanceId where
  number : UInt32
  deriving DecidableEq, Repr, Inhabited

/-- The text that was read where the identifier of an instance was expected. -/
structure BadInstanceId where
  text : String
  deriving DecidableEq, Repr

def BadInstanceId.message (e : BadInstanceId) : String :=
  "Invalid instance ID: expected a non-negative integer, got " ++ Text.quote e.text

namespace InstanceId

instance : LT InstanceId := ⟨fun a b => a.number < b.number⟩

instance : LE InstanceId := ⟨fun a b => a.number ≤ b.number⟩

instance (a b : InstanceId) : Decidable (a < b) :=
  inferInstanceAs (Decidable (a.number < b.number))

instance (a b : InstanceId) : Decidable (a ≤ b) :=
  inferInstanceAs (Decidable (a.number ≤ b.number))

instance : KeyOrder InstanceId where
  irrefl a := KeyOrder.irrefl a.number
  trans h h' := UInt32.lt_trans h h'
  eq_of_not_lt {a b} h h' := by
    have : a.number = b.number := KeyOrder.eq_of_not_lt h h'
    cases a; cases b; simpa using this

def ofNat (n : Nat) : InstanceId := ⟨UInt32.ofNat n⟩

instance (n : Nat) : OfNat InstanceId n := ⟨ofNat n⟩

def toNat (id : InstanceId) : Nat := id.number.toNat

def text (id : InstanceId) : String := Text.decimal id.toNat

/-- Read an identifier; white space at either end does not matter. -/
def parse (s : String) : Except BadInstanceId InstanceId :=
  match Text.numeral? Text.limit32 (Text.trim s.toList) with
  | some n => .ok (ofNat n)
  | none => .error ⟨s⟩

end InstanceId

/-- A finite set of instances. -/
abbrev InstanceSet := SortedSet InstanceId

end Vigil
