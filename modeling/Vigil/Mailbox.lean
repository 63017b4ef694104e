/-!
A buffer that hands messages back in the order in which they came.
-/

namespace Vigil

structure Mailbox (α : Type) where
  toList : List α
  deriving DecidableEq, Repr

namespace Mailbox

variable {α : Type}

instance : EmptyCollection (Mailbox α) := ⟨⟨[]⟩⟩

instance : Inhabited (Mailbox α) := ⟨∅⟩

def push (m : Mailbox α) (a : α) : Mailbox α := ⟨m.toList ++ [a]⟩

/-- The oldest message, and the others. -/
def pop (m : Mailbox α) : Option α × Mailbox α :=
  match m.toList with
  | [] => (none, ∅)
  | a :: rest => (some a, ⟨rest⟩)

/-- All messages, oldest first. -/
def drain (m : Mailbox α) : List α × Mailbox α := (m.toList, ∅)

def size (m : Mailbox α) : Nat := m.toList.length

def isEmpty (m : Mailbox α) : Bool := m.toList.isEmpty

@[simp] theorem toList_push (m : Mailbox α) (a : α) : (m.push a).toList = m.toList ++ [a] := rfl

@[simp] theorem toList_empty : (∅ : Mailbox α).toList = [] := rfl

end Mailbox

end Vigil
