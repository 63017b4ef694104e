import Vigil.Duration
import Vigil.Envelope

/-!
How long a timer waits: the same time for every message, a time for each kind of message, or a time
that every message has of its own, which leaves any other policy open.
-/

namespace Vigil

inductive Delay where
  | fixed (d : Duration)
  /-- A time for each named kind, and one for all other kinds. -/
  | perKind (default : Duration) (kinds : SortedMap String Duration)
  /-- The time that the message says. -/
  | perMessage
  deriving DecidableEq, Repr

/-- How long a timer armed with `message` waits. -/
def Delay.of {α : Type} [HasKind α] (delay : Delay) (message : α) : Duration :=
  match delay with
  | fixed d => d
  | perKind default kinds => (kinds.get? (HasKind.kind message)).getD default
  | perMessage => HasKind.wait message

end Vigil
