import Vigil.Warning

/-!
What timers, the receiver of their messages and an observer exchange. A receiver may change the
timers while it handles a message; its reply lists the changes in order. Everything that happens
becomes an event.
-/

namespace Vigil

/-- A change of the pending timers. -/
inductive TimerCommand (κ μ : Type) where
  | set (key : κ) (message : μ)
  | cancel (key : κ)
  | cancelAll
  deriving DecidableEq, Repr

/-- What a receiver does about a message: it changes timers, and then it may refuse. -/
structure TimerReply (κ μ : Type) where
  commands : List (TimerCommand κ μ)
  refusal : Option Refusal
  deriving DecidableEq, Repr

/-- A receiver with a state of type `σ`; it gives no reply where nobody is registered. -/
abbrev TimerReceiver (σ κ μ : Type) := σ → κ → μ → σ × Option (TimerReply κ μ)

inductive TimerEvent (κ μ : Type) where
  /-- The clock was set to `now`, when `count` timers were pending. -/
  | ticked (now count : Nat)
  /-- A timer fired. -/
  | triggered (now : Nat) (key : κ) (message : μ)
  /-- The message of a fired timer came to the receiver. -/
  | delivered (now : Nat) (key : κ) (message : μ)
  /-- A timer was cancelled before it fired. -/
  | cancelled (now : Nat) (key : κ) (message : μ)
  | warned (w : Warning)
  deriving DecidableEq, Repr

/-- The events of handing a fired message over, those of the receiver's own commands apart:
before them, and after them. -/
def TimerEvent.handover {κ μ : Type} (now : Nat) (key : κ) (message : μ) :
    Option (TimerReply κ μ) → List (TimerEvent κ μ) × List (TimerEvent κ μ)
  | none => ([.triggered now key message], [.warned .timeoutUnclaimed])
  | some reply =>
    ([.triggered now key message, .delivered now key message],
      (reply.refusal.map fun r => .warned (.timeoutRefused r)).toList)

end Vigil
