import Vigil.Random.Draws
import Vigil.Signal
import Vigil.Warning

/-!
A network that hands envelopes to those recipients that are running, and loses some of them at
random. Every copy that leaves its sender is counted as sent and as exactly one of delivered, lost
and unreachable. Only copies for a running recipient take a draw.
-/

namespace Vigil

/-- How likely a copy is lost: the number of draws that lose it. Where it is zero, nothing is
drawn. -/
structure LossRate where
  losing : Nat
  deriving DecidableEq, Repr

namespace LossRate

/-- A copy is lost if its draw, as a number between 0 and 1, is less than `p`; these are the draws
below `p * 2 ^ 53`. Scaling by a power of two is exact. What is not greater than zero never loses
anything. -/
def ofProbability (p : Float) : LossRate :=
  if p > 0.0 then
    if p ≥ 1.0 then ⟨drawLimit⟩
    else ⟨(p * 9007199254740992.0).ceil.toUInt64.toNat⟩
  else ⟨0⟩

def loses (r : LossRate) (d : Draw) : Bool := decide (d.val < r.losing)

end LossRate

/-- Counts of copies. -/
structure NetworkStats where
  sent : Nat
  delivered : Nat
  lost : Nat
  unreachable : Nat
  deriving DecidableEq, Repr

structure Network (γ : Type) where
  draws : γ
  rate : LossRate
  stats : NetworkStats

/-- Where an envelope is to go. -/
inductive Destination where
  /-- Back to the sender. -/
  | sender
  /-- To each of these instances. -/
  | instances (ids : List InstanceId)
  /-- Nowhere: the recipient is no instance. -/
  | nowhere (e : BadInstanceId)
  deriving DecidableEq, Repr

/-- The destination of an envelope, by its recipient. -/
def Envelope.destination {α : Type} (e : Envelope α) (sender : InstanceId)
    (running : InstanceSet) : Destination :=
  match e.recipient? with
  | none => .sender
  | some recipient =>
    if recipient = Header.everybody then .instances (running.erase sender).toList
    else
      match InstanceId.parse recipient with
      | .ok id => .instances [id]
      | .error bad => .nowhere bad

namespace Network

variable {γ : Type}

def start (draws : γ) (rate : LossRate) : Network γ := ⟨draws, rate, ⟨0, 0, 0, 0⟩⟩

variable [DrawSource γ]

/-- Send one copy; the answer tells whether it arrives. -/
def carry (n : Network γ) (running : InstanceSet) (recipient : InstanceId) : Network γ × Bool :=
  let s := { n.stats with sent := n.stats.sent + 1 }
  if recipient ∉ running then
    ({ n with stats := { s with unreachable := s.unreachable + 1 } }, false)
  else if n.rate.losing = 0 then
    ({ n with stats := { s with delivered := s.delivered + 1 } }, true)
  else
    let (d, draws) := DrawSource.next n.draws
    if n.rate.loses d then
      ({ n with draws, stats := { s with lost := s.lost + 1 } }, false)
    else ({ n with draws, stats := { s with delivered := s.delivered + 1 } }, true)

/-- Send a copy to each of several instances; the answer lists those it reaches. -/
def carryAll (n : Network γ) (running : InstanceSet) :
    List InstanceId → Network γ × List InstanceId
  | [] => (n, [])
  | id :: ids =>
    let (n, arrived) := n.carry running id
    let (n, reached) := n.carryAll running ids
    (n, if arrived then id :: reached else reached)

/-- Route an envelope: the answer lists the copies that arrive, with their recipients. -/
def route (n : Network γ) (sender : InstanceId) (e : Envelope Signal) (running : InstanceSet) :
    Network γ × List (InstanceId × Envelope Signal) × List Warning :=
  match e.destination sender running with
  | .sender => (n, [(sender, e)], [])
  | .nowhere bad => (n, [], [.recipientMalformed bad])
  | .instances ids =>
    let (n, reached) := n.carryAll running ids
    (n, reached.map fun id => (id, e), [])

end Network

end Vigil
