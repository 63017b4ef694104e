import Vigil.Sorted.Order
import Vigil.Timers.Delay
import Vigil.Timers.Exchange

/-!
Timers on a logical clock, which stands still between ticks. A tick takes the expired timers out
before it hands over any of their messages, in the order of their deadlines and, at equal
deadlines, in the order in which they were armed. What a receiver arms meanwhile waits for a later
tick.
-/

namespace Vigil

/-- A pending timer. `seq` counts the timers ever armed. -/
structure Armed (κ μ : Type) where
  key : κ
  message : μ
  deadline : Nat
  seq : Nat
  deriving DecidableEq, Repr

/-- Pending timers, at most one for a key, in the order in which they were armed. -/
structure LogicalTimers (κ μ : Type) where
  delay : Delay
  now : Nat
  nextSeq : Nat
  pending : List (Armed κ μ)
  deriving DecidableEq, Repr

namespace LogicalTimers

variable {κ μ σ : Type}

/-- The clock does not go further. -/
def lastInstant : Nat := 18446744073709551615

/-- The deadline of a timer armed at `now`. The length counts in whole milliseconds modulo
2 ^ 64, and the sum stops at the last instant. -/
def deadlineAfter (now : Nat) (d : Duration) : Nat :=
  min (now + d.toMillis % 18446744073709551616) lastInstant

def start (delay : Delay) : LogicalTimers κ μ := ⟨delay, 0, 0, []⟩

def count (t : LogicalTimers κ μ) : Nat := t.pending.length

section Keys

variable [DecidableEq κ]

def find? (t : LogicalTimers κ μ) (key : κ) : Option (Armed κ μ) :=
  t.pending.find? (·.key == key)

def isPending (t : LogicalTimers κ μ) (key : κ) : Bool := (t.find? key).isSome

def deadline? (t : LogicalTimers κ μ) (key : κ) : Option Nat := (t.find? key).map Armed.deadline

def without (t : LogicalTimers κ μ) (key : κ) : LogicalTimers κ μ :=
  { t with pending := t.pending.filter (·.key != key) }

/-- Arm the timer of a key, in place of any that is pending. -/
def set [HasKind μ] (t : LogicalTimers κ μ) (key : κ) (message : μ) : LogicalTimers κ μ :=
  let armed := ⟨key, message, deadlineAfter t.now (t.delay.of message), t.nextSeq⟩
  { t.without key with nextSeq := t.nextSeq + 1, pending := (t.without key).pending ++ [armed] }

/-- Cancel the timer of a key; the answer is the timer, if it was pending. -/
def cancel (t : LogicalTimers κ μ) (key : κ) : LogicalTimers κ μ × Option (Armed κ μ) :=
  (t.without key, t.find? key)

end Keys

/-- Cancel all timers. -/
def cancelAll (t : LogicalTimers κ μ) : LogicalTimers κ μ × List (Armed κ μ) :=
  ({ t with pending := [] }, t.pending)

/-- Move the clock, never backwards, and take out the timers whose deadline has come. -/
def expire (t : LogicalTimers κ μ) (time : Nat) : LogicalTimers κ μ × List (Armed κ μ) :=
  let now := max t.now time
  let due := t.pending.filter (fun a => decide (a.deadline ≤ now))
  let pending := t.pending.filter (fun a => !decide (a.deadline ≤ now))
  ({ t with now, pending }, orderBy Armed.deadline due)

/-- The events of cancelling timers now. -/
def cancelled (t : LogicalTimers κ μ) (l : List (Armed κ μ)) : List (TimerEvent κ μ) :=
  l.map fun a => .cancelled t.now a.key a.message

variable [DecidableEq κ] [HasKind μ]

def apply (t : LogicalTimers κ μ) : TimerCommand κ μ → LogicalTimers κ μ × List (TimerEvent κ μ)
  | .set key message => (t.set key message, [])
  | .cancel key => let (t, a) := t.cancel key; (t, t.cancelled a.toList)
  | .cancelAll => let (t, l) := t.cancelAll; (t, t.cancelled l)

def applyAll (t : LogicalTimers κ μ) :
    List (TimerCommand κ μ) → LogicalTimers κ μ × List (TimerEvent κ μ)
  | [] => (t, [])
  | c :: cs =>
    let (t, es) := t.apply c
    let (t, es') := t.applyAll cs
    (t, es ++ es')

/-- Hand over the message of one expired timer. -/
def handOver (receive : TimerReceiver σ κ μ) (t : LogicalTimers κ μ) (s : σ) (a : Armed κ μ) :
    LogicalTimers κ μ × σ × List (TimerEvent κ μ) :=
  let (s, reply) := receive s a.key a.message
  let (before, after) := TimerEvent.handover t.now a.key a.message reply
  let (t, events) := t.applyAll ((reply.map TimerReply.commands).getD [])
  (t, s, before ++ events ++ after)

def handOverAll (receive : TimerReceiver σ κ μ) (t : LogicalTimers κ μ) (s : σ) :
    List (Armed κ μ) → LogicalTimers κ μ × σ × List (TimerEvent κ μ)
  | [] => (t, s, [])
  | a :: as =>
    let (t, s, es) := t.handOver receive s a
    let (t, s, es') := t.handOverAll receive s as
    (t, s, es ++ es')

/-- Move the clock and fire what has expired. -/
def tick (receive : TimerReceiver σ κ μ) (t : LogicalTimers κ μ) (s : σ) (time : Nat) :
    LogicalTimers κ μ × σ × List (TimerEvent κ μ) :=
  let count := t.count
  let (t, due) := t.expire time
  let noticed := .ticked t.now count
  let (t, s, events) := t.handOverAll receive s due
  (t, s, noticed :: events)

end LogicalTimers

end Vigil
