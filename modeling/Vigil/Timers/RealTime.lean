import Vigil.Timers.Delay
import Vigil.Timers.Exchange

/-!
Timers that sleep until their time comes. Every arming has a number of its own, and a sleeper that
wakes up fires only if its number is still the one that is pending for its key: a sleeper that was
cancelled or replaced while it was waking finds another number, or none, and does nothing.
-/

namespace Vigil

/-- A pending arming. -/
structure Sleeper (κ μ : Type) where
  key : κ
  message : μ
  wake : Nat
  number : Nat
  deriving DecidableEq, Repr

/-- Pending armings, at most one for a key, in the order of their numbers. -/
structure RealTimers (κ μ : Type) where
  delay : Delay
  now : Nat
  nextNumber : Nat
  sleeping : List (Sleeper κ μ)
  deriving DecidableEq, Repr

namespace RealTimers

variable {κ μ σ : Type}

def start (delay : Delay) : RealTimers κ μ := ⟨delay, 0, 0, []⟩

/-- No sleeper sleeps longer than thirty years of 365 days. -/
def longestSleep : Nat := 946080000000

def count (t : RealTimers κ μ) : Nat := t.sleeping.length

/-- Of the sleepers due by `time`, the one to wake first: the earliest, and of those the one armed
first. -/
def firstDue? (time : Nat) : List (Sleeper κ μ) → Option (Sleeper κ μ)
  | [] => none
  | a :: as =>
    match firstDue? time as with
    | none => if a.wake ≤ time then some a else none
    | some b => if a.wake ≤ b.wake then some a else some b

section Keys

variable [DecidableEq κ]

def find? (t : RealTimers κ μ) (key : κ) : Option (Sleeper κ μ) :=
  t.sleeping.find? (·.key == key)

def isPending (t : RealTimers κ μ) (key : κ) : Bool := (t.find? key).isSome

def without (t : RealTimers κ μ) (key : κ) : RealTimers κ μ :=
  { t with sleeping := t.sleeping.filter (·.key != key) }

/-- Arm the timer of a key, in place of any that is pending. Parts of a millisecond are slept
to the end. -/
def set [HasKind μ] (t : RealTimers κ μ) (key : κ) (message : μ) : RealTimers κ μ :=
  let sleep := min (t.delay.of message).toMillisUp longestSleep
  let sleeper := ⟨key, message, t.now + sleep, t.nextNumber⟩
  { t.without key with
    nextNumber := t.nextNumber + 1
    sleeping := (t.without key).sleeping ++ [sleeper] }

/-- Cancel the timer of a key; the answer is the sleeper, if it was pending. -/
def cancel (t : RealTimers κ μ) (key : κ) : RealTimers κ μ × Option (Sleeper κ μ) :=
  (t.without key, t.find? key)

/-- The sleeper with a number wakes up. It is taken out if it is still the pending one. -/
def fire (t : RealTimers κ μ) (key : κ) (number : Nat) : RealTimers κ μ × Option (Sleeper κ μ) :=
  match t.find? key with
  | some a => if a.number = number then (t.without key, some a) else (t, none)
  | none => (t, none)

end Keys

def cancelAll (t : RealTimers κ μ) : RealTimers κ μ × List (Sleeper κ μ) :=
  ({ t with sleeping := [] }, t.sleeping)

/-- The events of cancelling sleepers now. -/
def cancelled (t : RealTimers κ μ) (l : List (Sleeper κ μ)) : List (TimerEvent κ μ) :=
  l.map fun a => .cancelled t.now a.key a.message

variable [DecidableEq κ] [HasKind μ]

def apply (t : RealTimers κ μ) : TimerCommand κ μ → RealTimers κ μ × List (TimerEvent κ μ)
  | .set key message => (t.set key message, [])
  | .cancel key => let (t, a) := t.cancel key; (t, t.cancelled a.toList)
  | .cancelAll => let (t, l) := t.cancelAll; (t, t.cancelled l)

def applyAll (t : RealTimers κ μ) :
    List (TimerCommand κ μ) → RealTimers κ μ × List (TimerEvent κ μ)
  | [] => (t, [])
  | c :: cs =>
    let (t, es) := t.apply c
    let (t, es') := t.applyAll cs
    (t, es ++ es')

/-- A sleeper wakes up: it fires and its message is handed over, or nothing happens. -/
def wakeUp (receive : TimerReceiver σ κ μ) (t : RealTimers κ μ) (s : σ) (key : κ) (number : Nat) :
    RealTimers κ μ × σ × List (TimerEvent κ μ) :=
  match t.fire key number with
  | (t, none) => (t, s, [])
  | (t, some a) =>
    let (s, reply) := receive s a.key a.message
    let (before, after) := TimerEvent.handover t.now a.key a.message reply
    let (t, events) := t.applyAll ((reply.map TimerReply.commands).getD [])
    (t, s, before ++ events ++ after)

/-- Let time pass until `time`; at most `fuel` sleepers wake up meanwhile. -/
def passWithin (receive : TimerReceiver σ κ μ) (time : Nat) :
    Nat → RealTimers κ μ → σ → RealTimers κ μ × σ × List (TimerEvent κ μ)
  | 0, t, s => ({ t with now := max t.now time }, s, [])
  | fuel + 1, t, s =>
    match firstDue? time t.sleeping with
    | none => ({ t with now := max t.now time }, s, [])
    | some a =>
      let (t, s, es) := { t with now := max t.now a.wake }.wakeUp receive s a.key a.number
      let (t, s, es') := passWithin receive time fuel t s
      (t, s, es ++ es')

/-- Let time pass until `time` with a receiver that arms no more than `budget` timers. Every sleeper
that wakes up was pending at the start or is one of these. -/
def pass (receive : TimerReceiver σ κ μ) (budget : Nat) (t : RealTimers κ μ) (s : σ) (time : Nat) :
    RealTimers κ μ × σ × List (TimerEvent κ μ) :=
  passWithin receive time (t.count + budget) t s

end RealTimers

end Vigil
