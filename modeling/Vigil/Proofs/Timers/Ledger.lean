import Mathlib.Data.List.Perm.Basic
import Vigil.Proofs.Timers.Deadlines

/-!
A ledger of timers on the logical clock: an entry for every call, for every timer that is armed, and
for whatever becomes of it. Entries name the timer itself, where events name only key and message,
so the ledger tells timers with equal messages apart. Erasing it gives the events of the run
(`events_callAll`).
-/

namespace Vigil

inductive Fate where
  | armed
  /-- Its key was set again. -/
  | replaced
  | cancelled
  /-- A tick took it out. -/
  | expired
  /-- Its message was handed over. -/
  | fired
  deriving DecidableEq, Repr

inductive TimerEntry (κ μ : Type) where
  /-- Somebody, the receiver of a message included, asks for a change. -/
  | called (c : TimerCommand κ μ)
  | armed (a : Armed κ μ)
  | replaced (a : Armed κ μ)
  | cancelled (now : Nat) (a : Armed κ μ)
  | ticked (now count : Nat)
  | expired (a : Armed κ μ)
  /-- The message was handed over; `claimed` tells whether there was a receiver. -/
  | fired (now : Nat) (a : Armed κ μ) (claimed : Bool)
  | refused (r : Refusal)
  deriving DecidableEq, Repr

namespace TimerEntry

variable {κ μ : Type}

/-- The timer that the entry is about, if that is its fate. -/
def about? : Fate → TimerEntry κ μ → Option (Armed κ μ)
  | .armed, armed a => some a
  | .replaced, replaced a => some a
  | .cancelled, cancelled _ a => some a
  | .expired, expired a => some a
  | .fired, fired _ a _ => some a
  | _, _ => none

def request? : TimerEntry κ μ → Option (κ × μ)
  | called (.set key message) => some (key, message)
  | _ => none

/-- What an observer is told of an entry, and the attempt to deliver. Being armed, replaced and
taken out goes unnoticed. -/
def events : TimerEntry κ μ → List (TimerEvent κ μ)
  | called _ | armed _ | replaced _ | expired _ => []
  | cancelled now a => [.cancelled now a.key a.message]
  | ticked now count => [.ticked now count]
  | fired now a claimed =>
    [.triggered now a.key a.message,
      if claimed then .delivered now a.key a.message else .warned .timeoutUnclaimed]
  | refused r => [.warned (.timeoutRefused r)]

end TimerEntry

/-- The timers of a ledger that have come to a fate, in the order in which they did. -/
def timersIn {κ μ : Type} (f : Fate) (l : List (TimerEntry κ μ)) : List (Armed κ μ) :=
  l.filterMap (·.about? f)

/-- What callers do to timers whose messages go to a receiver. -/
inductive TimerCall (σ κ μ : Type) where
  | command (c : TimerCommand κ μ)
  | tick (time : Nat)
  /-- The receiver changes by itself, or another takes its place. -/
  | receiver (s : σ)

namespace LogicalTimers

variable {κ μ σ : Type} [DecidableEq κ] [HasKind μ]

def armedBy (t : LogicalTimers κ μ) (key : κ) (message : μ) : Armed κ μ :=
  ⟨key, message, deadlineAfter t.now (t.delay.of message), t.nextSeq⟩

def record (t : LogicalTimers κ μ) (c : TimerCommand κ μ) : List (TimerEntry κ μ) :=
  .called c ::
    match c with
    | .set key message => (t.find? key).toList.map .replaced ++ [.armed (t.armedBy key message)]
    | .cancel key => (t.find? key).toList.map (.cancelled t.now)
    | .cancelAll => t.pending.map (.cancelled t.now)

def recordAll (t : LogicalTimers κ μ) : List (TimerCommand κ μ) → List (TimerEntry κ μ)
  | [] => []
  | c :: cs => t.record c ++ (t.apply c).1.recordAll cs

def recordHandOver (receive : TimerReceiver σ κ μ) (t : LogicalTimers κ μ) (s : σ)
    (a : Armed κ μ) : List (TimerEntry κ μ) :=
  let reply := (receive s a.key a.message).2
  .fired t.now a reply.isSome ::
    (t.recordAll ((reply.map TimerReply.commands).getD []) ++
      (reply.bind TimerReply.refusal).toList.map .refused)

def recordHandOverAll (receive : TimerReceiver σ κ μ) (t : LogicalTimers κ μ) (s : σ) :
    List (Armed κ μ) → List (TimerEntry κ μ)
  | [] => []
  | a :: as =>
    let (t', s', _) := t.handOver receive s a
    t.recordHandOver receive s a ++ t'.recordHandOverAll receive s' as

/-- The entries of the expiry with which a tick begins. -/
def recordExpiry (t : LogicalTimers κ μ) (time : Nat) : List (TimerEntry κ μ) :=
  .ticked (t.expire time).1.now t.count :: (t.expire time).2.map .expired

def recordTick (receive : TimerReceiver σ κ μ) (t : LogicalTimers κ μ) (s : σ) (time : Nat) :
    List (TimerEntry κ μ) :=
  t.recordExpiry time ++ (t.expire time).1.recordHandOverAll receive s (t.expire time).2

def call (receive : TimerReceiver σ κ μ) (t : LogicalTimers κ μ) (s : σ) :
    TimerCall σ κ μ → LogicalTimers κ μ × σ × List (TimerEvent κ μ)
  | .command c => let (t, es) := t.apply c; (t, s, es)
  | .tick time => t.tick receive s time
  | .receiver s => (t, s, [])

def callAll (receive : TimerReceiver σ κ μ) (t : LogicalTimers κ μ) (s : σ) :
    List (TimerCall σ κ μ) → LogicalTimers κ μ × σ × List (TimerEvent κ μ)
  | [] => (t, s, [])
  | c :: cs =>
    let (t, s, es) := t.call receive s c
    let (t, s, es') := t.callAll receive s cs
    (t, s, es ++ es')

def entries (receive : TimerReceiver σ κ μ) (t : LogicalTimers κ μ) (s : σ) :
    TimerCall σ κ μ → List (TimerEntry κ μ)
  | .command c => t.record c
  | .tick time => t.recordTick receive s time
  | .receiver _ => []

def ledger (receive : TimerReceiver σ κ μ) (t : LogicalTimers κ μ) (s : σ) :
    List (TimerCall σ κ μ) → List (TimerEntry κ μ)
  | [] => []
  | c :: cs =>
    let (t', s', _) := t.call receive s c
    t.entries receive s c ++ t'.ledger receive s' cs

/-! ### The events are those of the entries -/

variable {receive : TimerReceiver σ κ μ} {t : LogicalTimers κ μ} {s : σ}

theorem events_apply (t : LogicalTimers κ μ) (c : TimerCommand κ μ) :
    (t.apply c).2 = (t.record c).flatMap TimerEntry.events := by
  cases c with
  | set key message => cases h : t.find? key <;> simp [apply, record, TimerEntry.events, h]
  | cancel key =>
      have now : (t.without key).now = t.now := rfl
      cases h : t.find? key <;>
        simp [apply, cancel, cancelled, record, TimerEntry.events, h, now]
  | cancelAll =>
      simp only [apply, cancelAll, cancelled, record, List.flatMap_cons, TimerEntry.events,
        List.nil_append, List.flatMap_map]
      exact List.map_eq_flatMap

theorem events_applyAll (t : LogicalTimers κ μ) (cs : List (TimerCommand κ μ)) :
    (t.applyAll cs).2 = (t.recordAll cs).flatMap TimerEntry.events := by
  induction cs generalizing t with
  | nil => rfl
  | cons c cs ih => simp only [applyAll, recordAll, List.flatMap_append, ih, events_apply]

theorem events_handOver (t : LogicalTimers κ μ) (s : σ) (a : Armed κ μ) :
    (t.handOver receive s a).2.2 =
      (t.recordHandOver receive s a).flatMap TimerEntry.events := by
  unfold handOver recordHandOver
  rcases receive s a.key a.message with ⟨s', _ | ⟨commands, refusal⟩⟩
  · simp [TimerEvent.handover, TimerEntry.events, applyAll, recordAll]
  · cases refusal <;> simp [TimerEvent.handover, TimerEntry.events, events_applyAll]

theorem events_handOverAll (t : LogicalTimers κ μ) (s : σ) (due : List (Armed κ μ)) :
    (t.handOverAll receive s due).2.2 =
      (t.recordHandOverAll receive s due).flatMap TimerEntry.events := by
  induction due generalizing t s with
  | nil => rfl
  | cons a due ih =>
      simp only [handOverAll, recordHandOverAll, List.flatMap_append, ih, events_handOver]

theorem events_call (t : LogicalTimers κ μ) (s : σ) (c : TimerCall σ κ μ) :
    (t.call receive s c).2.2 = (t.entries receive s c).flatMap TimerEntry.events := by
  cases c with
  | command c => exact t.events_apply c
  | tick time =>
      have silent (due : List (Armed κ μ)) :
          (due.map TimerEntry.expired).flatMap TimerEntry.events = [] := by
        simp [TimerEntry.events, List.flatMap_map]
      simp only [call, tick, entries, recordTick, recordExpiry, List.cons_append,
        List.flatMap_cons, List.flatMap_append, silent, events_handOverAll]
      rfl
  | receiver s => rfl

theorem events_callAll (t : LogicalTimers κ μ) (s : σ) (cs : List (TimerCall σ κ μ)) :
    (t.callAll receive s cs).2.2 = (t.ledger receive s cs).flatMap TimerEntry.events := by
  induction cs generalizing t s with
  | nil => rfl
  | cons c cs ih => simp only [callAll, ledger, List.flatMap_append, ih, events_call]

end LogicalTimers
end Vigil
