import Vigil.Machine
import Vigil.Proofs.Timers.Deadlines
import Vigil.Timing

/-!
The timers of a detector: what each of them delivers and how long it runs, and what is pending once
the timers of all peers have been armed or cancelled.
-/

namespace Vigil

namespace TimerKey

/-- What the timer of a key delivers. -/
def signal : TimerKey → Signal
  | receive peer => .timedOut peer
  | send peer => .sendHeartbeat peer

def peer : TimerKey → InstanceId
  | receive peer => peer
  | send peer => peer

theorem signal_inj {k l : TimerKey} : k.signal = l.signal ↔ k = l := by
  cases k <;> cases l <;> simp [signal]

end TimerKey

def HeartbeatTiming.wait (timing : HeartbeatTiming) : TimerKey → Duration
  | .receive _ => timing.timeout
  | .send _ => timing.interval

theorem HeartbeatTiming.delay_of (timing : HeartbeatTiming) {k : TimerKey} {e : Envelope Signal}
    (h : e.content = k.signal) : timing.delay.of e = timing.wait k := by
  have kind : HasKind.kind e = k.signal.kind := congrArg Signal.kind h
  cases k <;> simp [delay, Delay.of, kind, wait, TimerKey.signal, Signal.kind]

@[simp] theorem Envelope.content_timeout {α β : Type} (content : α) (cause : Envelope β) :
    (timeout content cause).content = content := by
  have copied : ∀ (names : List String) (e : Envelope α),
      (e.copyHeaders cause names).content = e.content := by
    intro names
    induction names with
    | nil => exact fun e => rfl
    | cons name names ih =>
        intro e
        rw [copyHeaders, List.foldl_cons]
        refine (ih _).trans ?_
        split <;> rfl
  exact copied _ _

namespace Detector

variable {d : Detector} {p : InstanceId} {k : TimerKey} {cause : Envelope Signal}
  {timing : HeartbeatTiming}

theorem mem_peers : p ∈ d.cluster.peers ↔ p ∈ d.cluster.members ∧ p ≠ d.me := by
  simp [Cluster.peers, me]

/-- The timers once both timers of a peer have been armed. -/
def armBoth (t : HeartbeatTimers) (p : InstanceId) (cause : Envelope Signal) : HeartbeatTimers :=
  (t.set (.receive p) (.timeout (TimerKey.receive p).signal cause)).set (.send p)
    (.timeout (TimerKey.send p).signal cause)

theorem deadline?_armBoth {t : HeartbeatTimers} (delay : t.delay = timing.delay) :
    (armBoth t p cause).deadline? k =
      if k.peer = p then some (LogicalTimers.deadlineAfter t.now (timing.wait k))
      else t.deadline? k := by
  have waits (l : TimerKey) : t.delay.of (Envelope.timeout l.signal cause) = timing.wait l :=
    delay ▸ timing.delay_of (Envelope.content_timeout _ _)
  have same : (t.set (.receive p) (.timeout (TimerKey.receive p).signal cause)).delay = t.delay ∧
      (t.set (.receive p) (.timeout (TimerKey.receive p).signal cause)).now = t.now := ⟨rfl, rfl⟩
  rw [armBoth, LogicalTimers.deadline?_set, LogicalTimers.deadline?_set, same.1, same.2, waits,
    waits]
  cases k with
  | receive q | send q =>
      by_cases hq : q = p
      · simp [TimerKey.peer, hq]
      · simp [TimerKey.peer, hq]

theorem timers_armTimers (d : Detector) (cause : Envelope Signal) :
    (d.armTimers cause).timers = d.cluster.peers.foldl (armBoth · · cause) d.timers := by
  unfold armTimers
  generalize d.cluster.peers = l
  induction l generalizing d with
  | nil => rfl
  | cons p l ih => exact ih _

theorem distinct_armTimers (h : d.timers.Distinct) : (d.armTimers cause).timers.Distinct := by
  rw [timers_armTimers]
  generalize d.cluster.peers = l, d.timers = t at h
  induction l generalizing t with
  | nil => exact h
  | cons p l ih => exact ih _ ((h.set _ _).set _ _)

theorem clock_armTimers (d : Detector) (cause : Envelope Signal) :
    (d.armTimers cause).timers.now = d.timers.now ∧
      (d.armTimers cause).timers.delay = d.timers.delay := by
  rw [timers_armTimers]
  generalize d.cluster.peers = l, d.timers = t
  induction l generalizing t with
  | nil => exact ⟨rfl, rfl⟩
  | cons p l ih => exact ih _

theorem clock_disarmTimers (d : Detector) :
    d.disarmTimers.timers.now = d.timers.now ∧
      d.disarmTimers.timers.delay = d.timers.delay := by
  unfold disarmTimers
  generalize d.cluster.peers = l
  induction l generalizing d with
  | nil => exact ⟨rfl, rfl⟩
  | cons p l ih => exact ih (d.cancelTimers p)

/-- What is pending once the timers are armed was pending before, or is the timer of a peer and
belongs to the conversation of the cause. -/
theorem timeout_of_mem_armTimers {a : Armed TimerKey (Envelope Signal)}
    (h : a ∈ (d.armTimers cause).timers.pending) :
    a ∈ d.timers.pending ∨
      a.message = .timeout a.key.signal cause ∧ a.key.peer ∈ d.cluster.peers := by
  rw [timers_armTimers] at h
  generalize d.cluster.peers = l, d.timers = t at h ⊢
  induction l generalizing t with
  | nil => exact .inl h
  | cons p l ih =>
      rcases ih _ h with h | ⟨message, peer⟩
      · rcases LogicalTimers.mem_pending_set h with h | rfl
        · rcases LogicalTimers.mem_pending_set h with h | rfl
          · exact .inl h
          · exact .inr ⟨rfl, List.mem_cons_self ..⟩
        · exact .inr ⟨rfl, List.mem_cons_self ..⟩
      · exact .inr ⟨message, List.mem_cons_of_mem p peer⟩

theorem mem_pending_armTimers {a : Armed TimerKey (Envelope Signal)}
    (h : a ∈ (d.armTimers cause).timers.pending) :
    a ∈ d.timers.pending ∨ a.message.content = a.key.signal ∧ a.key.peer ∈ d.cluster.peers :=
  (timeout_of_mem_armTimers h).imp_right fun ⟨message, peer⟩ =>
    ⟨message ▸ Envelope.content_timeout _ _, peer⟩

/-- Both timers of every peer run from now. -/
theorem deadline?_armTimers (delay : d.timers.delay = timing.delay) :
    (d.armTimers cause).timers.deadline? k =
      if k.peer ∈ d.cluster.peers then
        some (LogicalTimers.deadlineAfter d.timers.now (timing.wait k))
      else d.timers.deadline? k := by
  rw [timers_armTimers]
  generalize d.cluster.peers = l, d.timers = t at delay
  induction l generalizing t with
  | nil => rfl
  | cons p l ih =>
      rw [List.foldl_cons, ih (armBoth t p cause) delay, deadline?_armBoth delay]
      have now : (armBoth t p cause).now = t.now := rfl
      by_cases later : k.peer ∈ l
      · rw [if_pos later, if_pos (List.mem_cons_of_mem p later), now]
      · simp [later]

theorem mem_pending_cancelTimers {a : Armed TimerKey (Envelope Signal)} :
    a ∈ (d.cancelTimers p).timers.pending ↔ a ∈ d.timers.pending ∧ a.key.peer ≠ p := by
  have both : a.key.peer ≠ p ↔ a.key ≠ .receive p ∧ a.key ≠ .send p := by
    cases a.key <;> simp [TimerKey.peer]
  rw [both]
  simp [cancelTimers, LogicalTimers.without, and_comm]

theorem mem_pending_disarmTimers {a : Armed TimerKey (Envelope Signal)} :
    a ∈ d.disarmTimers.timers.pending ↔
      a ∈ d.timers.pending ∧ a.key.peer ∉ d.cluster.peers := by
  unfold disarmTimers
  generalize d.cluster.peers = l
  induction l generalizing d with
  | nil => simp
  | cons p l ih =>
      rw [List.foldl_cons, ih, mem_pending_cancelTimers, List.mem_cons, not_or, and_assoc]

end Detector
end Vigil
