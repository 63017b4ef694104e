import Vigil.Timers.Delay

/-!
The two times of the heartbeat protocol, and the delays of the timers that keep them.
-/

namespace Vigil

/-- How often to send heartbeats, and how long to wait for one. -/
structure HeartbeatTiming where
  interval : Duration
  timeout : Duration
  deriving DecidableEq, Repr

namespace HeartbeatTiming

def defaultIntervalMs : Nat := 5000

def defaultTimeoutMs : Nat := 11000

def ofMillis (interval timeout : Nat) : HeartbeatTiming :=
  ⟨.ofMillis interval, .ofMillis timeout⟩

/-- The timer for the next heartbeat to send waits for the interval, any other for the timeout. -/
def delay (t : HeartbeatTiming) : Delay :=
  .perKind t.timeout
    ((SortedMap.insert "timed_out" t.timeout ∅).insert "send_heartbeat" t.interval)

end HeartbeatTiming

end Vigil
