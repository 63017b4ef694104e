import Vigil.Envelope
import Vigil.InstanceId

/-!
The signals of the heartbeat protocol. Heartbeats and suspicions travel between instances, joining
and leaving are announced by whoever manages the membership, and the others are what an instance's
own timers deliver.
-/

namespace Vigil

inductive Signal where
  | join
  | leave
  /-- A heartbeat of `server`. -/
  | iAmAlive (server : InstanceId)
  /-- No heartbeat of `server` came in time. -/
  | timedOut (server : InstanceId)
  /-- The next heartbeat for `server` is due. -/
  | sendHeartbeat (server : InstanceId)
  /-- Wait anew before the next heartbeat for `server`. -/
  | resetSendHeartbeat (server : InstanceId)
  /-- All instances that the sender suspects now. -/
  | suspicions (suspects : InstanceSet)
  deriving DecidableEq, Repr

namespace Signal

def kind : Signal → String
  | join => "join"
  | leave => "leave"
  | iAmAlive _ => "i_am_alive"
  | timedOut _ => "timed_out"
  | sendHeartbeat _ => "send_heartbeat"
  | resetSendHeartbeat _ => "reset_send_heartbeat"
  | suspicions _ => "suspicions"

instance : HasKind Signal where
  kind := kind

end Signal

end Vigil
