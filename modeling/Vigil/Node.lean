import Vigil.Machine
import Vigil.Mailbox
import Vigil.Timing

/-!
One running instance: its machine, and the messages that wait to be handled and to be carried
away. Expired timers and messages from others wait in the same mailbox.
-/

namespace Vigil

structure Node where
  machine : Machine
  inbox : Mailbox (Envelope Signal)
  outbox : Mailbox (Envelope Signal)
  deriving DecidableEq, Repr

/-- What handling messages brings about on a node, apart from what it sends. -/
structure NodeOutcome where
  node : Node
  /-- How many messages were handled. -/
  handled : Nat
  transitions : List Transition
  warnings : List Warning
  deriving DecidableEq, Repr

namespace Node

/-- A node whose clock starts at `now`. -/
def start (id : InstanceId) (members : List InstanceId) (timing : HeartbeatTiming) (now : Nat) :
    Node :=
  let timers : HeartbeatTimers := .start timing.delay
  ⟨.start (.start (.ofMembers id members) { timers with now }), ∅, ∅⟩

def detector (n : Node) : Detector := n.machine.detector

def id (n : Node) : InstanceId := n.machine.me

def phase (n : Node) : Phase := n.machine.phase

def failed (n : Node) : InstanceSet := n.detector.failed

/-- The instances that this one suspects. -/
def suspects (n : Node) : InstanceSet := n.detector.reportOf n.id

def timerCount (n : Node) : Nat := n.detector.timers.count

def handle (n : Node) (e : Envelope Signal) : NodeOutcome :=
  let (machine, o) := n.machine.handle Outlet.taking e
  let outbox := ⟨n.outbox.toList ++ o.handed.map Handed.envelope⟩
  ⟨{ n with machine, outbox }, 1, o.transitions, o.warnings⟩

def handleAll (n : Node) : List (Envelope Signal) → NodeOutcome
  | [] => ⟨n, 0, [], []⟩
  | e :: es =>
    let o := n.handle e
    let o' := o.node.handleAll es
    ⟨o'.node, o.handled + o'.handled, o.transitions ++ o'.transitions, o.warnings ++ o'.warnings⟩

/-- Handle all messages in the inbox; handling a message puts none into it. -/
def pump (n : Node) : NodeOutcome := { n with inbox := ∅ }.handleAll n.inbox.toList

def join (n : Node) : NodeOutcome := n.handle (.internal .join)

def leave (n : Node) : NodeOutcome := n.handle (.internal .leave)

/-- A member has left the cluster for good. The answer tells whether it was a member. -/
def forget (n : Node) (id : InstanceId) : NodeOutcome × Bool :=
  let (cluster, left) := n.detector.cluster.leave id
  let n := { n with machine.detector.cluster := cluster }
  if left then
    let (machine, _, ts) := n.machine.withDetector fun d => (d.depart id, ())
    (⟨{ n with machine }, 0, ts, []⟩, true)
  else (⟨n, 0, [], []⟩, false)

/-- Move the clock. Messages of expired timers wait in the inbox. -/
def tick (n : Node) (time : Nat) : Node :=
  let (machine, due) := n.machine.expire time
  { n with machine, inbox := ⟨n.inbox.toList ++ due⟩ }

def receive (n : Node) (e : Envelope Signal) : Node := { n with inbox := n.inbox.push e }

/-- All messages to be carried away. -/
def takeOutbox (n : Node) : Node × List (Envelope Signal) :=
  ({ n with outbox := ∅ }, n.outbox.toList)

end Node

end Vigil
