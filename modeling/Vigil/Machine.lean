import Vigil.Detector

/-!
The protocol of one instance. A machine handles one signal at a time and answers with what it sends
and with the transitions of its detector. Until it joins, and after it has left, it takes no
notice of anything but the next join.
-/

namespace Vigil

inductive Phase where
  /-- Not taking part. -/
  | start
  /-- Exchanging heartbeats with every peer. -/
  | heartbeat
  deriving DecidableEq, Repr

def Phase.name : Phase → String
  | start => "start"
  | heartbeat => "heartbeat"

/-- A signal for another instance. -/
structure Letter where
  recipient : InstanceId
  signal : Signal
  deriving DecidableEq, Repr

structure Machine where
  phase : Phase
  detector : Detector
  /-- How many letters were sent. -/
  sentCount : Nat
  deriving DecidableEq, Repr

/-- An envelope handed to the outlet, and the outlet's refusal if it does not take it. -/
structure Handed where
  envelope : Envelope Signal
  refusal : Option Refusal
  deriving DecidableEq, Repr

/-- What handling a signal brings about. -/
structure Outcome where
  handed : List Handed
  warnings : List Warning
  transitions : List Transition
  deriving DecidableEq, Repr

/-- What one signal does to phase and detector, what it makes the instance send, and what is
wrong with it. -/
structure Response where
  phase : Phase
  detector : Detector
  letters : List Letter
  warnings : List Warning
  deriving DecidableEq, Repr

/-- The sender that an envelope names, or the warnings about it. -/
def Envelope.sender {α : Type} (e : Envelope α) : Except (List Warning) InstanceId :=
  match e.header? Header.sender with
  | none => .error [.senderMissing, .suspicionsDropped]
  | some s =>
    match InstanceId.parse s with
    | .ok id => .ok id
    | .error bad => .error [.senderMalformed bad, .suspicionsDropped]

namespace Detector

/-- This instance's report for every other member that is not failed by quorum. -/
def reportLetters (d : Detector) : List Letter :=
  (d.aliveMembers.filter (· != d.me)).map fun peer => ⟨peer, .suspicions (d.reportOf d.me)⟩

/-- The response to a signal before joining. -/
def respondAtStart (d : Detector) (e : Envelope Signal) : Response :=
  match e.content with
  | .join => ⟨.heartbeat, d.forgetFailures.armTimers e, [], []⟩
  | _ => ⟨.start, d, [], []⟩

/-- The response to a signal while exchanging heartbeats. -/
def respondInHeartbeat (d : Detector) (e : Envelope Signal) : Response :=
  match e.content with
  | .join => ⟨.heartbeat, d, [], []⟩
  | .leave => ⟨.start, d.disarmTimers, [], []⟩
  | .iAmAlive server =>
    if d.isMe server || !d.isMember server then ⟨.heartbeat, d, [], []⟩
    else
      let (d, wasSuspected) := d.heardFrom server
      ⟨.heartbeat, d.expectHeartbeat server e, if wasSuspected then d.reportLetters else [], []⟩
  | .timedOut server =>
    if d.isMember server then
      let d := (d.suspect server).expectHeartbeat server e
      ⟨.heartbeat, d, d.reportLetters, []⟩
    else ⟨.heartbeat, d.depart server, [], []⟩
  | .sendHeartbeat server =>
    if d.isMe server || !d.isMember server then ⟨.heartbeat, d, [], []⟩
    else ⟨.heartbeat, d.scheduleHeartbeat server e, [⟨server, .iAmAlive d.me⟩], []⟩
  | .resetSendHeartbeat server =>
    if d.isMe server then ⟨.heartbeat, d, [], []⟩
    else ⟨.heartbeat, (d.cancelTimer (.send server)).scheduleHeartbeat server e, [], []⟩
  | .suspicions suspects =>
    match e.sender with
    | .ok sender => ⟨.heartbeat, d.receiveReport sender suspects, [], []⟩
    | .error warnings => ⟨.heartbeat, d, [], warnings⟩

end Detector

/-- Put the `number`th letter of an instance into an envelope, which opens a conversation. -/
def Letter.seal (l : Letter) (me : InstanceId) (number : Nat) : Envelope Signal :=
  (((Envelope.sendTo l.signal l.recipient.text).setHeader Header.sender me.text).setHeader
    Header.conversation (me.text ++ "/" ++ toString number)).setHeader Header.creator me.text

/-- Whatever takes the letters of an instance: its answer to the `k`th of them. -/
abbrev Outlet := Nat → Option Refusal

namespace Outlet

def taking : Outlet := fun _ => none

def refusing (r : Refusal) : Outlet := fun _ => some r

end Outlet

namespace Machine

def start (detector : Detector) : Machine := ⟨.start, detector, 0⟩

def me (m : Machine) : InstanceId := m.detector.me

/-- Seal letters and hand them to the outlet. The first gets the number after `count`. -/
def hand (outlet : Outlet) (me : InstanceId) (count : Nat) : List Letter → List Handed
  | [] => []
  | l :: ls => ⟨l.seal me (count + 1), outlet (count + 1)⟩ :: hand outlet me (count + 1) ls

def respond (m : Machine) (e : Envelope Signal) : Response :=
  let d := m.detector.checkMembers.1
  match m.phase with
  | .start => d.respondAtStart e
  | .heartbeat => d.respondInHeartbeat e

/-- Handle one message. Letters are numbered and sent whether or not the outlet takes them. -/
def handle (outlet : Outlet) (m : Machine) (e : Envelope Signal) : Machine × Outcome :=
  let r := m.respond e
  let (detector, transitions) := r.detector.takePending
  (⟨r.phase, detector, m.sentCount + r.letters.length⟩,
    ⟨hand outlet m.me m.sentCount r.letters, r.warnings, transitions⟩)

/-- Let `f` work on the detector and take what transitions there are. -/
def withDetector {α : Type} (m : Machine) (f : Detector → Detector × α) :
    Machine × α × List Transition :=
  let (d, answer) := f m.detector
  let (detector, transitions) := d.takePending
  ({ m with detector }, answer, transitions)

/-- Move the clock; the answer lists the messages of the timers that expired, in the order in
which they fire. -/
def expire (m : Machine) (time : Nat) : Machine × List (Envelope Signal) :=
  let (timers, due) := m.detector.timers.expire time
  ({ m with detector := { m.detector with timers } }, due.map Armed.message)

end Machine

end Vigil
