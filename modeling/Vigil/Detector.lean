import Vigil.Cluster
import Vigil.Signal
import Vigil.Timers.Logical

/-!
The failure detector of one instance. Every instance reports which others it suspects, and a new
report of an instance takes the place of its last one. An instance is failed by quorum when the
reporters that suspect it are more than half as many as the members. The set of failed instances
is kept up to date report by report, and every change of it is queued as a transition.
-/

namespace Vigil

/-- A change of the set of failed instances. -/
inductive Transition where
  | failed (id : InstanceId)
  | alive (id : InstanceId)
  deriving DecidableEq, Repr

/-- The timers of an instance: for each peer one for the next heartbeat it should receive, and one
for the next it should send. -/
inductive TimerKey where
  | receive (peer : InstanceId)
  | send (peer : InstanceId)
  deriving DecidableEq, Repr

/-- The timers of an instance with the signals they deliver. -/
abbrev HeartbeatTimers := LogicalTimers TimerKey (Envelope Signal)

structure Detector where
  cluster : Cluster
  timers : HeartbeatTimers
  /-- The last report of each reporter. -/
  reports : SortedMap InstanceId InstanceSet
  failed : InstanceSet
  /-- The members for which `failed` was last worked out. -/
  known : List InstanceId
  /-- Transitions that nobody has taken yet, oldest first. -/
  pending : List Transition
  deriving DecidableEq, Repr

namespace Detector

def start (cluster : Cluster) (timers : HeartbeatTimers) : Detector :=
  ⟨cluster, timers, ∅, ∅, cluster.members, []⟩

def me (d : Detector) : InstanceId := d.cluster.me

def isMe (d : Detector) (id : InstanceId) : Bool := d.cluster.isMe id

def isMember (d : Detector) (id : InstanceId) : Bool := d.cluster.isMember id

/-- What `reporter` suspects. -/
def reportOf (d : Detector) (reporter : InstanceId) : InstanceSet :=
  (d.reports.get? reporter).getD ∅

/-- How many reporters suspect `id`. -/
def votes (d : Detector) (id : InstanceId) : Nat :=
  d.reports.toList.countP fun r => decide (id ∈ r.2)

/-- The reporters that suspect `id`. -/
def accusers (d : Detector) (id : InstanceId) : InstanceSet :=
  d.reports.keys.filter fun r => decide (id ∈ d.reportOf r)

/-- Failed by quorum: suspected by more than half as many reporters as there are members. -/
def isFailed (d : Detector) (id : InstanceId) : Bool :=
  decide (d.cluster.members.length / 2 < d.votes id)

/-- The members that are not failed by quorum. -/
def aliveMembers (d : Detector) : List InstanceId :=
  d.cluster.members.filter fun id => !d.isFailed id

/-- All instances in any report. -/
def suspected (d : Detector) : InstanceSet :=
  d.reports.values.foldl SortedSet.union ∅

/-- Set down that `id` has failed, if it is so and was not set down before. -/
def markFailed (d : Detector) (id : InstanceId) : Detector :=
  if d.isFailed id ∧ id ∉ d.failed then
    { d with failed := d.failed.insert id, pending := d.pending ++ [.failed id] }
  else d

/-- Set down that `id` is alive, if it was failed and is so no more. -/
def clearFailed (d : Detector) (id : InstanceId) : Detector :=
  if id ∈ d.failed ∧ d.isFailed id = false then
    { d with failed := d.failed.erase id, pending := d.pending ++ [.alive id] }
  else d

/-- Work out anew who has failed: first who is alive again, then who has failed, each in
increasing order. -/
def reconcile (d : Detector) : Detector :=
  d.suspected.toList.foldl markFailed (d.failed.toList.foldl clearFailed d)

/-- Follow a change of the members. -/
def syncMembers (d : Detector) : Detector :=
  { d with known := d.cluster.members }.reconcile

/-- Follow the members if they have changed; the answer tells whether they have. -/
def checkMembers (d : Detector) : Detector × Bool :=
  if d.cluster.members = d.known then (d, false) else (d.syncMembers, true)

/-- Forget who has failed, without a transition. -/
def forgetFailures (d : Detector) : Detector := { d with failed := ∅ }

/-- Put a report in the place of the reporter's last one. -/
def setReport (d : Detector) (reporter : InstanceId) (suspects : InstanceSet) : Detector :=
  { d with reports := d.reports.insert reporter suspects }

/-- A heartbeat of `id` came. The answer tells whether this instance suspected it. -/
def heardFrom (d : Detector) (id : InstanceId) : Detector × Bool :=
  let own := d.reportOf d.me
  let suspected := decide (id ∈ own)
  let d := if suspected then d.setReport d.me (own.erase id) else d
  (d.clearFailed id, suspected)

/-- Nothing was heard from `id`. An instance does not suspect itself. -/
def suspect (d : Detector) (id : InstanceId) : Detector :=
  if id = d.me then d
  else (d.setReport d.me ((d.reportOf d.me).insert id)).markFailed id

/-- A report of `reporter` came. This instance takes no notice of suspicions of itself. -/
def receiveReport (d : Detector) (reporter : InstanceId) (suspects : InstanceSet) : Detector :=
  let previous := d.reportOf reporter
  let suspects := suspects.erase d.me
  let d := d.setReport reporter suspects
  (previous.diff suspects).toList.foldl clearFailed (suspects.toList.foldl markFailed d)

/-- Cancel both timers of a peer. -/
def cancelTimers (d : Detector) (peer : InstanceId) : Detector :=
  { d with timers := (d.timers.without (.receive peer)).without (.send peer) }

/-- An instance has left for good: forget its report and all suspicions of it. -/
def depart (d : Detector) (id : InstanceId) : Detector :=
  let reports := (d.reports.erase id).mapValues fun _ suspects => suspects.erase id
  ({ d with failed := d.failed.erase id, reports }.cancelTimers id).syncMembers

/-- Hand out the queued transitions. -/
def takePending (d : Detector) : Detector × List Transition :=
  ({ d with pending := [] }, d.pending)

def setTimer (d : Detector) (key : TimerKey) (message : Envelope Signal) : Detector :=
  { d with timers := d.timers.set key message }

def cancelTimer (d : Detector) (key : TimerKey) : Detector :=
  { d with timers := d.timers.without key }

/-- Arm the timer for the next heartbeat of `peer`, in the conversation of `cause`. -/
def expectHeartbeat (d : Detector) (peer : InstanceId) (cause : Envelope Signal) : Detector :=
  d.setTimer (.receive peer) (.timeout (.timedOut peer) cause)

/-- Arm the timer for the next heartbeat to `peer`, in the conversation of `cause`. -/
def scheduleHeartbeat (d : Detector) (peer : InstanceId) (cause : Envelope Signal) : Detector :=
  d.setTimer (.send peer) (.timeout (.sendHeartbeat peer) cause)

/-- Arm both timers of every peer. -/
def armTimers (d : Detector) (cause : Envelope Signal) : Detector :=
  d.cluster.peers.foldl
    (fun d peer => (d.expectHeartbeat peer cause).scheduleHeartbeat peer cause) d

/-- Cancel both timers of every peer. -/
def disarmTimers (d : Detector) : Detector := d.cluster.peers.foldl cancelTimers d

def changeCluster (d : Detector) (change : ClusterChange) : Detector × ClusterAnswer :=
  let (cluster, answer) := d.cluster.apply change
  ({ d with cluster }, answer)

/-- Whether no member in front of `me` suspects the coordinator, going through the members. -/
def firstInLine (d : Detector) (coordinator : InstanceId) : List InstanceId → Bool
  | [] => false
  | m :: ms =>
    if m = d.me then true
    else if m = coordinator then firstInLine d coordinator ms
    else if coordinator ∈ d.reportOf m then false
    else firstInLine d coordinator ms

/-- Whether this instance should take over from the coordinator: the coordinator has failed, and
this instance is the next in line among the members. -/
def shouldPromote (d : Detector) : Bool :=
  match d.cluster.coordinator? with
  | none => false
  | some c =>
    if c = d.me ∨ d.isFailed c = false then false
    else d.firstInLine c d.cluster.members

end Detector

end Vigil
