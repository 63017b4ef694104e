import Vigil.Detector

/-!
The operations on a detector as data, so that a history of a detector is a list.
-/

namespace Vigil

inductive DetectorOperation where
  | forgetFailures
  | heardFrom (id : InstanceId)
  | suspect (id : InstanceId)
  | receiveReport (reporter : InstanceId) (suspects : InstanceSet)
  | depart (id : InstanceId)
  | syncMembers
  | checkMembers
  | takePending
  | armTimers (cause : Envelope Signal)
  | disarmTimers
  | setTimer (key : TimerKey) (message : Envelope Signal)
  | cancelTimer (key : TimerKey)
  | changeCluster (change : ClusterChange)
  deriving DecidableEq, Repr

/-- What an operation answers. -/
inductive DetectorAnswer where
  | nothing
  | truth (b : Bool)
  | transitions (l : List Transition)
  | cluster (a : ClusterAnswer)
  deriving DecidableEq, Repr

namespace Detector

def perform (d : Detector) : DetectorOperation → Detector × DetectorAnswer
  | .forgetFailures => (d.forgetFailures, .nothing)
  | .heardFrom id => let (d, b) := d.heardFrom id; (d, .truth b)
  | .suspect id => (d.suspect id, .nothing)
  | .receiveReport reporter suspects => (d.receiveReport reporter suspects, .nothing)
  | .depart id => (d.depart id, .nothing)
  | .syncMembers => (d.syncMembers, .nothing)
  | .checkMembers => let (d, b) := d.checkMembers; (d, .truth b)
  | .takePending => let (d, l) := d.takePending; (d, .transitions l)
  | .armTimers cause => (d.armTimers cause, .nothing)
  | .disarmTimers => (d.disarmTimers, .nothing)
  | .setTimer key message => (d.setTimer key message, .nothing)
  | .cancelTimer key => (d.cancelTimer key, .nothing)
  | .changeCluster change => let (d, a) := d.changeCluster change; (d, .cluster a)

end Detector

end Vigil
