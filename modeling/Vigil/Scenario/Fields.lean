import Vigil.Scenario

/-!
The members of scenarios and events as they are read, whatever format they are read from. Every
member of a scenario has a default and every member of an event is needed.
-/

namespace Vigil

/-- The members of an event that have been read. -/
structure EventFields where
  time : Option Nat
  subject : Option Nat
  action : Option Action

namespace EventFields

/-- No member has been read yet. -/
def unread : EventFields := ⟨none, none, none⟩

def event? (f : EventFields) : Option ScheduledEvent :=
  match f.time, f.subject, f.action with
  | some time, some subject, some action => some ⟨time, .ofNat subject, action⟩
  | _, _, _ => none

end EventFields

/-- The members of a scenario that have been read. -/
structure ScenarioFields where
  members : Option (List Nat)
  heartbeatInterval : Option Nat
  heartbeatTimeout : Option Nat
  step : Option Nat
  duration : Option Nat
  seed : Option Nat
  dropProbability : Option Float
  events : Option (List ScheduledEvent)

namespace ScenarioFields

/-- No member has been read yet. -/
def unread : ScenarioFields := ⟨none, none, none, none, none, none, none, none⟩

def scenario (f : ScenarioFields) : Scenario :=
  let d := Scenario.standard
  { members := (f.members.map fun l => l.map InstanceId.ofNat).getD d.members
    heartbeatInterval := f.heartbeatInterval.getD d.heartbeatInterval
    heartbeatTimeout := f.heartbeatTimeout.getD d.heartbeatTimeout
    step := f.step.getD d.step
    duration := f.duration.getD d.duration
    seed := (f.seed.map UInt64.ofNat).getD d.seed
    dropProbability := f.dropProbability.getD d.dropProbability
    events := f.events.getD d.events }

end ScenarioFields

end Vigil
