import Vigil.InstanceId.Json
import Vigil.Scenario.Fields

/-!
Scenarios in JSON: an object with the members of a scenario, or an array of the members in order, of
which the last ones may be left out. Events are objects or arrays of their three members.
-/

namespace Vigil

namespace Action

/-- An action is its name, or an object with its name and nothing. -/
def ofJson? : Json → Option Action
  | .string name => ofName? name
  | .object [(name, .null)] => ofName? name
  | _ => none

end Action

namespace ScheduledEvent

def ofJson? : Json → Option ScheduledEvent
  | .object members => do
    let time ← (Json.find "at_ms" members).bind (Json.nat? Text.limit64)
    let subject ← (Json.find "instance" members).bind (Json.nat? Text.limit32)
    let action ← (Json.find "action" members).bind Action.ofJson?
    return ⟨time, .ofNat subject, action⟩
  | .array [time, subject, action] => do
    return ⟨← time.nat? Text.limit64, .ofNat (← subject.nat? Text.limit32), ← Action.ofJson? action⟩
  | _ => none

def toJson (e : ScheduledEvent) : Json :=
  .object [("at_ms", .ofNat e.time), ("instance", .ofNat e.subject.toNat),
    ("action", .string e.action.name)]

end ScheduledEvent

namespace ScenarioFields

/-- The names of the members in their order. -/
def names : List String :=
  ["members", "heartbeat_interval_ms", "heartbeat_timeout_ms", "step_ms", "duration_ms", "seed",
    "drop_probability", "events"]

/-- Read a member with `read`, if it is there. -/
def member? {α : Type} (read : Json → Option α) (name : String) (members : List (String × Json)) :
    Option (Option α) :=
  match Json.find name members with
  | some j => (read j).map some
  | none => some none

def numbers? (j : Json) : Option (List Nat) := j.array?.bind (·.mapM (Json.nat? Text.limit32))

def events? (j : Json) : Option (List ScheduledEvent) :=
  j.array?.bind (·.mapM ScheduledEvent.ofJson?)

def ofMembers? (members : List (String × Json)) : Option ScenarioFields := do
  let number (name : String) := member? (Json.nat? Text.limit64) name members
  return {
    members := ← member? numbers? "members" members
    heartbeatInterval := ← number "heartbeat_interval_ms"
    heartbeatTimeout := ← number "heartbeat_timeout_ms"
    step := ← number "step_ms"
    duration := ← number "duration_ms"
    seed := ← number "seed"
    dropProbability := ← member? Json.float? "drop_probability" members
    events := ← member? events? "events" members }

end ScenarioFields

namespace Scenario

def ofJson? : Json → Option Scenario
  | .object members => (ScenarioFields.ofMembers? members).map ScenarioFields.scenario
  | .array items =>
    if items.length ≤ ScenarioFields.names.length then
      (ScenarioFields.ofMembers? (ScenarioFields.names.zip items)).map ScenarioFields.scenario
    else none
  | _ => none

def toJson (s : Scenario) : Json :=
  .object [
    ("members", .array (s.members.map fun id => .ofNat id.toNat)),
    ("heartbeat_interval_ms", .ofNat s.heartbeatInterval),
    ("heartbeat_timeout_ms", .ofNat s.heartbeatTimeout),
    ("step_ms", .ofNat s.step),
    ("duration_ms", .ofNat s.duration),
    ("seed", .ofNat s.seed.toNat),
    ("drop_probability", .float s.dropProbability),
    ("events", .array (s.events.map ScheduledEvent.toJson))]

end Scenario

end Vigil
