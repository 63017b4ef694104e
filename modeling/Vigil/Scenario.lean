import Vigil.Decimal.Positional
import Vigil.InstanceId
import Vigil.Timing

/-!
Scenarios of simulated clusters: who takes part, how time is cut into steps, how much is lost, and
what happens to instances when.
-/

namespace Vigil

inductive Action where
  /-- Stop; whatever is sent to the instance is in vain. -/
  | crash
  /-- Start again with nothing kept, and join. -/
  | restart
  /-- Leave the cluster for good. -/
  | leave
  deriving DecidableEq, Repr

namespace Action

def name : Action → String
  | crash => "crash"
  | restart => "restart"
  | leave => "leave"

def ofName? : String → Option Action
  | "crash" => some crash
  | "restart" => some restart
  | "leave" => some leave
  | _ => none

end Action

/-- What happens to one instance at one time, in milliseconds. -/
structure ScheduledEvent where
  time : Nat
  subject : InstanceId
  action : Action
  deriving DecidableEq, Repr

/-- Why a text is no scheduled crash. -/
inductive BadEvent where
  | noSeparator (text : String)
  | badInstance (text : String)
  | badTime (text : String)
  deriving DecidableEq, Repr

def BadEvent.message : BadEvent → String
  | noSeparator text => "Expected INSTANCE@MS, got " ++ Text.quote text
  | badInstance text => "Invalid instance in " ++ Text.quote text
  | badTime text => "Invalid time in " ++ Text.quote text

/-- Split a text at the first occurrence of a character. -/
def splitAtFirst? (c : Char) : List Char → Option (List Char × List Char)
  | [] => none
  | d :: ds =>
    if d = c then some ([], ds)
    else (splitAtFirst? c ds).map fun (before, after) => (d :: before, after)

/-- Read a crash written as instance and time around an at sign; white space around either does
not matter. -/
def ScheduledEvent.parse (text : String) : Except BadEvent ScheduledEvent :=
  match splitAtFirst? '@' text.toList with
  | none => .error (.noSeparator text)
  | some (before, after) =>
    match Text.numeral? Text.limit32 (Text.trim before) with
    | none => .error (.badInstance text)
    | some subject =>
      match Text.numeral? Text.limit64 (Text.trim after) with
      | none => .error (.badTime text)
      | some time => .ok ⟨time, .ofNat subject, .crash⟩

/-- Times are in milliseconds. -/
structure Scenario where
  members : List InstanceId
  heartbeatInterval : Nat
  heartbeatTimeout : Nat
  step : Nat
  duration : Nat
  seed : UInt64
  /-- How likely a message is lost. -/
  dropProbability : Float
  events : List ScheduledEvent

/-- Why a scenario cannot be simulated. -/
inductive ScenarioError where
  | noMembers
  | noStep
  | badProbability (p : Float)
  | unknownInstance (e : ScheduledEvent)

def ScenarioError.message : ScenarioError → String
  | noMembers => "At least one member is required"
  | noStep => "step_ms must be positive"
  | badProbability p => "drop_probability must be between 0 and 1, got " ++ Decimal.positional p
  | unknownInstance e =>
    "Event " ++ e.action.name ++ " at " ++ toString e.time ++ "ms names unknown instance " ++
      e.subject.text

namespace Scenario

/-- Three members for a minute, without loss and without events. -/
def standard : Scenario where
  members := [1, 2, 3]
  heartbeatInterval := HeartbeatTiming.defaultIntervalMs
  heartbeatTimeout := HeartbeatTiming.defaultTimeoutMs
  step := 100
  duration := 60000
  seed := 0
  dropProbability := 0.0
  events := []

instance : Inhabited Scenario := ⟨standard⟩

def timing (s : Scenario) : HeartbeatTiming :=
  .ofMillis s.heartbeatInterval s.heartbeatTimeout

/-- The first thing that is wrong with a scenario. -/
def error? (s : Scenario) : Option ScenarioError :=
  if s.members.isEmpty then some .noMembers
  else if s.step = 0 then some .noStep
  else if !(0.0 ≤ s.dropProbability && s.dropProbability ≤ 1.0) then
    some (.badProbability s.dropProbability)
  else (s.events.find? fun e => !s.members.contains e.subject).map .unknownInstance

def validate (s : Scenario) : Except ScenarioError Scenario :=
  match s.error? with
  | some e => .error e
  | none => .ok s

end Scenario

end Vigil
