import Vigil.Scenario.Fields
import Vigil.Yaml.Number

/-!
Scenarios in YAML: a mapping with the members of a scenario. Entries with other keys do not matter,
and a key may be given once. A text without a document is a scenario of defaults.
-/

namespace Vigil

open Yaml (Reading)

/-- Read the value of a member that has none yet. -/
def once {α : Type} (old : Option α) (read : Reading α) : Reading (Option α) :=
  if old.isSome then failure else some <$> read

namespace EventFields

def readYaml (d : Yaml.Document) (f : EventFields) :
    List (Yaml.Node × Yaml.Node) → Reading EventFields
  | [] => pure f
  | (key, value) :: entries => do
    let f ←
      match ← d.text key with
      | "at_ms" => do
        let time ← once f.time (d.nat Text.limit64 value)
        pure { f with time }
      | "instance" => do
        let subject ← once f.subject (d.nat Text.limit32 value)
        pure { f with subject }
      | "action" => do
        let action ← once f.action do StateT.lift (Action.ofName? (← d.name value))
        pure { f with action }
      | _ => pure f
    readYaml d f entries

end EventFields

def ScheduledEvent.readYaml (d : Yaml.Document) (node : Yaml.Node) : Reading ScheduledEvent := do
  StateT.lift (← EventFields.unread.readYaml d (← d.entries node)).event?

namespace ScenarioFields

def readYaml (d : Yaml.Document) (f : ScenarioFields) :
    List (Yaml.Node × Yaml.Node) → Reading ScenarioFields
  | [] => pure f
  | (key, value) :: entries => do
    let number (old : Option Nat) := once old (d.nat Text.limit64 value)
    let f ←
      match ← d.text key with
      | "members" => do
        let members ← once f.members (d.items (d.nat Text.limit32) value)
        pure { f with members }
      | "heartbeat_interval_ms" => do
        let heartbeatInterval ← number f.heartbeatInterval
        pure { f with heartbeatInterval }
      | "heartbeat_timeout_ms" => do
        let heartbeatTimeout ← number f.heartbeatTimeout
        pure { f with heartbeatTimeout }
      | "step_ms" => do
        let step ← number f.step
        pure { f with step }
      | "duration_ms" => do
        let duration ← number f.duration
        pure { f with duration }
      | "seed" => do
        let seed ← number f.seed
        pure { f with seed }
      | "drop_probability" => do
        let dropProbability ← once f.dropProbability (d.float value)
        pure { f with dropProbability }
      | "events" => do
        let events ← once f.events (d.items (ScheduledEvent.readYaml d) value)
        pure { f with events }
      | _ => pure f
    readYaml d f entries

end ScenarioFields

namespace Scenario

def ofDocument? (d : Yaml.Document) : Option Scenario :=
  d.read? do
    let f ← ScenarioFields.unread.readYaml d (← d.entries d.root)
    pure f.scenario

/-- Read a scenario; whether it can be simulated is another question. -/
def ofYaml? (text : String) : Option Scenario :=
  match Yaml.Node.parse? text with
  | none => none
  | some none => some standard
  | some (some node) => ofDocument? (.ofRoot node)

end Scenario

/-- Why a text does not give a scenario. -/
inductive ScenarioTextError where
  | unreadable
  | invalid (e : ScenarioError)

def ScenarioTextError.message : ScenarioTextError → String
  | unreadable => "Failed to parse simulation config"
  | invalid e => e.message

/-- Read a scenario that can be simulated. -/
def Scenario.parse (text : String) : Except ScenarioTextError Scenario :=
  match Scenario.ofYaml? text with
  | none => .error .unreadable
  | some s => s.validate.mapError .invalid

end Vigil
