import Vigil.Participant
import Vigil.Simulation
import Vigil.InstanceId.Json

/-!
What comes out of a simulation, as a value, as JSON and as lines of text.
-/

namespace Vigil

structure Report where
  duration : Nat
  members : List InstanceId
  transitions : List Observation
  /-- What each running instance takes for failed. -/
  failed : SortedMap InstanceId InstanceSet
  network : NetworkStats
  deriving DecidableEq, Repr

def Simulation.report {γ : Type} (s : Simulation γ) : Report where
  duration := s.now
  members := s.members
  transitions := s.log
  failed := s.nodes.mapValues fun _ node => node.failed
  network := s.network.stats

/-- Run a scenario with the draws of its seed. -/
def Scenario.simulate (s : Scenario) : Except ScenarioError Report :=
  s.validate.map fun s => (Simulation.start (CipherDraws.ofSeed s.seed) s).run.report

def NetworkStats.toJson (n : NetworkStats) : Json :=
  .object [("sent", .ofNat n.sent), ("delivered", .ofNat n.delivered), ("lost", .ofNat n.lost),
    ("unreachable", .ofNat n.unreachable)]

def Observation.toJson (o : Observation) : Json :=
  .object [("time_ms", .ofNat o.time), ("observer", o.observer.toJson),
    ("subject", o.transition.subject.toJson), ("kind", .string o.transition.kind.name)]

namespace Report

/-- How often `observer` saw `subject` become failed, or alive. -/
def count (r : Report) (observer subject : InstanceId) (kind : TransitionKind) : Nat :=
  r.transitions.countP fun o =>
    o.observer == observer && o.transition.subject == subject && o.transition.kind == kind

def seenBy (r : Report) (observer : InstanceId) : List Observation :=
  r.transitions.filter fun o => o.observer == observer

def toJson (r : Report) : Json :=
  .object [
    ("duration_ms", .ofNat r.duration),
    ("members", .array (r.members.map InstanceId.toJson)),
    ("transitions", .array (r.transitions.map Observation.toJson)),
    ("failed", .object (r.failed.toList.map fun e => (e.1.text, InstanceSet.toJson e.2))),
    ("network", r.network.toJson)]

/-- Blanks in front of a text, up to a width. -/
def padLeft (width : Nat) (text : String) : String :=
  String.ofList (List.replicate (width - text.length) ' ') ++ text

def observationLine (o : Observation) : String :=
  "  " ++ padLeft 8 (toString o.time) ++ "ms  " ++ o.observer.text ++ " sees " ++
    o.transition.subject.text ++ " " ++ o.transition.kind.name

def failedLine (observer : InstanceId) (failed : InstanceSet) : String :=
  "  final: " ++ observer.text ++ " failed = [" ++
    ", ".intercalate (failed.toList.map InstanceId.text) ++ "]"

/-- The report as lines, without a line end after the last one. -/
def text (r : Report) : String :=
  "\n".intercalate (
    ["Simulated " ++ toString r.duration ++ "ms with " ++ toString r.members.length ++ " member(s)"]
    ++ r.transitions.map observationLine
    ++ r.failed.toList.map (fun e => failedLine e.1 e.2)
    ++ ["  messages: " ++ toString r.network.sent ++ " sent, " ++ toString r.network.delivered ++
      " delivered, " ++ toString r.network.lost ++ " lost, " ++ toString r.network.unreachable ++
      " unreachable"])

end Report

end Vigil
