import Vigil.Json.Reader
import Vigil.Main
import Vigil.Proofs.Detector.Eligibility
import Vigil.Proofs.Detector.Interleaving
import Vigil.Proofs.Detector.Recheck
import Vigil.Proofs.Detector.Upkeep
import Vigil.Proofs.Encoding
import Vigil.Proofs.Grammar
import Vigil.Proofs.Identifier
import Vigil.Proofs.Machine.Correspondence
import Vigil.Proofs.Machine.Provenance
import Vigil.Proofs.Machine.QuorumSafety
import Vigil.Proofs.Machine.SelfTrust
import Vigil.Proofs.Network.Undeliverable
import Vigil.Proofs.Notification
import Vigil.Proofs.Participant.Exchange
import Vigil.Proofs.Participant.Notices
import Vigil.Proofs.Participant.Provenance
import Vigil.Proofs.Participant.Schedule
import Vigil.Proofs.Simulation.Alarms
import Vigil.Proofs.Simulation.Detection
import Vigil.Proofs.Simulation.Diary
import Vigil.Proofs.Simulation.Ending
import Vigil.Proofs.Simulation.Farewells
import Vigil.Proofs.Simulation.Outage
import Vigil.Proofs.Simulation.Recovery
import Vigil.Proofs.Tenure
import Vigil.Proofs.Timers.Concord
import Vigil.Proofs.Timers.Punctuality
import Vigil.Scenario.Json
import Vigil.Signal.Json
import Vigil.Timers.Script
