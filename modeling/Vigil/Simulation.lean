import Vigil.Network
import Vigil.Node
import Vigil.Scenario
import Vigil.Sorted.Order

/-!
Simulated clusters. Time goes in steps. In each step the clock moves, the events that have come
due happen, the clocks of all nodes follow, and then messages are handled and carried until
nothing moves any more. `Simulation.now_advance` says by how much the clock moves.

The clock is a natural number, on the assumption that it does not overflow. A clock of 64 bits
agrees with it in every step that ends before 2 ^ 64; it never comes that far where the duration of
the scenario and one step add up to no more than that.
-/

namespace Vigil

/-- A transition as one instance saw it. -/
structure Observation where
  time : Nat
  observer : InstanceId
  transition : Transition
  deriving DecidableEq, Repr

structure Simulation (γ : Type) where
  scenario : Scenario
  /-- The members of the scenario that have not left. -/
  members : List InstanceId
  /-- The instances that are running. -/
  nodes : SortedMap InstanceId Node
  network : Network γ
  /-- The events that have not happened yet, in the order in which they will. -/
  agenda : List ScheduledEvent
  now : Nat
  log : List Observation
  warnings : List Warning

namespace Simulation

variable {γ : Type}

/-- Note the transitions of one node and its warnings. -/
def record (s : Simulation γ) (observer : InstanceId) (o : NodeOutcome) : Simulation γ :=
  { s with
    log := s.log ++ o.transitions.map fun t => ⟨s.now, observer, t⟩
    warnings := s.warnings ++ o.warnings }

def recordAll (s : Simulation γ) (l : List (InstanceId × NodeOutcome)) : Simulation γ :=
  l.foldl (fun s p => s.record p.1 p.2) s

/-- Put the outcome of a node in its place. -/
def settleNode (s : Simulation γ) (id : InstanceId) (o : NodeOutcome) : Simulation γ :=
  { s.record id o with nodes := s.nodes.insert id o.node }

/-- Start an instance, which joins at once. -/
def startNode (s : Simulation γ) (id : InstanceId) : Simulation γ :=
  s.settleNode id (Node.start id s.members s.scenario.timing s.now).join

/-- Let every running instance forget a member, in increasing order. -/
def forgetMember (s : Simulation γ) (id : InstanceId) : Simulation γ :=
  s.nodes.toList.foldl (fun s p => s.settleNode p.1 (p.2.forget id).1) s

/-- Let an event happen. -/
def happen (s : Simulation γ) (e : ScheduledEvent) : Simulation γ :=
  match e.action with
  | .crash => { s with nodes := s.nodes.erase e.subject }
  | .restart =>
    if !s.nodes.contains e.subject && s.members.contains e.subject then s.startNode e.subject else s
  | .leave =>
    let s :=
      match s.nodes.get? e.subject with
      | some node => s.settleNode e.subject node.leave
      | none => s
    { s with members := s.members.filter (· != e.subject) }.forgetMember e.subject

/-- Let the events happen that have come due. -/
def happenDue (s : Simulation γ) : Simulation γ :=
  let due := s.agenda.takeWhile fun e => decide (e.time ≤ s.now)
  due.foldl happen { s with agenda := s.agenda.dropWhile fun e => decide (e.time ≤ s.now) }

def tickNodes (s : Simulation γ) : Simulation γ :=
  { s with nodes := s.nodes.mapValues fun _ node => node.tick s.now }

/-- Let every node handle its messages, in increasing order; the answer counts them. -/
def pumpNodes (s : Simulation γ) : Simulation γ × Nat :=
  let outcomes := s.nodes.mapValues fun _ node => node.pump
  ({ s.recordAll outcomes.toList with nodes := outcomes.mapValues fun _ o => o.node },
    (outcomes.values.map NodeOutcome.handled).foldr (· + ·) 0)

/-- All messages that wait to be carried, with their senders. -/
def outgoing (s : Simulation γ) : List (InstanceId × Envelope Signal) :=
  s.nodes.toList.flatMap fun (id, node) => node.outbox.toList.map fun e => (id, e)

/-- Deliver the copies of an envelope that arrive. -/
def deliver (nodes : SortedMap InstanceId Node) (copies : List (InstanceId × Envelope Signal)) :
    SortedMap InstanceId Node :=
  copies.foldl (fun nodes (id, e) => nodes.modify id fun node => node.receive e) nodes

variable [DrawSource γ]

/-- Carry one message; the answer counts the copies that arrive. -/
def carry (s : Simulation γ) (sender : InstanceId) (e : Envelope Signal) : Simulation γ × Nat :=
  let (network, copies, warnings) := s.network.route sender e s.nodes.keys
  ({ s with network, nodes := deliver s.nodes copies, warnings := s.warnings ++ warnings },
    copies.length)

def carryAll (s : Simulation γ) : List (InstanceId × Envelope Signal) → Simulation γ × Nat
  | [] => (s, 0)
  | (sender, e) :: rest =>
    let (s, arrived) := s.carry sender e
    let (s, arrived') := s.carryAll rest
    (s, arrived + arrived')

/-- Carry everything that waits to be carried. -/
def carryOutgoing (s : Simulation γ) : Simulation γ × Nat :=
  carryAll { s with nodes := s.nodes.mapValues fun _ node => node.takeOutbox.1 } s.outgoing

/-- Handle what has arrived and carry what that sends; the answer tells whether anything moved. -/
def pass (s : Simulation γ) : Simulation γ × Bool :=
  let (s, handled) := s.pumpNodes
  let (s, arrived) := s.carryOutgoing
  (s, handled != 0 || arrived != 0)

/-- Pass after pass until one in which nothing moves, but no more than `limit` of them. -/
def settleWithin : Nat → Simulation γ → Simulation γ
  | 0, s => s
  | limit + 1, s =>
    match s.pass with
    | (s, true) => settleWithin limit s
    | (s, false) => s

/-- Let everything come to rest. A due heartbeat makes an instance send a heartbeat, and that, like
silence, may make another send a report, which makes nobody send anything. So whatever lies in the
mailboxes, the fifth pass at the latest moves nothing. -/
def settle (s : Simulation γ) : Simulation γ := settleWithin 5 s

/-- One step of the clock, which is assumed not to overflow. -/
def advance (s : Simulation γ) : Simulation γ :=
  { s with now := s.now + s.scenario.step }.happenDue.tickNodes.settle

/-- All members of a scenario start at once. -/
def start (draws : γ) (scenario : Scenario) : Simulation γ :=
  let s : Simulation γ :=
    { scenario
      members := scenario.members
      nodes := ∅
      network := .start draws (.ofProbability scenario.dropProbability)
      agenda := orderBy ScheduledEvent.time scenario.events
      now := 0
      log := []
      warnings := [] }
  scenario.members.foldl startNode s

section Clock

omit [DrawSource γ]

/-- Clock and scenario of a simulation. -/
def frame (s : Simulation γ) : Scenario × Nat := (s.scenario, s.now)

theorem frame_foldl {α : Type} (f : Simulation γ → α → Simulation γ)
    (h : ∀ s a, (f s a).frame = s.frame) (l : List α) (s : Simulation γ) :
    (l.foldl f s).frame = s.frame := by
  induction l generalizing s with
  | nil => rfl
  | cons a l ih => rw [List.foldl_cons, ih, h]

theorem frame_forgetMember (s : Simulation γ) (id : InstanceId) :
    (s.forgetMember id).frame = s.frame := by
  apply frame_foldl
  intros
  rfl

theorem frame_happen (s : Simulation γ) (e : ScheduledEvent) : (s.happen e).frame = s.frame := by
  unfold happen
  split
  · rfl
  · split <;> rfl
  · rw [frame_forgetMember]
    cases s.nodes.get? e.subject <;> rfl

theorem frame_happenDue (s : Simulation γ) : s.happenDue.frame = s.frame :=
  frame_foldl _ frame_happen _ _

theorem frame_recordAll (s : Simulation γ) (l : List (InstanceId × NodeOutcome)) :
    (s.recordAll l).frame = s.frame := by
  apply frame_foldl
  intros
  rfl

theorem frame_pumpNodes (s : Simulation γ) : s.pumpNodes.1.frame = s.frame :=
  frame_recordAll s _

end Clock

theorem frame_carryAll (l : List (InstanceId × Envelope Signal)) (s : Simulation γ) :
    (s.carryAll l).1.frame = s.frame := by
  induction l generalizing s with
  | nil => rfl
  | cons p l ih => exact ih _

theorem frame_pass (s : Simulation γ) : s.pass.1.frame = s.frame :=
  (frame_carryAll _ _).trans (frame_pumpNodes s)

theorem frame_settleWithin (limit : Nat) (s : Simulation γ) :
    (settleWithin limit s).frame = s.frame := by
  induction limit generalizing s with
  | zero => rfl
  | succ limit ih =>
    have h := frame_pass s
    unfold settleWithin
    split <;> rename_i s' hs <;> rw [hs] at h
    · rw [ih]; exact h
    · exact h

theorem frame_advance (s : Simulation γ) :
    s.advance.frame = (s.scenario, s.now + s.scenario.step) :=
  (frame_settleWithin 5 _).trans
    (frame_happenDue { s with now := s.now + s.scenario.step })

theorem now_advance (s : Simulation γ) : s.advance.now = s.now + s.scenario.step :=
  congrArg Prod.snd s.frame_advance

theorem scenario_advance (s : Simulation γ) : s.advance.scenario = s.scenario :=
  congrArg Prod.fst s.frame_advance

/-- Step by step until the duration of the scenario has passed. Where a step takes no time, none is
made. -/
def run (s : Simulation γ) : Simulation γ :=
  if _h : s.now < s.scenario.duration ∧ 0 < s.scenario.step then run s.advance else s
termination_by s.scenario.duration - s.now
decreasing_by
  rw [now_advance, scenario_advance]
  omega

end Simulation

end Vigil
