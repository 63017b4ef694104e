import Mathlib.Data.List.TakeWhile
import Vigil.Proofs.Simulation.Beats
import Vigil.Proofs.Simulation.Events

/-!
The course of a simulation, step by step. Every step begins with the events that have come due
(`struck`) and goes on with a round, the cluster is at rest before and after it (`steady_after`),
and the events that are still to come are among those of the scenario.
-/

namespace Vigil
namespace Simulation

variable {γ : Type} {s : Simulation γ} {r o q x y : InstanceId} {n : Node} {k : TimerKey} {d : Nat}
  {e : ScheduledEvent}

/-! ### The events of a step -/

/-- The events that come due in the next step. -/
def due (s : Simulation γ) : List ScheduledEvent :=
  s.agenda.takeWhile fun e => decide (e.time ≤ s.now + s.scenario.step)

/-- The beginning of the next step, before anything happens in it. -/
def begun (s : Simulation γ) : Simulation γ :=
  { s with
    now := s.now + s.scenario.step
    agenda := s.agenda.dropWhile fun e => decide (e.time ≤ s.now + s.scenario.step) }

/-- The next step once its events have happened. -/
def struck (s : Simulation γ) : Simulation γ := s.due.foldl happen s.begun

theorem advance_eq_round [DrawSource γ] (s : Simulation γ) : s.advance = s.struck.round := rfl

theorem mem_of_mem_due (h : e ∈ s.due) : e ∈ s.agenda :=
  (List.takeWhile_sublist _).mem h

theorem Steady.begun (h : s.Steady) : s.begun.Steady where
  order := ⟨h.order.attends, h.order.awaited, h.order.retired⟩
  quiet := ⟨h.quiet.carried, h.quiet.handled⟩
  clock r n hn := ⟨Nat.le_add_right_of_le (h.clock r n hn).1, (h.clock r n hn).2⟩

/-- What holds at the beginning of a step and outlasts each of its events holds after them. -/
theorem struck_induction {P : Simulation γ → Prop} (h : s.Steady) (first : P s.begun)
    (next : ∀ s' : Simulation γ, s'.Steady → P s' → ∀ e ∈ s.due, P (s'.happen e)) :
    s.struck.Steady ∧ P s.struck :=
  List.foldlRecOn (motive := fun s' => s'.Steady ∧ P s') s.due Simulation.happen ⟨h.begun, first⟩
    fun s' before e he => ⟨before.1.happen e, next s' before.1 before.2 e he⟩

theorem Steady.struck (h : s.Steady) : s.struck.Steady :=
  (struck_induction (P := fun _ => True) h trivial fun _ _ _ _ _ => trivial).1

theorem foldl_happen_fields (l : List ScheduledEvent) (s : Simulation γ) :
    (l.foldl happen s).agenda = s.agenda ∧ (l.foldl happen s).network = s.network ∧
      (l.foldl happen s).frame = s.frame := by
  induction l generalizing s with
  | nil => exact ⟨rfl, rfl, rfl⟩
  | cons e l ih =>
      obtain ⟨agenda, network, frame⟩ := ih (s.happen e)
      obtain ⟨agenda', network'⟩ := s.happen_fields e
      exact ⟨agenda.trans agenda', network.trans network', frame.trans (s.frame_happen e)⟩

theorem agenda_struck (s : Simulation γ) : s.struck.agenda = s.begun.agenda :=
  (foldl_happen_fields _ _).1

theorem network_struck (s : Simulation γ) : s.struck.network = s.network :=
  (foldl_happen_fields _ _).2.1

theorem now_struck (s : Simulation γ) : s.struck.now = s.now + s.scenario.step :=
  congrArg Prod.snd (foldl_happen_fields s.due s.begun).2.2

theorem scenario_struck (s : Simulation γ) : s.struck.scenario = s.scenario :=
  congrArg Prod.fst (foldl_happen_fields s.due s.begun).2.2

variable [DrawSource γ]

theorem Steady.advance (h : s.Steady) : s.advance.Steady := h.struck.round

theorem group_advance (h : s.Steady) : s.advance.group = s.struck.group :=
  group_round h.struck.order h.struck.quiet

theorem mem_keys_advance (h : s.Steady) : r ∈ s.advance.nodes.keys ↔ r ∈ s.struck.nodes.keys :=
  mem_keys_round h.struck.order h.struck.quiet

theorem agenda_advance (h : s.Steady) : s.advance.agenda = s.begun.agenda :=
  (agenda_round h.struck.order h.struck.quiet).trans s.agenda_struck

theorem rate_advance (h : s.Steady) : s.advance.network.rate = s.network.rate :=
  (rate_round h.struck.order h.struck.quiet).trans (congrArg Network.rate s.network_struck)

/-! ### From the start -/

section Start

variable (draws : γ) (sc : Scenario)

/-- The simulation of a scenario after so many steps. -/
def after (k : Nat) : Simulation γ := advance^[k] (start draws sc)

theorem after_succ (k : Nat) : after draws sc (k + 1) = (after draws sc k).advance :=
  Function.iterate_succ_apply' advance k _

omit [DrawSource γ]

/-- A simulation in which nobody has been started. -/
def blank : Simulation γ :=
  { scenario := sc
    members := sc.members
    nodes := ∅
    network := .start draws (.ofProbability sc.dropProbability)
    agenda := orderBy ScheduledEvent.time sc.events
    now := 0
    log := []
    warnings := [] }

theorem steady_blank : (blank draws sc).Steady := by
  have nobody {P : Prop} {r : InstanceId} {n : Node} (h : (blank draws sc).nodes.get? r = some n) :
      P := by
    cases h
  exact ⟨⟨fun r n h => nobody h, fun r n h => nobody h, fun r n h => nobody h⟩,
    ⟨fun r n h => nobody h, fun r n h => nobody h⟩, fun r n h => nobody h⟩

theorem foldl_startNode (l : List InstanceId) (s : Simulation γ) (h : s.Steady)
    (hl : ∀ x ∈ l, x ∈ s.members) :
    (l.foldl startNode s).Steady ∧ (l.foldl startNode s).members = s.members ∧
      (l.foldl startNode s).network = s.network ∧ (l.foldl startNode s).agenda = s.agenda ∧
      (l.foldl startNode s).frame = s.frame ∧
      ∀ r, (l.foldl startNode s).nodes.get? r = if r ∈ l then
        some (Node.start r s.members s.scenario.timing s.now).join.node else s.nodes.get? r := by
  induction l generalizing s with
  | nil => exact ⟨h, rfl, rfl, rfl, rfl, fun r => rfl⟩
  | cons x l ih =>
      rw [List.forall_mem_cons] at hl
      obtain ⟨steady, members, network, agenda, frame, get⟩ := ih (s.startNode x)
        (h.startNode hl.1) hl.2
      refine ⟨steady, members, network, agenda, frame, fun r => (get r).trans ?_⟩
      rw [get?_startNode]
      by_cases hr : r ∈ l
      · rw [if_pos hr, if_pos (List.mem_cons_of_mem x hr)]
        rfl
      · by_cases hx : r = x
        · subst hx
          rw [if_neg hr, if_pos rfl, if_pos (List.mem_cons_self ..)]
        · simp [hx, hr]

theorem steady_start : (start draws sc).Steady :=
  (foldl_startNode sc.members (blank draws sc) (steady_blank draws sc) fun _ h => h).1

theorem start_fields :
    (start draws sc).members = sc.members ∧
      (start draws sc).network = .start draws (.ofProbability sc.dropProbability) ∧
      (start draws sc).agenda = orderBy ScheduledEvent.time sc.events ∧
      (start draws sc).frame = (sc, 0) ∧
      ∀ r, (start draws sc).nodes.get? r = if r ∈ sc.members then
        some (Node.start r sc.members sc.timing 0).join.node else none :=
  (foldl_startNode sc.members (blank draws sc) (steady_blank draws sc) fun _ h => h).2

variable [DrawSource γ]

theorem steady_after (k : Nat) : (after draws sc k).Steady := by
  induction k with
  | zero => exact steady_start draws sc
  | succ k ih =>
      rw [after_succ]
      exact ih.advance

theorem scenario_after (k : Nat) : (after draws sc k).scenario = sc := by
  induction k with
  | zero => exact congrArg Prod.fst (start_fields draws sc).2.2.2.1
  | succ k ih => rw [after_succ, scenario_advance, ih]

theorem now_after (k : Nat) : (after draws sc k).now = k * sc.step := by
  induction k with
  | zero => exact (congrArg Prod.snd (start_fields draws sc).2.2.2.1).trans (Nat.zero_mul _).symm
  | succ k ih => rw [after_succ, now_advance, ih, scenario_after, Nat.succ_mul]

theorem rate_after (k : Nat) :
    (after draws sc k).network.rate = .ofProbability sc.dropProbability := by
  induction k with
  | zero => exact congrArg Network.rate (start_fields draws sc).2.1
  | succ k ih => rw [after_succ, rate_advance (steady_after draws sc k), ih]

theorem mem_events_of_mem_agenda {k : Nat} (h : e ∈ (after draws sc k).agenda) : e ∈ sc.events := by
  induction k with
  | zero =>
      have agenda := (start_fields draws sc).2.2.1
      exact (orderBy_perm _ _).mem_iff.mp (agenda ▸ h)
  | succ k ih =>
      rw [after_succ, agenda_advance (steady_after draws sc k)] at h
      exact ih ((List.dropWhile_sublist _).mem h)

/-- A run goes on to the first step that is not before the duration of the scenario. -/
theorem run_start (hs : 0 < sc.step) :
    ∃ k, (start draws sc).run = after draws sc k ∧ sc.duration ≤ k * sc.step ∧
      k * sc.step < sc.duration + sc.step := by
  have runs (left k : Nat) (far : sc.duration - k * sc.step ≤ left)
      (early : k * sc.step < sc.duration + sc.step) :
      ∃ m, (after draws sc k).run = after draws sc m ∧ sc.duration ≤ m * sc.step ∧
        m * sc.step < sc.duration + sc.step := by
    induction left generalizing k with
    | zero =>
        have ended : sc.duration ≤ k * sc.step := by omega
        refine ⟨k, ?_, ended, early⟩
        rw [run, now_after, scenario_after, dif_neg fun h => Nat.not_lt_of_le ended h.1]
    | succ left ih =>
        by_cases more : k * sc.step < sc.duration
        · obtain ⟨m, hm, bounds⟩ := ih (k + 1) (by rw [Nat.succ_mul]; omega)
            (by rw [Nat.succ_mul]; omega)
          refine ⟨m, ?_, bounds⟩
          rw [run, now_after, scenario_after, dif_pos ⟨more, hs⟩, ← after_succ, hm]
        · have ended := Nat.le_of_not_lt more
          refine ⟨k, ?_, ended, early⟩
          rw [run, now_after, scenario_after, dif_neg fun h => more h.1]
  exact runs sc.duration 0 (by omega) (by omega)

theorem agenda_ordered (k : Nat) :
    (after draws sc k).agenda.Pairwise fun a b => a.time ≤ b.time := by
  induction k with
  | zero =>
      have agenda : (after draws sc 0).agenda = _ := (start_fields draws sc).2.2.1
      rw [agenda]
      exact orderBy_ordered _ _
  | succ k ih =>
      rw [after_succ, agenda_advance (steady_after draws sc k)]
      exact ih.sublist (List.dropWhile_sublist _)

theorem agenda_after_succ (k : Nat) :
    (after draws sc (k + 1)).agenda =
      (after draws sc k).agenda.filter fun e => decide ((k + 1) * sc.step < e.time) := by
  rw [after_succ, agenda_advance (steady_after draws sc k), begun, now_after, scenario_after,
    ← Nat.succ_mul]
  exact dropWhile_eq_filter (agenda_ordered draws sc k) _

theorem agenda_eq_nil {k : Nat} (pos : 0 < k) (ended : ∀ e ∈ sc.events, e.time ≤ k * sc.step) :
    (after draws sc k).agenda = [] := by
  cases k with
  | zero => exact absurd pos (Nat.lt_irrefl 0)
  | succ k =>
      rw [agenda_after_succ]
      refine List.filter_eq_nil_iff.mpr fun e he => ?_
      have event := ended e (mem_events_of_mem_agenda draws sc he)
      simpa using event

section Schedule

variable (hs : 0 < sc.step)
include hs

theorem agenda_after (k : Nat) :
    (after draws sc k).agenda =
      (orderBy ScheduledEvent.time sc.events).filter fun e =>
        decide (k ≤ sc.stepsBefore e.time) := by
  induction k with
  | zero =>
      have agenda : (after draws sc 0).agenda = _ := (start_fields draws sc).2.2.1
      rw [agenda]
      exact (List.filter_eq_self.mpr fun e _ => decide_eq_true (Nat.zero_le _)).symm
  | succ k ih =>
      rw [agenda_after_succ, ih, List.filter_filter]
      refine List.filter_congr fun e _ => ?_
      have late := (Scenario.stepsBefore_le_iff (t := e.time) (k := k) hs).not
      simp only [← Bool.decide_and, decide_eq_decide]
      omega

/-- The events of a step, as they are scheduled. -/
theorem due_after (k : Nat) :
    (after draws sc k).due =
      (orderBy ScheduledEvent.time sc.events).filter fun e =>
        decide (sc.stepsBefore e.time = k) := by
  have due := takeWhile_eq_filter (agenda_ordered draws sc k) ((k + 1) * sc.step)
  rw [agenda_after draws sc hs, List.filter_filter, ← agenda_after draws sc hs] at due
  rw [Simulation.due, now_after, scenario_after, ← Nat.succ_mul]
  refine due.trans (List.filter_congr fun e _ => ?_)
  have soon := Scenario.stepsBefore_le_iff (t := e.time) (k := k) hs
  simp only [← Bool.decide_and, decide_eq_decide]
  omega

end Schedule

end Start

end Simulation
end Vigil
