import Vigil.Proofs.Detector.Forgetting
import Vigil.Proofs.Simulation.Log
import Vigil.Proofs.Simulation.Views

/-!
What is still noted by an instance that has left. Its node goes on running, and it is told of every
departure, its own included, so it works out anew whom it fails (`seen_leave`). Between departures
it has nothing to handle and notes nothing (`round_of_gone`), and it holds no reports but those
that it held when it left (`Departed.recalls`).
-/

namespace Vigil

namespace Node

variable {n : Node} {r x : InstanceId} {members : List InstanceId}

/-- Leaving hands out what is queued and changes nothing else but the timers. -/
theorem leave_eq (h : n.detector.Informed r members) :
    n.leave.transitions = n.detector.pending ∧
      ∃ t, n.leave.node.detector = { n.detector with timers := t, pending := [] } := by
  obtain ⟨t, same⟩ := sameButTimers_leave h
  have handled : n.leave.transitions = (n.machine.respond (.internal .leave)).detector.pending ∧
      n.leave.node.detector =
        { (n.machine.respond (.internal .leave)).detector with pending := [] } := ⟨rfl, rfl⟩
  rw [handled.1, handled.2, same]
  exact ⟨rfl, t, rfl⟩

theorem failed_leave (h : n.detector.Informed r members) : n.leave.node.failed = n.failed := by
  obtain ⟨-, t, left⟩ := leave_eq h
  rw [failed, left]
  rfl

theorem reportOf_leave (h : n.detector.Informed r members) (q : InstanceId) :
    n.leave.node.detector.reportOf q = n.detector.reportOf q := by
  obtain ⟨-, t, left⟩ := leave_eq h
  rw [left]
  rfl

/-- What a node tells of a departure is how its failed instances change by it, but for the departed
itself. -/
theorem transitions_forget (h : n.detector.Informed r members) (taken : n.detector.pending = [])
    (x : InstanceId) :
    (n.forget x).1.transitions =
      Transition.changes (n.failed.erase x) (n.forget x).1.node.failed := by
  have leaves : (n.detector.cluster.leave x).2 = decide (x ∈ members) := by
    rw [Cluster.leave_isMember, Cluster.isMember, h.members_eq]
    simp
  by_cases hx : x ∈ members
  · have told : (n.forget x).1.transitions = ((n.without x).detector.depart x).pending ∧
        (n.forget x).1.node.failed = ((n.without x).detector.depart x).failed := by
      simp only [forget, leaves, hx, decide_true, if_true]
      exact ⟨rfl, rfl⟩
    have queued : (n.without x).detector.pending = [] := taken
    rw [told.1, told.2, Detector.pending_depart, queued]
    rfl
  · have told : (n.forget x).1.transitions = [] ∧ (n.forget x).1.node.failed = n.failed := by
      simp only [forget, leaves, hx, decide_false]
      exact ⟨rfl, rfl⟩
    have unfailed : x ∉ n.failed := fun failed => by
      obtain ⟨q, hq⟩ := Detector.exists_report_of_lt_votes ((h.agrees x).mp failed)
      exact hx (h.inside q x hq).2.1
    rw [told.1, told.2, SortedSet.erase_eq_self unfailed, Transition.changes_self]

end Node

namespace Simulation

variable {γ : Type} {s s₀ : Simulation γ} {o q x y : InstanceId} {n : Node} {e : ScheduledEvent}

/-! ### One event -/

theorem seen_settleAll (f : Node → NodeOutcome) (l : List (InstanceId × Node)) (s : Simulation γ)
    (keys : (l.map Prod.fst).Nodup) :
    (l.foldl (fun s p => s.settleNode p.1 (f p.2)) s).seen o = s.seen o ++
      ((SortedMap.lookup o l).map fun n => s.noted o (f n).transitions).getD [] := by
  induction l generalizing s with
  | nil => exact (List.append_nil _).symm
  | cons p l ih =>
      obtain ⟨q, n⟩ := p
      rw [List.map_cons, List.nodup_cons] at keys
      have first : (s.settleNode q (f n)).seen o =
          s.seen o ++ if q = o then s.noted o (f n).transitions else [] := s.seen_record q o (f n)
      have noted : (s.settleNode q (f n)).noted o = s.noted o := rfl
      rw [List.foldl_cons, ih _ keys.2, first, noted, SortedMap.lookup]
      by_cases hq : q = o
      · have absent : SortedMap.lookup o l = none := SortedMap.lookup_eq_none (hq ▸ keys.1)
        simp [hq, absent]
      · simp [hq]

theorem seen_forgetMember (s : Simulation γ) (x o : InstanceId) :
    (s.forgetMember x).seen o = s.seen o ++
      ((s.nodes.get? o).map fun n => s.noted o (n.forget x).1.transitions).getD [] := by
  have keys : (s.nodes.toList.map Prod.fst).Nodup := s.nodes.keys.nodup
  exact seen_settleAll (fun n => (n.forget x).1) s.nodes.toList s keys

theorem seen_takeLeave (aware : s.Aware) (announced : s.Announced) (x o : InstanceId) :
    (s.takeLeave x).seen o = s.seen o := by
  unfold takeLeave
  split
  · rename_i n hn
    refine (s.seen_record x o n.leave).trans ?_
    rw [(Node.leave_eq (aware x n hn)).1, announced x n hn]
    split <;> exact List.append_nil _
  · rfl

/-- What `o` notes of a departure: how its failed instances change by it, but for the departed
itself. -/
theorem seen_leave (aware : s.Aware) (announced : s.Announced) (he : e.action = .leave) :
    (s.happen e).seen o = s.seen o ++ s.noted o
      (Transition.changes ((s.failedAt o).erase e.subject) ((s.happen e).failedAt o)) := by
  have now : (s.takeLeave e.subject).now = s.now := by
    unfold takeLeave
    split <;> rfl
  have seen : (s.happen e).seen o = s.seen o ++ ((s.nodes.get? o).map fun n => s.noted o
      ((if o = e.subject then n.leave.node else n).forget e.subject).1.transitions).getD [] := by
    rw [happen_leave he, seen_forgetMember]
    change (s.takeLeave e.subject).seen o ++
      (((s.takeLeave e.subject).nodes.get? o).map fun n =>
        (s.takeLeave e.subject).noted o (n.forget e.subject).1.transitions).getD [] = _
    simp only [seen_takeLeave aware announced, get?_takeLeave, Option.map_map, noted, now]
    rfl
  have get := get?_leave (s := s) (r := o) he
  rw [seen]
  cases hn : s.nodes.get? o with
  | none =>
      rw [hn] at get
      rw [failedAt_of_absent hn, failedAt_of_absent get,
        SortedSet.erase_eq_self (SortedSet.not_mem_empty _), Transition.changes_self]
      rfl
  | some n =>
      rw [hn] at get
      rw [failedAt_eq hn, failedAt_eq get, Option.map_some, Option.getD_some]
      have informed := aware o n hn
      split
      · rw [Node.transitions_forget (Node.informed_leave informed) rfl, Node.failed_leave informed]
      · rw [Node.transitions_forget informed (announced o n hn)]

/-- What `x` notes of an event. -/
def farewell (x : InstanceId) (s : Simulation γ) (e : ScheduledEvent) : List Observation :=
  if e.action = .leave then
    s.noted x (Transition.changes ((s.failedAt x).erase e.subject) ((s.happen e).failedAt x))
  else []

/-- What `x` notes of events that happen one after the other. -/
def farewells (x : InstanceId) : Simulation γ → List ScheduledEvent → List Observation
  | _, [] => []
  | s, e :: es => s.farewell x e ++ farewells x (s.happen e) es

theorem seen_happen_eq (aware : s.Aware) (announced : s.Announced) (e : ScheduledEvent) :
    (s.happen e).seen o = s.seen o ++ s.farewell o e := by
  unfold farewell
  split
  · exact seen_leave aware announced ‹_›
  · rw [seen_happen ‹_›, List.append_nil]

/-! ### Between events -/

/-- At rest, everybody knows the members and nothing is left to announce. -/
structure Idle (s : Simulation γ) : Prop where
  steady : s.Steady
  aware : s.Aware
  announced : s.Announced

theorem Idle.happen (h : s.Idle) (e : ScheduledEvent) : (s.happen e).Idle :=
  ⟨h.steady.happen e, h.aware.happen e, h.announced.happen e⟩

theorem Idle.foldl_happen (h : s.Idle) (l : List ScheduledEvent) :
    (l.foldl Simulation.happen s).Idle :=
  List.foldlRecOn (motive := Idle) l Simulation.happen h fun _ idle e _ => idle.happen e

theorem Idle.begun (h : s.Idle) : s.begun.Idle := ⟨h.steady.begun, h.aware, h.announced⟩

theorem seen_foldl_happen (h : s.Idle) (l : List ScheduledEvent) :
    (l.foldl happen s).seen o = s.seen o ++ farewells o s l := by
  induction l generalizing s with
  | nil => exact (List.append_nil _).symm
  | cons e l ih =>
      rw [List.foldl_cons, ih (h.happen e), seen_happen_eq h.aware h.announced, List.append_assoc]
      rfl

section Gone

variable [DrawSource γ]

theorem passed_of_gone (h : s.InOrder) (ho : o ∉ s.group) :
    s.passed.seen o = s.seen o ∧ ∀ q, s.passed.reportAt o q = s.reportAt o q := by
  obtain ⟨kept, -, -, get⟩ := get?_passed h
  refine ⟨?_, fun q => ?_⟩
  · rw [seen_passed]
    cases hn : s.nodes.get? o with
    | none => exact List.append_nil _
    | some n =>
        rw [Option.map_some, (h.retired o n hn ho).unread]
        exact List.append_nil _
  · rw [reportAt, get, reportAt, Option.map_map]
    cases hn : s.nodes.get? o with
    | none => rfl
    | some n =>
        simp only [Option.map_some, Option.getD_some, Function.comp_apply, worked_retired h hn ho]
        rfl

/-- Whoever is no member handles nothing in a round. -/
theorem round_of_gone (h : s.Steady) (ho : o ∉ s.group) :
    s.round.seen o = s.seen o ∧ ∀ q, s.round.reportAt o q = s.reportAt o q := by
  have ticked := h.order.tickNodes h.quiet
  have ho₁ : o ∉ s.tickNodes.passed.group := s.tickNodes.group_passed.symm ▸ ho
  have ho₂ : o ∉ s.tickNodes.passed.passed.group := s.tickNodes.passed.group_passed.symm ▸ ho₁
  obtain ⟨seen₁, report₁⟩ := passed_of_gone ticked ho
  obtain ⟨seen₂, report₂⟩ := passed_of_gone ticked.passed ho₁
  obtain ⟨seen₃, report₃⟩ := passed_of_gone ticked.passed.passed ho₂
  rw [round_eq h.order h.quiet]
  refine ⟨seen₃.trans (seen₂.trans seen₁), fun q => ?_⟩
  rw [report₃, report₂, report₁, reportAt_tickNodes]

theorem Idle.round (h : s.Idle) : s.round.Idle :=
  ⟨h.steady.round, h.aware.round h.steady.order h.steady.quiet, h.announced.round h.steady⟩

end Gone

/-! ### What is recalled -/

/-- Whatever `x` finds in reports in the second simulation, it found there in the first, and it is
about members and from members. -/
def Recalls (s₀ : Simulation γ) (x : InstanceId) (s : Simulation γ) : Prop :=
  ∀ q y, y ∈ s.reportAt x q ↔
    x ∈ s.nodes.keys ∧ y ∈ s₀.reportAt x q ∧ q ∈ s.members ∧ y ∈ s.members

theorem Aware.recalls (aware : s.Aware) (x : InstanceId) : s.Recalls x s := by
  refine fun q y => ⟨fun hy => ?_, fun h => h.2.1⟩
  obtain ⟨n, hn, suspects⟩ := exists_of_mem_reportAt hy
  have inside := (aware x n hn).inside q y suspects
  exact ⟨SortedMap.mem_keys_iff.mpr ⟨n, hn⟩, hy, mem_group.mp inside.1, mem_group.mp inside.2.1⟩

theorem Recalls.congr {s' : Simulation γ} (h : Recalls s₀ x s)
    (get : s'.nodes.get? x = s.nodes.get? x) (members : s'.members = s.members) :
    Recalls s₀ x s' := by
  intro q y
  have keys : x ∈ s'.nodes.keys ↔ x ∈ s.nodes.keys := by
    rw [SortedMap.mem_keys_iff, SortedMap.mem_keys_iff, get]
  have report : s'.reportAt x q = s.reportAt x q := by rw [reportAt, get, reportAt]
  rw [report, keys, members]
  exact h q y

theorem Recalls.leave (h : Recalls s₀ x s) (aware : s.Aware) (he : e.action = .leave) :
    Recalls s₀ x (s.happen e) := by
  intro q y
  have members (z : InstanceId) : z ∈ (s.happen e).members ↔ z ∈ s.members ∧ z ≠ e.subject := by
    rw [members_leave he, List.mem_filter, bne_iff_ne]
  have get := get?_leave (s := s) (r := x) he
  cases hn : s.nodes.get? x with
  | none =>
      have absent : x ∉ (s.happen e).nodes.keys := by
        rw [SortedMap.mem_keys_iff, get, hn]
        simp
      simp [reportAt, get, hn, absent]
  | some n =>
      rw [hn, Option.map_some] at get
      have runs : x ∈ (s.happen e).nodes.keys := SortedMap.mem_keys_iff.mpr ⟨_, get⟩
      have still : x ∈ s.nodes.keys := SortedMap.mem_keys_iff.mpr ⟨n, hn⟩
      have before := h q y
      rw [reportAt_eq hn] at before
      have after : y ∈ (s.happen e).reportAt x q ↔
          y ∈ n.detector.reportOf q ∧ q ≠ e.subject ∧ y ≠ e.subject := by
        rw [reportAt_eq get]
        split
        · rw [Node.mem_reportOf_forget (Node.informed_leave (aware x n hn)),
            Node.reportOf_leave (aware x n hn)]
        · exact Node.mem_reportOf_forget (aware x n hn)
      rw [after, before, members, members]
      tauto

theorem Recalls.happen (h : Recalls s₀ x s) (aware : s.Aware)
    (gone : e.action = .restart → x ∉ s.members) : Recalls s₀ x (s.happen e) := by
  cases he : e.action with
  | crash =>
      by_cases hx : x = e.subject
      · have get : (s.happen e).nodes.get? x = none := by rw [get?_crash he, if_pos hx]
        have absent : x ∉ (s.happen e).nodes.keys := by simp [SortedMap.mem_keys_iff, get]
        intro q y
        simp [reportAt, get, absent]
      · refine h.congr (by rw [get?_crash he, if_neg hx]) ?_
        rw [happen_crash he]
  | restart =>
      rw [happen_restart he]
      split
      · rename_i starts
        refine h.congr ?_ rfl
        rw [get?_startNode, if_neg]
        rintro rfl
        exact gone he starts.2
      · exact h
  | leave => exact h.leave aware he

/-- Those are failed that more than half of the members suspect, going by the reports that `x` held
in the first simulation. -/
def JudgesFrom (s₀ : Simulation γ) (x : InstanceId) (s : Simulation γ) : Prop :=
  ∀ y, y ∈ s.failedAt x ↔ x ∈ s.nodes.keys ∧ y ∈ s.members ∧
    s.memberSet.card < 2 * (s.memberSet.filter fun q => y ∈ s₀.reportAt x q).card

theorem Recalls.judgesFrom (h : Recalls s₀ x s) (aware : s.Aware) : JudgesFrom s₀ x s := by
  intro y
  cases hn : s.nodes.get? x with
  | none =>
      have absent : x ∉ s.nodes.keys := by simp [SortedMap.mem_keys_iff, hn]
      simp [failedAt_of_absent hn, absent]
  | some n =>
      have runs : x ∈ s.nodes.keys := SortedMap.mem_keys_iff.mpr ⟨n, hn⟩
      have majority := (aware x n hn).mem_failed_iff (x := y) nodup_group
      have suspects : s.memberSet.filter (fun q => y ∈ n.detector.reportOf q) =
          s.memberSet.filter fun q => y ∈ s₀.reportAt x q ∧ y ∈ s.members := by
        refine Finset.filter_congr fun q hq => ?_
        rw [← reportAt_eq hn, h q y]
        simp [runs, mem_memberSet.mp hq]
      rw [toFinset_group, suspects] at majority
      rw [failedAt_eq hn]
      refine majority.trans ?_
      by_cases hy : y ∈ s.members <;> simp [hy, runs]

/-- `x` has left, and `s₀` is what it knew by then. -/
structure Departed (s₀ : Simulation γ) (x : InstanceId) (s : Simulation γ) : Prop where
  idle : s.Idle
  gone : x ∉ s.members
  recalls : Recalls s₀ x s

theorem Departed.leave (h : s.Idle) (leaves : e.Leaves x) : Departed s x (s.happen e) where
  idle := h.happen e
  gone := fun member => (mem_members_happen.mp member).2 leaves
  recalls := (h.aware.recalls x).leave h.aware leaves.1

theorem Departed.foldl_happen (h : Departed s₀ x s) (l : List ScheduledEvent) :
    Departed s₀ x (l.foldl happen s) :=
  List.foldlRecOn (motive := Departed s₀ x) l Simulation.happen h fun _ departed e _ =>
    ⟨departed.idle.happen e, fun member => departed.gone (mem_members_happen.mp member).1,
      departed.recalls.happen departed.idle.aware fun _ => departed.gone⟩

theorem Departed.begun (h : Departed s₀ x s) : Departed s₀ x s.begun :=
  ⟨h.idle.begun, h.gone, h.recalls.congr rfl rfl⟩

section Steps

variable [DrawSource γ]

theorem Departed.round (h : Departed s₀ x s) : Departed s₀ x s.round := by
  have steady := h.idle.steady
  have members := members_round steady.order steady.quiet
  refine ⟨h.idle.round, members ▸ h.gone, fun q y => ?_⟩
  rw [(round_of_gone steady (mt mem_group.mp h.gone)).2,
    mem_keys_round steady.order steady.quiet, members]
  exact h.recalls q y

theorem Departed.advance (h : Departed s₀ x s) :
    Departed s₀ x s.advance ∧ s.advance.seen x = s.seen x ++ farewells x s.begun s.due := by
  have struck : Departed s₀ x s.struck := h.begun.foldl_happen s.due
  rw [advance_eq_round]
  refine ⟨struck.round, ?_⟩
  rw [(round_of_gone struck.idle.steady (mt mem_group.mp struck.gone)).1]
  exact seen_foldl_happen h.idle.begun s.due

section Start

variable (draws : γ) (sc : Scenario) {k : Nat} {past future : List ScheduledEvent}

theorem idle_after (k : Nat) : (after draws sc k).Idle :=
  ⟨steady_after draws sc k, aware_after draws sc k, announced_after draws sc k⟩

/-- Once an instance has left, it notes nothing but farewells: at its own departure and at every
later one, as long as it runs, how its failed instances change by it. These are always the members
that more than half of the members suspect, going by the reports that it held when it left. -/
theorem notes_only_farewells (split : (after draws sc k).due = past ++ e :: future)
    (leaves : e.Leaves x) :
    let s := past.foldl happen (after draws sc k).begun
    (∀ j, (after draws sc (k + 1 + j)).seen x =
      s.seen x ++ farewells x s (e :: future) ++ (List.range j).flatMap fun i =>
        farewells x (after draws sc (k + 1 + i)).begun (after draws sc (k + 1 + i)).due) ∧
    (∀ mid, mid <+: future → JudgesFrom s x (mid.foldl happen (s.happen e))) ∧
    ∀ j mid, mid <+: (after draws sc (k + 1 + j)).due →
      JudgesFrom s x (mid.foldl happen (after draws sc (k + 1 + j)).begun) := by
  intro s
  have idle : s.Idle := (idle_after draws sc k).begun.foldl_happen past
  have left : Departed s x (s.happen e) := .leave idle leaves
  have struck : (after draws sc k).struck = (e :: future).foldl happen s := by
    rw [struck, split, List.foldl_append]
  -- `x` leaves amid the events of a step, so the first step is its own case.
  have first : Departed s x (after draws sc (k + 1)) ∧
      (after draws sc (k + 1)).seen x = s.seen x ++ farewells x s (e :: future) := by
    have departed : Departed s x (after draws sc k).struck := struck ▸ left.foldl_happen future
    rw [after_succ, advance_eq_round]
    refine ⟨departed.round, ?_⟩
    rw [(round_of_gone departed.idle.steady (mt mem_group.mp departed.gone)).1, struck,
      seen_foldl_happen idle]
  have later : ∀ j, Departed s x (after draws sc (k + 1 + j)) ∧
      (after draws sc (k + 1 + j)).seen x =
        s.seen x ++ farewells x s (e :: future) ++ (List.range j).flatMap fun i =>
          farewells x (after draws sc (k + 1 + i)).begun (after draws sc (k + 1 + i)).due := by
    intro j
    induction j with
    | zero => exact ⟨first.1, first.2.trans (List.append_nil _).symm⟩
    | succ j ih =>
        obtain ⟨departed, seen⟩ := ih.1.advance
        rw [← Nat.add_assoc, after_succ]
        refine ⟨departed, ?_⟩
        rw [seen, ih.2, List.range_succ, List.flatMap_append, List.flatMap_singleton,
          List.append_assoc]
  refine ⟨fun j => (later j).2, fun mid _ => ?_, fun j mid _ => ?_⟩
  · have departed := left.foldl_happen mid
    exact departed.recalls.judgesFrom departed.idle.aware
  · have departed := (later j).1.begun.foldl_happen mid
    exact departed.recalls.judgesFrom departed.idle.aware

end Start

end Steps

/-- The fourth crashes. The first is restarted at once, so it does not wait for the fourth yet when
it leaves, and the second leaves after that. -/
def twoDepartures : Scenario :=
  { Scenario.standard with
    members := [1, 2, 3, 4]
    heartbeatInterval := 1, heartbeatTimeout := 2, step := 1, duration := 4
    events := [⟨1, 4, .crash⟩, ⟨1, 1, .crash⟩, ⟨1, 1, .restart⟩, ⟨3, 1, .leave⟩, ⟨4, 2, .leave⟩] }

/-- The second and the third suspect the fourth: two of three once the first has left, and one of
two once the second has. -/
theorem first_notes_two_farewells :
    let run := after (CipherDraws.ofSeed 0) twoDepartures
    (run 2).due = [] ++ ⟨3, 1, .leave⟩ :: [] ∧
      (run 4).seen 1 = (run 2).begun.seen 1 ++ farewells 1 (run 2).begun [⟨3, 1, .leave⟩] ++
        farewells 1 (run 3).begun [⟨4, 2, .leave⟩] ∧
      farewells 1 (run 2).begun [⟨3, 1, .leave⟩] = [⟨3, 1, .failed 4⟩] ∧
      farewells 1 (run 3).begun [⟨4, 2, .leave⟩] = [⟨4, 1, .alive 4⟩] := by
  intro run
  have played : (run 2).due = [⟨3, 1, .leave⟩] ∧ (run 3).due = [⟨4, 2, .leave⟩] ∧
      farewells 1 (run 2).begun [⟨3, 1, .leave⟩] = [⟨3, 1, .failed 4⟩] ∧
      farewells 1 (run 3).begun [⟨4, 2, .leave⟩] = [⟨4, 1, .alive 4⟩] := by decide +kernel
  obtain ⟨departs, due, first, second⟩ := played
  have split : (run 2).due = [] ++ ⟨3, 1, .leave⟩ :: [] := departs
  have notes := (notes_only_farewells (CipherDraws.ofSeed 0) twoDepartures split ⟨rfl, rfl⟩).1 1
  refine ⟨split, ?_, first, second⟩
  rw [← due]
  simpa using notes

/-- The first notes something although it has left. -/
theorem first_not_silent_after_leaving :
    let run := after (CipherDraws.ofSeed 0) twoDepartures
    twoDepartures.error? = none ∧
      ¬ ∀ k past e future x, (run k).due = past ++ e :: future → e.Leaves x →
        ∀ j, (run (k + 1 + j)).seen x = (past.foldl happen (run k).begun).seen x := by
  refine ⟨rfl, fun silent => ?_⟩
  have quiet := silent 2 [] ⟨3, 1, .leave⟩ [] 1 (by decide +kernel) ⟨rfl, rfl⟩ 0
  revert quiet
  decide +kernel

end Simulation
end Vigil
