import Vigil.Proofs.Simulation.Ticks

/-!
What an event does to a cluster at rest. A crash takes away one node and changes no other, a restart
puts a new node in the place of one that is gone, and when a member leaves the others forget it and
its own node retires. So every node that there is after an event has one of three origins
(`origin_of_happen`), and the cluster stays at rest (`Steady.happen`).
-/

namespace Vigil
namespace Simulation

variable {γ : Type} {s : Simulation γ} {r o q x y : InstanceId} {n : Node} {k : TimerKey} {d : Nat}
  {e : ScheduledEvent}

/-- The cluster is in order, nothing is under way, and no clock is ahead. -/
structure Steady (s : Simulation γ) : Prop where
  order : s.InOrder
  quiet : s.Quiet
  clock : s.OnTime

/-! ### Which nodes there are -/

theorem get?_startNode (s : Simulation γ) (x r : InstanceId) :
    (s.startNode x).nodes.get? r =
      if r = x then some (Node.start x s.members s.scenario.timing s.now).join.node
      else s.nodes.get? r :=
  SortedMap.get?_insert _ _ _ _

theorem get?_settleAll (f : Node → NodeOutcome) (l : List (InstanceId × Node)) (s : Simulation γ)
    (keys : (l.map Prod.fst).Nodup) (r : InstanceId) :
    (l.foldl (fun s p => s.settleNode p.1 (f p.2)) s).nodes.get? r =
      ((SortedMap.lookup r l).map fun n => (f n).node).or (s.nodes.get? r) := by
  induction l generalizing s with
  | nil => rfl
  | cons p l ih =>
      obtain ⟨q, n⟩ := p
      rw [List.map_cons, List.nodup_cons] at keys
      rw [List.foldl_cons, ih _ keys.2]
      have first : (s.settleNode q (f n)).nodes.get? r =
          if r = q then some (f n).node else s.nodes.get? r := SortedMap.get?_insert _ _ _ _
      rw [first, SortedMap.lookup]
      by_cases hq : q = r
      · subst hq
        simp [SortedMap.lookup_eq_none keys.1]
      · simp [hq, Ne.symm hq]

theorem get?_forgetMember (s : Simulation γ) (x r : InstanceId) :
    (s.forgetMember x).nodes.get? r = (s.nodes.get? r).map fun n => (n.forget x).1.node := by
  have keys : (s.nodes.toList.map Prod.fst).Nodup := s.nodes.keys.nodup
  have all := get?_settleAll (fun n => (n.forget x).1) s.nodes.toList s keys r
  refine all.trans ?_
  change ((s.nodes.get? r).map _).or (s.nodes.get? r) = _
  cases s.nodes.get? r <;> rfl

theorem forgetMember_fields (s : Simulation γ) (x : InstanceId) :
    (s.forgetMember x).members = s.members ∧ (s.forgetMember x).agenda = s.agenda ∧
      (s.forgetMember x).network = s.network := by
  unfold forgetMember
  generalize s.nodes.toList = l
  induction l generalizing s with
  | nil => exact ⟨rfl, rfl, rfl⟩
  | cons p l ih => exact ih _

theorem happen_fields (s : Simulation γ) (e : ScheduledEvent) :
    (s.happen e).agenda = s.agenda ∧ (s.happen e).network = s.network := by
  unfold happen
  split
  · exact ⟨rfl, rfl⟩
  · split <;> exact ⟨rfl, rfl⟩
  · rw [(forgetMember_fields _ _).2.1, (forgetMember_fields _ _).2.2]
    cases s.nodes.get? e.subject <;> exact ⟨rfl, rfl⟩

theorem now_happen (s : Simulation γ) (e : ScheduledEvent) : (s.happen e).now = s.now :=
  congrArg Prod.snd (s.frame_happen e)

theorem scenario_happen (s : Simulation γ) (e : ScheduledEvent) :
    (s.happen e).scenario = s.scenario :=
  congrArg Prod.fst (s.frame_happen e)

section Crash

variable (h : e.action = .crash)
include h

theorem happen_crash : s.happen e = { s with nodes := s.nodes.erase e.subject } := by
  simp [happen, h]

theorem get?_crash :
    (s.happen e).nodes.get? r = if r = e.subject then none else s.nodes.get? r := by
  rw [happen_crash h]
  exact SortedMap.get?_erase _ _ _

end Crash

section Restart

variable (h : e.action = .restart)
include h

theorem happen_restart :
    s.happen e = if e.subject ∉ s.nodes.keys ∧ e.subject ∈ s.members then s.startNode e.subject
      else s := by
  have absent : s.nodes.contains e.subject = decide (e.subject ∈ s.nodes.keys) := by
    rw [SortedMap.contains, Bool.eq_iff_iff, decide_eq_true_eq, SortedMap.mem_keys_iff,
      Option.isSome_iff_exists]
  simp [happen, h, absent]

end Restart

section Leave

/-- `x` says that it leaves, if it runs. -/
def takeLeave (s : Simulation γ) (x : InstanceId) : Simulation γ :=
  match s.nodes.get? x with
  | some node => s.settleNode x node.leave
  | none => s

theorem get?_takeLeave (s : Simulation γ) (x r : InstanceId) :
    (s.takeLeave x).nodes.get? r =
      (s.nodes.get? r).map fun n => if r = x then n.leave.node else n := by
  unfold takeLeave
  split
  · rename_i n hn
    refine (SortedMap.get?_insert _ _ _ _).trans ?_
    by_cases hr : r = x
    · simp [hr, hn]
    · simp [hr]
  · rename_i absent
    by_cases hr : r = x
    · simp [hr, absent]
    · simp [hr]

variable (h : e.action = .leave)
include h

/-- The one that leaves says so, and everybody forgets it. -/
theorem happen_leave :
    s.happen e =
      { s.takeLeave e.subject with
        members := s.members.filter (· != e.subject) }.forgetMember e.subject := by
  simp only [happen, h, takeLeave]
  cases s.nodes.get? e.subject <;> rfl

theorem members_leave : (s.happen e).members = s.members.filter (· != e.subject) := by
  rw [happen_leave h]
  exact (forgetMember_fields _ _).1

theorem group_leave : (s.happen e).group = s.group.filter (· != e.subject) := by
  rw [group, members_leave h, Cluster.seen_filter]
  rfl

theorem mem_group_leave : x ∈ (s.happen e).group ↔ x ∈ s.group ∧ x ≠ e.subject := by
  rw [group_leave h, List.mem_filter, bne_iff_ne]

theorem get?_leave :
    (s.happen e).nodes.get? r =
      (s.nodes.get? r).map fun n =>
        ((if r = e.subject then n.leave.node else n).forget e.subject).1.node := by
  rw [happen_leave h, get?_forgetMember]
  change ((s.takeLeave e.subject).nodes.get? r).map _ = _
  rw [get?_takeLeave, Option.map_map]
  rfl

theorem exists_of_get?_leave {n' : Node} (hn' : (s.happen e).nodes.get? r = some n') :
    ∃ n, s.nodes.get? r = some n ∧
      ((if r = e.subject then n.leave.node else n).forget e.subject).1.node = n' :=
  Option.map_eq_some_iff.mp ((get?_leave h).symm.trans hn')

end Leave

theorem members_happen (stays : e.action ≠ .leave) : (s.happen e).members = s.members := by
  cases he : e.action with
  | crash => rw [happen_crash he]
  | restart =>
      rw [happen_restart he]
      split <;> rfl
  | leave => exact absurd he stays

theorem group_happen (stays : e.action ≠ .leave) : (s.happen e).group = s.group :=
  congrArg Cluster.seen (members_happen stays)

theorem mem_group_of_happen (h : x ∈ (s.happen e).group) : x ∈ s.group := by
  by_cases he : e.action = .leave
  · exact ((mem_group_leave he).mp h).1
  · rwa [group_happen he] at h

/-- Where the node of `r` comes from that there is after an event. -/
inductive Origin (s : Simulation γ) (e : ScheduledEvent) (r : InstanceId) : Node → Prop
  /-- The event has passed it by. -/
  | spared {n : Node} : s.nodes.get? r = some n → e.action ≠ .leave →
      (e.action = .crash → r ≠ e.subject) → Origin s e r n
  /-- There was none, and a member has been started. -/
  | started : e.action = .restart → r = e.subject → r ∉ s.nodes.keys → r ∈ s.members →
      Origin s e r (Node.start r s.members s.scenario.timing s.now).join.node
  /-- It has forgotten whoever has left, which may have been its own instance. -/
  | parted {n : Node} : e.action = .leave → s.nodes.get? r = some n →
      Origin s e r ((if r = e.subject then n.leave.node else n).forget e.subject).1.node

theorem origin_of_happen {n' : Node} (hn' : (s.happen e).nodes.get? r = some n') :
    s.Origin e r n' := by
  cases he : e.action with
  | crash =>
      rw [get?_crash he] at hn'
      split at hn'
      · cases hn'
      · rename_i other
        exact .spared hn' (by simp [he]) fun _ => other
  | restart =>
      have spared (hn : s.nodes.get? r = some n') : s.Origin e r n' :=
        .spared hn (by simp [he]) (by simp [he])
      rw [happen_restart he] at hn'
      split at hn'
      · rename_i starts
        rw [get?_startNode] at hn'
        split at hn'
        · rename_i same
          cases hn'
          rw [← same] at starts ⊢
          exact .started he same starts.1 starts.2
        · exact spared hn'
      · exact spared hn'
  | leave =>
      obtain ⟨n, hn, rfl⟩ := exists_of_get?_leave he hn'
      exact .parted he hn

/-! ### At rest -/

theorem Steady.startNode (h : s.Steady) (hx : x ∈ s.members) : (s.startNode x).Steady := by
  have attends := Node.attends_join x s.members s.scenario.timing s.now hx
  have member : x ∈ s.group := Cluster.mem_seen.mpr hx
  have cases {r : InstanceId} {n : Node} (hn : (s.startNode x).nodes.get? r = some n) :
      r = x ∧ n = (Node.start x s.members s.scenario.timing s.now).join.node ∨
        s.nodes.get? r = some n := by
    rw [get?_startNode] at hn
    split at hn
    · exact .inl ⟨‹_›, (Option.some.inj hn).symm⟩
    · exact .inr hn
  refine ⟨⟨fun r n hn hr => ?_, fun r n hn e he => ?_, fun r n hn hr => ?_⟩,
    ⟨fun r n hn => ?_, fun r n hn e he => ?_⟩, fun r n hn => ?_⟩
  · rcases cases hn with ⟨rfl, rfl⟩ | hn
    · exact attends
    · exact h.order.attends r n hn hr
  · rcases cases hn with ⟨rfl, rfl⟩ | hn
    · exact absurd he List.not_mem_nil
    · exact h.order.awaited r n hn e he
  · rcases cases hn with ⟨rfl, rfl⟩ | hn
    · exact absurd member hr
    · exact h.order.retired r n hn hr
  · rcases cases hn with ⟨rfl, rfl⟩ | hn
    · rfl
    · exact h.quiet.carried r n hn
  · rcases cases hn with ⟨rfl, rfl⟩ | hn
    · exact absurd he List.not_mem_nil
    · exact h.quiet.handled r n hn e he
  · rcases cases hn with ⟨rfl, rfl⟩ | hn
    · obtain ⟨now, delay⟩ := Node.clock_join r s.members s.scenario.timing s.now
      exact ⟨Nat.le_of_eq now, delay⟩
    · exact h.clock r n hn

theorem Steady.crash (h : s.Steady) (he : e.action = .crash) : (s.happen e).Steady := by
  have kept {r : InstanceId} {n : Node} (hn : (s.happen e).nodes.get? r = some n) :
      s.nodes.get? r = some n := by
    rw [get?_crash he] at hn
    split at hn
    · cases hn
    · exact hn
  have members : (s.happen e).group = s.group := by rw [happen_crash he]; rfl
  refine ⟨⟨fun r n hn hr => ?_, fun r n hn => ?_, fun r n hn hr => ?_⟩,
    ⟨fun r n hn => h.quiet.carried r n (kept hn), fun r n hn => h.quiet.handled r n (kept hn)⟩,
    fun r n hn => ?_⟩
  · rw [members] at hr ⊢
    exact h.order.attends r n (kept hn) hr
  · rw [members]
    exact h.order.awaited r n (kept hn)
  · rw [members] at hr
    exact h.order.retired r n (kept hn) hr
  · rw [now_happen, scenario_happen]
    exact h.clock r n (kept hn)

/-- Whoever leaves a cluster at rest retires, unless it has left before. -/
theorem Steady.retired_leave (h : s.Steady) (hn : s.nodes.get? r = some n) :
    n.leave.node.Retired := by
  obtain ⟨unread, unsent⟩ := h.quiet.node hn
  by_cases hr : r ∈ s.group
  · exact (h.order.attends r n hn hr).leave unread unsent
  · exact (h.order.retired r n hn hr).leave

section Leave

variable (h : s.Steady) (he : e.action = .leave)
include h he

theorem Steady.quiet_leave : (s.happen e).Quiet := by
  have still (r : InstanceId) (n' : Node) (hn' : (s.happen e).nodes.get? r = some n') :
      n'.inbox = ∅ ∧ n'.outbox = ∅ := by
    obtain ⟨n, hn, rfl⟩ := exists_of_get?_leave he hn'
    rw [Node.inbox_forget, Node.outbox_forget]
    split
    · have retired := h.retired_leave hn
      exact ⟨retired.unread, retired.unsent⟩
    · exact h.quiet.node hn
  refine ⟨fun r n' hn' => (still r n' hn').2, fun r n' hn' e' he' => ?_⟩
  rw [(still r n' hn').1] at he'
  exact absurd he' List.not_mem_nil

theorem Steady.inOrder_leave : (s.happen e).InOrder := by
  have quiet := h.quiet_leave he
  refine ⟨fun r n' hn' hr => ?_, fun r n' hn' e' he' => absurd he' (quiet.handled r n' hn' e'),
    fun r n' hn' hr => ?_⟩
  · rw [mem_group_leave he] at hr
    obtain ⟨n, hn, rfl⟩ := exists_of_get?_leave he hn'
    rw [group_leave he, if_neg hr.2]
    exact (h.order.attends r n hn hr.1).forget hr.2 (h.quiet.node hn).2
  · rw [mem_group_leave he] at hr
    obtain ⟨n, hn, rfl⟩ := exists_of_get?_leave he hn'
    split
    · exact (h.retired_leave hn).forget _
    · rename_i other
      exact (h.order.retired r n hn fun hg => hr ⟨hg, other⟩).forget _

theorem Steady.onTime_leave : (s.happen e).OnTime := by
  intro r n' hn'
  obtain ⟨n, hn, rfl⟩ := exists_of_get?_leave he hn'
  obtain ⟨same_now, same_delay⟩ :=
    Node.clock_forget (if r = e.subject then n.leave.node else n) e.subject
  rw [now_happen, scenario_happen, same_now, same_delay]
  split
  · obtain ⟨leave_now, leave_delay⟩ := Node.clock_leave n
    rw [leave_now, leave_delay]
    exact h.clock r n hn
  · exact h.clock r n hn

theorem Steady.leave : (s.happen e).Steady :=
  ⟨h.inOrder_leave he, h.quiet_leave he, h.onTime_leave he⟩

end Leave

/-- Events find the cluster at rest and leave it at rest. -/
theorem Steady.happen (h : s.Steady) (e : ScheduledEvent) : (s.happen e).Steady := by
  cases he : e.action with
  | crash => exact h.crash he
  | leave => exact h.leave he
  | restart =>
      rw [happen_restart he]
      split
      · rename_i hc
        exact h.startNode hc.2
      · exact h

theorem Steady.round [DrawSource γ] (h : s.Steady) : s.round.Steady :=
  ⟨h.order.round h.quiet, h.quiet.round h.order, h.clock.round h.order h.quiet⟩

/-! ### What is known and what is waited for -/

section Leave

variable (h : s.Steady) (he : e.action = .leave) (hr : r ∈ s.group) (hne : r ≠ e.subject)
include h he hr hne

theorem mem_reportAt_leave :
    y ∈ (s.happen e).reportAt r q ↔ y ∈ s.reportAt r q ∧ q ≠ e.subject ∧ y ≠ e.subject := by
  unfold reportAt
  rw [get?_leave he]
  cases hn : s.nodes.get? r with
  | none => simp
  | some n =>
      rw [Option.map_some, if_neg hne]
      exact Node.mem_reportOf_forget (h.order.attends r n hn hr).watches.informed

theorem pending_leave (hk : k.peer ≠ e.subject) :
    (s.happen e).Pending r k d ↔ s.Pending r k d := by
  unfold Pending
  rw [get?_leave he]
  cases hn : s.nodes.get? r with
  | none => simp
  | some n =>
      rw [Option.map_some, if_neg hne]
      have same := Node.deadline?_forget (h.order.attends r n hn hr) hk
      simp [same]

end Leave

/-- Events make nobody suspect anybody. -/
theorem Trusted.happen (ht : s.Trusted o) (h : s.Steady) (e : ScheduledEvent) :
    (s.happen e).Trusted o := by
  have quiet := (h.happen e).quiet
  refine ⟨fun r hr n' hn' => ?_, fun r n hn e' he' => absurd he' (quiet.handled r n hn e')⟩
  have hr := mem_group_of_happen hr
  cases origin_of_happen hn' with
  | spared hn => exact ht.trusts r hr n' hn
  | started =>
      intro q hq
      rw [Node.reportOf_join] at hq
      exact absurd hq (SortedSet.not_mem_empty o)
  | @parted n _ hn =>
      intro q hq
      have before := Node.mem_reportOf_of_forget hq
      split at before
      · exact ht.trusts r hr n hn q (Node.mem_reportOf_of_leave before)
      · exact ht.trusts r hr n hn q before

end Simulation
end Vigil
