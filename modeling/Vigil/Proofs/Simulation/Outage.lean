import Vigil.Proofs.Simulation.Alarms
import Vigil.Proofs.Simulation.Calm
import Vigil.Proofs.Simulation.Detection
import Vigil.Proofs.Simulation.Log
import Vigil.Simulation.Report

/-!
An outage: one member crashes and is restarted, and nothing else happens. From the step in which its
silence shows (`shownIn`) until its first heartbeat after the restart (`backIn`) all others fail it,
and before and after that nobody does (`Outage.mem_failedAt`). So they note two transitions each, or
none if it is back before its silence shows (`outage_noted`).
-/

namespace Vigil
namespace Simulation

variable {γ : Type} [DrawSource γ] {draws : γ} {sc : Scenario} {s : Simulation γ}
  {q o x y : InstanceId} {a b i j k m : Nat} {e : ScheduledEvent}

/-- In step `i + 1` the member `x` crashes, in step `j + 1` it is restarted, and nothing else
happens. -/
structure Outage (draws : γ) (sc : Scenario) (i j : Nat) (x : InstanceId) : Prop where
  reliable : sc.Reliable
  member : x ∈ sc.members
  order : i ≤ j
  schedule : ∃ a b, ∀ k, (after draws sc k).due =
    (if k = i then [⟨a, x, .crash⟩] else []) ++ if k = j then [⟨b, x, .restart⟩] else []

/-- The step in which the first heartbeat comes of an instance that is restarted in step `j + 1`. -/
def backIn (sc : Scenario) (j : Nat) : Nat := j + 1 + sc.beat / sc.step

section Steps

omit [DrawSource γ]

theorem backIn_mul : backIn sc j * sc.step = (j + 1) * sc.step + sc.beat := by
  have whole : sc.step ∣ sc.beat := Scenario.dvd_nextStep
  rw [backIn, Nat.add_mul, Nat.div_mul_cancel whole]

theorem lt_backIn_iff (hs : 0 < sc.step) :
    k < backIn sc j ↔ k * sc.step < (j + 1) * sc.step + sc.heartbeatInterval := by
  have whole : sc.step ∣ k * sc.step := Nat.dvd_mul_left _ _
  have next := Scenario.nextStep_add (t := sc.heartbeatInterval) hs (Nat.dvd_mul_left sc.step (j + 1))
  have late := Scenario.nextStep_le_iff (t := (j + 1) * sc.step + sc.heartbeatInterval) hs whole
  rw [next] at late
  rw [← Nat.not_le, ← Nat.not_le, ← late, ← Nat.mul_le_mul_right_iff hs, backIn_mul]
  rfl

theorem shownIn_le_iff (hs : 0 < sc.step) :
    shownIn sc i ≤ k ↔ sc.detection ((i + 1) * sc.step) ≤ k * sc.step := by
  rw [← shownIn_mul, Nat.mul_le_mul_right_iff hs]

theorem lt_shownIn (h : sc.Reliable) : i + 1 < shownIn sc i := by
  have late := h.lt_detection_of_dvd (Nat.dvd_mul_left sc.step (i + 1))
  rw [← shownIn_mul] at late
  exact Nat.lt_of_mul_lt_mul_right late

theorem lt_backIn (h : sc.Reliable) : j + 1 < backIn sc j := by
  rw [lt_backIn_iff h.step_pos]
  exact Nat.lt_add_of_pos_right h.interval_pos

end Steps

theorem outage_of_events (h : sc.Reliable)
    (events : orderBy ScheduledEvent.time sc.events = [⟨a, x, .crash⟩, ⟨b, x, .restart⟩]) :
    Outage draws sc (sc.stepsBefore a) (sc.stepsBefore b) x := by
  have order := orderBy_ordered ScheduledEvent.time sc.events
  have perm := orderBy_perm ScheduledEvent.time sc.events
  rw [events] at order perm
  refine ⟨h, ?_, ?_, a, b, fun k => ?_⟩
  · exact Scenario.subject_mem_of_valid h.valid (perm.mem_iff.mp (List.mem_cons_self ..))
  · have le : a ≤ b := (List.pairwise_cons.mp order).1 _ (List.mem_singleton.mpr rfl)
    exact Nat.div_le_div_right (Nat.sub_le_sub_right le 1)
  · rw [due_after draws sc h.step_pos, events]
    simp only [eq_comm (a := k)]
    by_cases ha : sc.stepsBefore a = k <;> by_cases hb : sc.stepsBefore b = k <;> simp [ha, hb]

namespace Outage

variable (out : Outage draws sc i j x)
include out

/-! ### Who runs when -/

theorem mem_due (he : e ∈ (after draws sc k).due) :
    e.subject = x ∧ (e.action = .crash ∧ k = i ∨ e.action = .restart ∧ k = j) := by
  obtain ⟨a, b, due⟩ := out.schedule
  rw [due, List.mem_append] at he
  rcases he with he | he
  · split at he
    · cases List.mem_singleton.mp he
      exact ⟨rfl, .inl ⟨rfl, ‹_›⟩⟩
    · cases he
  · split at he
    · cases List.mem_singleton.mp he
      exact ⟨rfl, .inr ⟨rfl, ‹_›⟩⟩
    · cases he

theorem stays (he : e ∈ (after draws sc k).due) : e.action ≠ .leave := by
  rcases (out.mem_due he).2 with ⟨crash, -⟩ | ⟨restart, -⟩
  · simp [crash]
  · simp [restart]

theorem due_eq_nil (hi : k ≠ i) (hj : k ≠ j) : (after draws sc k).due = [] := by
  refine List.eq_nil_iff_forall_not_mem.mpr fun e he => ?_
  rcases (out.mem_due he).2 with ⟨-, now⟩ | ⟨-, now⟩
  · exact hi now
  · exact hj now

theorem calm (k : Nat) : ∀ m, j + 1 ≤ m → m < k → (after draws sc m).due = [] := by
  intro m hm _
  have order := out.order
  exact out.due_eq_nil (by omega) (by omega)

theorem lasts (other : q ≠ x) (k : Nat) : Lasts draws sc k q :=
  fun _ _ _ he crashes => other (crashes.2.symm.trans (out.mem_due he).1)

theorem lasts_until (hk : k ≤ i) : Lasts draws sc k x := by
  intro m hm e he crashes
  rcases (out.mem_due he).2 with ⟨-, now⟩ | ⟨restart, -⟩
  · omega
  · cases crashes.1.symm.trans restart

theorem mem_group (k : Nat) : q ∈ (after draws sc k).group ↔ q ∈ sc.members := by
  rw [Simulation.mem_group, mem_members_after, and_iff_left]
  rintro ⟨m, -, e, he, leaves⟩
  exact out.stays he leaves.1

theorem mem_group_struck (k : Nat) : q ∈ (after draws sc k).struck.group ↔ q ∈ sc.members := by
  rw [← group_advance (steady_after draws sc k), ← after_succ]
  exact out.mem_group (k + 1)

theorem gone (hi : i < k) (hk : k ≤ j) : x ∉ (after draws sc k).nodes.keys := by
  induction k, hi using Nat.le_induction with
  | base =>
      obtain ⟨a, b, due⟩ := out.schedule
      rw [mem_keys_after_succ, struck, due, if_pos rfl, if_neg (Nat.ne_of_lt hk), SortedMap.mem_keys_iff]
      rintro ⟨n, hn⟩
      have crashed := get?_crash (s := (after draws sc i).begun) (e := ⟨a, x, .crash⟩) (r := x) rfl
      rw [if_pos rfl] at crashed
      cases crashed.symm.trans hn
  | succ k hi ih =>
      have nothing := out.due_eq_nil (Nat.ne_of_gt hi) (Nat.ne_of_lt hk)
      rw [mem_keys_after_succ, struck_of_due_nil nothing]
      exact ih (Nat.le_of_succ_le hk)

omit out [DrawSource γ] in
theorem mem_keys_restart (he : e.action = .restart) (hx : e.subject ∈ s.members) :
    e.subject ∈ (s.happen e).nodes.keys := by
  rw [happen_restart he]
  by_cases running : e.subject ∈ s.nodes.keys
  · rw [if_neg fun h => h.1 running]
    exact running
  · rw [if_pos ⟨running, hx⟩, SortedMap.mem_keys_iff, get?_startNode, if_pos rfl]
    exact ⟨_, rfl⟩

theorem running_struck : x ∈ (after draws sc j).struck.nodes.keys := by
  obtain ⟨a, b, due⟩ := out.schedule
  rw [struck, due, if_pos rfl, List.foldl_append]
  refine mem_keys_restart (e := ⟨b, x, .restart⟩) rfl ((mem_members_foldl_happen _ _).mpr ⟨?_, ?_⟩)
  · exact Simulation.mem_group.mp ((out.mem_group j).mpr out.member)
  · intro e he leaves
    split at he
    · cases List.mem_singleton.mp he
      cases leaves.1
    · cases he

theorem running (hk : j < k) (hq : q ∈ sc.members) : q ∈ (after draws sc k).nodes.keys := by
  by_cases other : q = x
  · rw [(same_of_calm hk (out.calm k)).2, mem_keys_after_succ, other]
    exact out.running_struck
  · exact (out.lasts other k).running hq

theorem starts (hk : (j + 1) * sc.step < sc.duration + sc.step) :
    (after draws sc j).struck.Starts x := by
  have hx := (out.mem_group_struck j).mpr out.member
  rcases struck_cases (steady_after draws sc j) (ready_struck out.reliable hk).fits
    out.running_struck hx with ⟨same, spared⟩ | ⟨starts, -⟩
  · rcases Nat.lt_or_eq_of_le out.order with before | rfl
    · exact absurd same.running (out.gone before (Nat.le_refl j))
    · obtain ⟨a, b, due⟩ := out.schedule
      rw [due, if_pos rfl] at spared
      exact absurd ⟨rfl, rfl⟩ (spared ⟨a, x, .crash⟩ (List.mem_cons_self ..))
  · exact starts

/-! ### Heartbeats -/

/-- The first heartbeat after the restart is due one interval later. -/
theorem pending (hj : j < k) (hk : k * sc.step < sc.duration + sc.step) (back : k < backIn sc j)
    (hq : q ∈ sc.members) (other : q ≠ x) :
    (after draws sc k).Pending x (.send q) ((j + 1) * sc.step + sc.heartbeatInterval) := by
  induction k, hj using Nat.le_induction with
  | base =>
      have hx := (out.mem_group_struck j).mpr out.member
      have hq := (out.mem_group_struck j).mpr hq
      have starts := (out.starts hk).pending (.send q) hq other
      rw [now_struck_eq, scenario_struck_eq] at starts
      rw [after_succ, advance_eq_round]
      refine (ready_struck out.reliable hk).pending_still (k := .send q) hx out.running_struck hq
        starts ?_ fun ⟨_, hx, _⟩ => TimerKey.noConfusion hx
      rw [now_struck_eq]
      exact Nat.lt_add_of_pos_right out.reliable.interval_pos
  | succ k hj ih =>
      have before := ih (lt_of_succ hk) (Nat.lt_of_succ_lt back)
      have nothing := out.calm (k + 1) k hj (Nat.lt_succ_self k)
      have still : (after draws sc k).struck.Pending x (.send q)
          ((j + 1) * sc.step + sc.heartbeatInterval) := by
        rw [struck_of_due_nil nothing]
        exact before
      rw [after_succ, advance_eq_round]
      refine (ready_struck out.reliable hk).pending_still (k := .send q)
        ((out.mem_group_struck k).mpr out.member) (running_of_pending still)
        ((out.mem_group_struck k).mpr hq) still ?_ fun ⟨_, hx, _⟩ => TimerKey.noConfusion hx
      rw [now_struck_eq]
      exact (lt_backIn_iff out.reliable.step_pos).mp back

/-- From the crash until it is back `x` sends no heartbeats. -/
theorem mute (hm : i ≤ m) (hk : (m + 1) * sc.step < sc.duration + sc.step)
    (back : m + 1 < backIn sc j) : ¬ (after draws sc m).struck.Due x (.send q) := by
  rintro ⟨d, pending, late⟩
  have ready : (after draws sc m).struck.Ready := ready_struck out.reliable hk
  have hx := (out.mem_group_struck m).mpr out.member
  obtain ⟨hq, other⟩ := peer_of_pending ready.steady.order hx pending
  rw [now_struck_eq] at late
  -- `x` is not running, or starts just now, or has its first heartbeat still to send.
  rcases Nat.lt_trichotomy m j with before | rfl | later
  · exact out.gone (Nat.lt_succ_of_le hm) before
      (mem_keys_after_succ.mpr (running_of_pending pending))
  · have starts := (out.starts hk).pending (.send q) hq other
    have pos := out.reliable.interval_pos
    obtain rfl := starts.unique pending
    rw [now_struck_eq, scenario_struck_eq] at late
    exact Nat.not_le_of_lt (Nat.lt_add_of_pos_right pos) late
  · have nothing := out.calm (m + 1) m later (Nat.lt_succ_self m)
    have still := out.pending later (lt_of_succ hk) (Nat.lt_of_succ_lt back)
      ((out.mem_group_struck m).mp hq) other
    rw [struck_of_due_nil nothing] at pending
    obtain rfl := still.unique pending
    exact Nat.not_le_of_lt ((lt_backIn_iff out.reliable.step_pos).mp back) late

/-! ### Who is failed -/

/-- The others suspect `x` from the step in which its silence shows until it is back. -/
theorem mem_own (hk : k * sc.step < sc.duration + sc.step) (hq : q ∈ sc.members) (other : q ≠ x) :
    x ∈ (after draws sc k).reportAt q q ↔ shownIn sc i ≤ k ∧ k < backIn sc j := by
  have hx := (out.mem_group k).mpr out.member
  have hq := (out.mem_group k).mpr hq
  have pos := out.reliable.step_pos
  -- Until the crash `x` is heard in time, then its silence counts, and once it is back all is calm.
  by_cases back : k < backIn sc j
  · rw [and_iff_left back]
    rcases Nat.lt_or_ge k i with early | late
    · have trusted := trusted_after out.reliable (out.lasts_until (Nat.le_of_lt early)) hk hx
      obtain ⟨n, hn⟩ := SortedMap.mem_keys_iff.mp
        ((out.lasts other k).running (mem_members_of_mem_group hq))
      have shown := lt_shownIn (i := i) out.reliable
      rw [reportAt_eq hn]
      exact iff_of_false (trusted.trusts q hq n hn q) (by omega)
    · have silence := silence_after out.reliable (out.lasts_until (Nat.le_refl i))
        (out.lasts other k) late hk hx hq other fun m hm hmk => ?_
      · rw [shownIn_le_iff pos]
        split at silence
        · exact iff_of_true silence ‹_›
        · exact iff_of_false silence.1 ‹_›
      · exact out.mute hm (Nat.lt_of_le_of_lt (Nat.mul_le_mul_right _ hmk) hk)
          (Nat.lt_of_le_of_lt hmk back)
  · have later : j + 1 ≤ k := by
      have back' := lt_backIn (j := j) out.reliable
      omega
    rw [lt_backIn_iff pos, Nat.not_lt] at back
    refine iff_of_false (own_of_calm out.reliable later (out.calm k) hk back (fun y hy => ?_) hq) ?_
    · exact out.running (Nat.lt_succ_self j) ((out.mem_group k).mp hy)
    · rw [lt_backIn_iff pos]
      omega

/-- The others know of each other that they do. -/
theorem mem_reportAt (hk : k * sc.step < sc.duration + sc.step) (ho : o ∈ sc.members)
    (other : o ≠ x) (hq : q ∈ sc.members) :
    x ∈ (after draws sc k).reportAt o q ↔ q ≠ x ∧ shownIn sc i ≤ k ∧ k < backIn sc j := by
  have hx := (out.mem_group k).mpr out.member
  have own (m : Nat) : x ∉ (after draws sc m).reportAt x x := fun suspects =>
    (steady_after draws sc m).order.ne_of_mem_reportAt ((out.mem_group m).mpr out.member) suspects rfl
  have honest : ∀ m < k, ¬ (after draws sc m).CrashesSuspecting q x := by
    rintro m - ⟨suspects, e, he, crashes⟩
    have same : q = x := crashes.2.symm.trans (out.mem_due he).1
    exact own m (same ▸ suspects)
  rw [told_after out.reliable (out.lasts other k) hk ((out.mem_group k).mpr ho)
    ((out.mem_group k).mpr hq) hx honest]
  by_cases same : q = x
  · rw [same]
    exact iff_of_false (own k) fun h => h.1 rfl
  · rw [out.mem_own hk hq same, and_iff_right same]

omit out [DrawSource γ] in
theorem not_mem_failedAt_self (h : s.InOrder) (ho : o ∈ s.group) : o ∉ s.failedAt o := by
  intro failed
  cases hn : s.nodes.get? o with
  | none =>
      rw [failedAt_of_absent hn] at failed
      exact SortedSet.not_mem_empty o failed
  | some n =>
      rw [failedAt_eq hn] at failed
      obtain ⟨-, majority⟩ := (h.mem_failed_iff hn ho).mp failed
      have accused : 0 < (s.accusersAt o o).card := by omega
      obtain ⟨r, hr⟩ := Finset.card_pos.mp accused
      exact h.ne_of_mem_reportAt ho (Finset.mem_filter.mp hr).2 rfl

theorem accusersAt_eq (hk : k * sc.step < sc.duration + sc.step) (ho : o ∈ sc.members)
    (other : o ≠ x) :
    (after draws sc k).accusersAt o x =
      if shownIn sc i ≤ k ∧ k < backIn sc j then sc.members.toFinset.erase x else ∅ := by
  ext q
  have member : q ∈ (after draws sc k).memberSet ↔ q ∈ sc.members := by
    rw [mem_memberSet, ← Simulation.mem_group, out.mem_group]
  rw [accusersAt, Finset.mem_filter, member]
  split
  · rw [Finset.mem_erase, List.mem_toFinset]
    constructor
    · intro h
      exact ⟨((out.mem_reportAt hk ho other h.1).mp h.2).1, h.1⟩
    · intro h
      exact ⟨h.2, (out.mem_reportAt hk ho other h.2).mpr ⟨h.1, ‹_›⟩⟩
  · refine iff_of_false (fun h => ?_) (Finset.notMem_empty q)
    exact absurd ((out.mem_reportAt hk ho other h.1).mp h.2).2 ‹_›

/-- All others fail `x` from the step in which its silence shows until it is back; they are more than
half of at least three members. -/
theorem mem_failedAt (three : 3 ≤ sc.members.toFinset.card)
    (hk : k * sc.step < sc.duration + sc.step) :
    x ∈ (after draws sc k).failedAt o ↔
      (o ∈ sc.members ∧ o ≠ x) ∧ shownIn sc i ≤ k ∧ k < backIn sc j := by
  have order := (steady_after draws sc k).order
  by_cases observes : o ∈ sc.members ∧ o ≠ x
  · obtain ⟨ho, other⟩ := observes
    obtain ⟨n, hn⟩ := SortedMap.mem_keys_iff.mp ((out.lasts other k).running ho)
    have members : (after draws sc k).memberSet = sc.members.toFinset := by
      ext q
      rw [mem_memberSet, ← Simulation.mem_group, out.mem_group, List.mem_toFinset]
    have hx : x ∈ (after draws sc k).members :=
      Simulation.mem_group.mp ((out.mem_group k).mpr out.member)
    have majority : sc.members.toFinset.card < 2 * (sc.members.toFinset.erase x).card := by
      rw [Finset.card_erase_of_mem (List.mem_toFinset.mpr out.member)]
      omega
    rw [failedAt_eq hn, Node.failed, order.mem_failed_iff hn ((out.mem_group k).mpr ho),
      and_iff_right hx, members, out.accusersAt_eq hk ho other,
      and_iff_right (show o ∈ sc.members ∧ o ≠ x from ⟨ho, other⟩)]
    split
    · exact iff_of_true majority ‹_›
    · refine iff_of_false ?_ ‹_›
      simp
  · refine iff_of_false (fun failed => ?_) fun h => observes h.1
    cases hn : (after draws sc k).nodes.get? o with
    | none =>
        rw [failedAt_of_absent hn] at failed
        exact SortedSet.not_mem_empty x failed
    | some n =>
        have ho := mem_members_of_running draws sc (SortedMap.mem_keys_iff.mpr ⟨n, hn⟩)
        have same : o = x := by
          by_contra other
          exact observes ⟨ho, other⟩
        rw [same] at failed
        exact not_mem_failedAt_self order ((out.mem_group k).mpr out.member) failed

theorem trusted (hk : k * sc.step < sc.duration + sc.step) (hy : y ≠ x) :
    (after draws sc k).Trusted y := by
  by_cases member : y ∈ sc.members
  · exact trusted_after out.reliable (out.lasts hy k) hk ((out.mem_group k).mpr member)
  · have steady := steady_after draws sc k
    refine ⟨fun r hr n hn q suspects => ?_, fun r n hn e he => ?_⟩
    · have inside := (steady.order.attends r n hn hr).watches.inside q y suspects
      exact member ((out.mem_group k).mp inside.2.1)
    · exact absurd he (steady.quiet.handled r n hn e)

theorem failed_eq_empty (three : 3 ≤ sc.members.toFinset.card)
    (hk : k * sc.step < sc.duration + sc.step) (back : backIn sc j ≤ k) {n : Node}
    (hn : (after draws sc k).nodes.get? o = some n) : n.failed = ∅ := by
  have ho := mem_members_of_running draws sc (SortedMap.mem_keys_iff.mpr ⟨n, hn⟩)
  have ho := (out.mem_group k).mpr ho
  have attends := (steady_after draws sc k).order.attends o n hn ho
  have only : n.detector.SuspectsOnly x := fun y hy => (out.trusted hk hy).trusts o ho n hn
  ext y
  refine iff_of_false (fun failed => ?_) (SortedSet.not_mem_empty y)
  obtain rfl := Node.failed_only attends only y failed
  rw [← failedAt_eq hn, out.mem_failedAt three hk] at failed
  exact Nat.not_lt_of_le back failed.2.2

/-! ### What is noted -/

section Round

variable (hk : (k + 1) * sc.step < sc.duration + sc.step)
include hk

theorem others (hy : y ≠ x) :
    (after draws sc k).struck.Trusted y ∧
      ∀ r ∈ (after draws sc k).struck.group, ¬ (after draws sc k).struck.Due r (.receive y) := by
  have steady := steady_after draws sc k
  refine ⟨(out.trusted (lt_of_succ hk) hy).struck steady, fun r hr due => ?_⟩
  obtain ⟨d, pending, -⟩ := id due
  have member := (peer_of_pending steady.struck.order hr pending).1
  exact (out.lasts hy (k + 1)).not_due out.reliable hk member hr due

/-- Whoever has waited for `x` in vain by then has noticed its silence by then. -/
theorem shownIn_le_of_due (hi : i ≤ k) (back : k < backIn sc j) (hq : q ∈ sc.members)
    (other : q ≠ x) (due : (after draws sc k).struck.Due q (.receive x)) : shownIn sc i ≤ k + 1 := by
  have early := lt_of_succ hk
  have hx := (out.mem_group k).mpr out.member
  have hq' := (out.mem_group k).mpr hq
  have silence := silence_after out.reliable (out.lasts_until (Nat.le_refl i)) (out.lasts other k)
    hi early hx hq' other fun m hm hmk => out.mute hm
      (Nat.lt_of_le_of_lt (Nat.mul_le_mul_right _ hmk) early) (Nat.lt_of_le_of_lt hmk back)
  rw [shownIn_le_iff out.reliable.step_pos]
  split at silence
  · exact Nat.le_trans ‹_› (Nat.mul_le_mul_right _ (Nat.le_succ k))
  · have same := (out.lasts other (k + 1)).undisturbed out.reliable hk
      ((out.mem_group_struck k).mpr hq)
    have waits := (same.pending (.receive x) _ ((out.mem_group_struck k).mpr out.member)
      other.symm).mpr silence.2
    rw [due_iff waits, now_struck_eq] at due
    exact (Scenario.nextStep_le_iff out.reliable.step_pos (Nat.dvd_mul_left _ _)).mpr due

theorem not_due_of_back (back : backIn sc j ≤ k) (hq : q ∈ sc.members) :
    ¬ (after draws sc k).struck.Due q (.receive x) := by
  rintro ⟨d, pending, late⟩
  have ready : (after draws sc k).struck.Ready := ready_struck out.reliable hk
  have hx := (out.mem_group_struck k).mpr out.member
  have hq' := (out.mem_group_struck k).mpr hq
  have other := (peer_of_pending ready.steady.order hq' pending).2.symm
  have later : j + 1 ≤ k := by
    have back' := lt_backIn (j := j) out.reliable
    omega
  have long := (lt_backIn_iff (k := k) out.reliable.step_pos).not.mp (Nat.not_lt_of_le back)
  have hears := hears_of_calm out.reliable later (out.calm k) (lt_of_succ hk) (Nat.le_of_not_lt long)
    (fun y hy => out.running (Nat.lt_succ_self j) ((out.mem_group k).mp hy))
    ((out.mem_group k).mpr out.member) ((out.mem_group k).mpr hq) other
  have nothing := out.calm (k + 1) k later (Nat.lt_succ_self k)
  have hears' : (after draws sc k).struck.Hears q x := by
    rw [struck_of_due_nil nothing]
    exact hears
  have running := mem_keys_after_succ.mp (out.running (Nat.lt_succ_of_lt later) out.member)
  exact hears'.not_due ready (sends_struck out.reliable hk hx running hq' other) now_struck_after
    ⟨d, pending, late⟩

/-- In the round of each step the others note just how it changes that they fail `x`. -/
theorem seen_round (apart : shownIn sc i ≠ backIn sc j) (o : InstanceId) :
    (after draws sc k).struck.round.seen o = (after draws sc k).struck.seen o ++
      (after draws sc k).struck.noted o (Transition.about x ((after draws sc k).struck.failedAt o)
        ((after draws sc k).struck.round.failedAt o)) := by
  have steady := (steady_after draws sc k).struck
  have announced := (announced_after draws sc k).struck (steady_after draws sc k)
  have others := fun y hy => out.others (y := y) hk hy
  have hx := (out.mem_group_struck k).mpr out.member
  have order := out.order
  have back' := lt_backIn (j := j) out.reliable
  -- The first heartbeat after the restart makes everybody take back what everybody knows.
  by_cases mute : i ≤ k ∧ k + 1 < backIn sc j
  · exact seen_round_of_mute steady announced others hx fun r => out.mute mute.1 hk mute.2
  · refine seen_round_of_told steady announced others fun ho other q hq due => ?_
    have hq' := (out.mem_group_struck k).mp hq
    obtain ⟨d, pending, -⟩ := id due
    have ne := (peer_of_pending steady.order hq pending).2.symm
    rcases Nat.lt_or_ge k i with early | late
    · have lasts := out.lasts_until early
      exact absurd due (lasts.not_due out.reliable hk hx hq)
    · by_cases back : backIn sc j ≤ k
      · exact absurd due (out.not_due_of_back hk back hq')
      · have shown := out.shownIn_le_of_due hk late (Nat.lt_of_not_le back) hq' ne due
        have same := (out.lasts other.symm (k + 1)).undisturbed out.reliable hk ho
        rw [same.report q hq x hx, out.mem_reportAt (lt_of_succ hk) ((out.mem_group_struck k).mp ho)
          other.symm hq']
        exact ⟨ne, by omega, Nat.lt_of_not_le back⟩

theorem seen_succ (apart : shownIn sc i ≠ backIn sc j) (o : InstanceId) :
    (after draws sc (k + 1)).seen o = (after draws sc k).seen o ++
      (Transition.about x ((after draws sc k).failedAt o) ((after draws sc (k + 1)).failedAt o)).map
        fun t => ⟨(k + 1) * sc.step, o, t⟩ := by
  have steady := steady_after draws sc k
  have stays : ∀ e ∈ (after draws sc k).due, e.action ≠ .leave := fun e he => out.stays he
  have before : x ∈ (after draws sc k).struck.failedAt o ↔ x ∈ (after draws sc k).failedAt o := by
    by_cases same : o = x
    · rw [same]
      exact iff_of_false
        (not_mem_failedAt_self steady.struck.order ((out.mem_group_struck k).mpr out.member))
        (not_mem_failedAt_self steady.order ((out.mem_group k).mpr out.member))
    · rw [failedAt_struck steady stays fun e he crashes =>
        same (crashes.2.symm.trans (out.mem_due he).1)]
  rw [after_succ, advance_eq_round, out.seen_round hk apart, seen_struck steady stays,
    Transition.about_congr before, noted, now_struck_eq]

end Round

theorem seen_after_of_spared (apart : shownIn sc i ≠ backIn sc j)
    (hk : k * sc.step < sc.duration + sc.step)
    (spared : ∀ m ≤ k, x ∉ (after draws sc m).failedAt o) : (after draws sc k).seen o = [] := by
  induction k with
  | zero => exact seen_start draws sc o
  | succ k ih =>
      have before := spared k (Nat.le_succ k)
      have now := spared (k + 1) (Nat.le_refl _)
      rw [out.seen_succ hk apart, ih (lt_of_succ hk) fun m hm => spared m (Nat.le_succ_of_le hm),
        Transition.about, if_neg before, if_neg now]
      rfl

/-- The others note when they come to fail `x` and when they cease to. -/
theorem seen_after (three : 3 ≤ sc.members.toFinset.card) (shown : shownIn sc i < backIn sc j)
    (hk : k * sc.step < sc.duration + sc.step) (ho : o ∈ sc.members) (other : o ≠ x) :
    (after draws sc k).seen o =
      (if shownIn sc i ≤ k then [⟨shownIn sc i * sc.step, o, .failed x⟩] else []) ++
        if backIn sc j ≤ k then [⟨backIn sc j * sc.step, o, .alive x⟩] else [] := by
  have apart := Nat.ne_of_lt shown
  have late := lt_shownIn (i := i) out.reliable
  induction k with
  | zero =>
      rw [if_neg (by omega), if_neg (by omega)]
      exact seen_start draws sc o
  | succ k ih =>
      have before := out.mem_failedAt (o := o) three (lt_of_succ hk)
      have now := out.mem_failedAt (o := o) three hk
      rw [and_iff_right ⟨ho, other⟩] at before now
      rw [out.seen_succ hk apart, ih (lt_of_succ hk), Transition.about]
      simp only [before, now]
      -- Of the two steps at most one is the next.
      by_cases first : shownIn sc i = k + 1
      · grind
      · by_cases last : backIn sc j = k + 1
        · grind
        · grind

end Outage

/-! ### The run -/

/-- Where nothing is lost and nothing happens but that one of at least three members crashes and is
restarted, the others note two transitions each if its silence shows before its first heartbeat
after the restart has come: that it is failed, in the step in which it shows, and that it is alive
again, in the step of that heartbeat. If the heartbeat comes before, nobody notes anything. And in
the end all members are running and fail nobody. -/
theorem outage_noted (h : sc.Reliable) (three : 3 ≤ sc.members.toFinset.card)
    (events : orderBy ScheduledEvent.time sc.events = [⟨a, x, .crash⟩, ⟨b, x, .restart⟩])
    (long : max (sc.detection (sc.appliedAt a)) (sc.appliedAt b + sc.beat) ≤
      (start draws sc).run.report.duration) :
    (sc.detection (sc.appliedAt a) < sc.appliedAt b + sc.beat →
      ∀ o, (start draws sc).run.report.seenBy o =
        if o ∈ sc.members ∧ o ≠ x then
          [⟨sc.detection (sc.appliedAt a), o, .failed x⟩, ⟨sc.appliedAt b + sc.beat, o, .alive x⟩]
        else []) ∧
    (sc.appliedAt b + sc.beat < sc.detection (sc.appliedAt a) →
      (start draws sc).run.report.transitions = []) ∧
    ∀ o f, (start draws sc).run.report.failed.get? o = some f ↔ o ∈ sc.members ∧ f = ∅ := by
  have out : Outage draws sc (sc.stepsBefore a) (sc.stepsBefore b) x := outage_of_events h events
  obtain ⟨k, run, -, hk⟩ := run_start draws sc h.step_pos
  have duration : (start draws sc).run.report.duration = k * sc.step := by
    rw [run]
    exact now_after draws sc k
  have shown : sc.detection (sc.appliedAt a) = shownIn sc (sc.stepsBefore a) * sc.step :=
    shownIn_mul.symm
  have back : sc.appliedAt b + sc.beat = backIn sc (sc.stepsBefore b) * sc.step := backIn_mul.symm
  rw [duration, shown, back, Nat.max_le, Nat.mul_le_mul_right_iff h.step_pos,
    Nat.mul_le_mul_right_iff h.step_pos] at long
  rw [run, shown, back, Nat.mul_lt_mul_right h.step_pos, Nat.mul_lt_mul_right h.step_pos]
  refine ⟨fun noticed o => ?_, fun unnoticed => ?_, fun o f => ?_⟩
  · change (after draws sc k).seen o = _
    split
    · rename_i observes
      rw [out.seen_after three noticed hk observes.1 observes.2, if_pos long.1, if_pos long.2]
      rfl
    · rename_i unconcerned
      refine out.seen_after_of_spared (Nat.ne_of_lt noticed) hk fun m hm failed => ?_
      have early := Nat.lt_of_le_of_lt (Nat.mul_le_mul_right sc.step hm) hk
      exact unconcerned ((out.mem_failedAt three early).mp failed).1
  · refine List.eq_nil_iff_forall_not_mem.mpr fun e he => ?_
    have noted : e ∈ (after draws sc k).seen e.observer :=
      List.mem_filter.mpr ⟨he, beq_self_eq_true e.observer⟩
    rw [out.seen_after_of_spared (Nat.ne_of_gt unnoticed) hk fun m hm failed => ?_] at noted
    · cases noted
    · have early := Nat.lt_of_le_of_lt (Nat.mul_le_mul_right sc.step hm) hk
      have within := ((out.mem_failedAt three early).mp failed).2
      omega
  · have get : (after draws sc k).report.failed.get? o =
        ((after draws sc k).nodes.get? o).map Node.failed := SortedMap.get?_mapValues _ _ _
    have restarted : sc.stepsBefore b < k := by
      have later := lt_backIn (j := sc.stepsBefore b) h
      omega
    rw [get, Option.map_eq_some_iff]
    constructor
    · rintro ⟨n, hn, rfl⟩
      exact ⟨mem_members_of_running draws sc (SortedMap.mem_keys_iff.mpr ⟨n, hn⟩),
        out.failed_eq_empty three hk long.2 hn⟩
    · rintro ⟨ho, rfl⟩
      obtain ⟨n, hn⟩ := SortedMap.mem_keys_iff.mp (out.running restarted ho)
      exact ⟨n, hn, out.failed_eq_empty three hk long.2 hn⟩

/-- The third of three crashes, its silence shows a step later, and it is restarted another step
later. -/
def outageOfThird : Scenario :=
  { Scenario.standard with
    heartbeatInterval := 1, heartbeatTimeout := 2, step := 1, duration := 6
    events := [⟨1, 3, .crash⟩, ⟨3, 3, .restart⟩] }

theorem first_notes_outage_of_third :
    outageOfThird.Reliable ∧ 3 ≤ outageOfThird.members.toFinset.card ∧
      orderBy ScheduledEvent.time outageOfThird.events = [⟨1, 3, .crash⟩, ⟨3, 3, .restart⟩] ∧
      (start (CipherDraws.ofSeed 0) outageOfThird).run.report.seenBy 1 =
        [⟨2, 1, .failed 3⟩, ⟨4, 1, .alive 3⟩] := by
  have reliable : outageOfThird.Reliable := ⟨rfl, by decide +kernel, by decide, by decide, by decide⟩
  have events : orderBy ScheduledEvent.time outageOfThird.events =
      [⟨1, 3, .crash⟩, ⟨3, 3, .restart⟩] := by decide
  have long : max (outageOfThird.detection (outageOfThird.appliedAt 1))
      (outageOfThird.appliedAt 3 + outageOfThird.beat) ≤
        (start (CipherDraws.ofSeed 0) outageOfThird).run.report.duration := by
    obtain ⟨k, run, ended, -⟩ :=
      run_start (CipherDraws.ofSeed 0) outageOfThird reliable.step_pos
    have duration : (start (CipherDraws.ofSeed 0) outageOfThird).run.report.duration =
        k * outageOfThird.step := by
      rw [run]
      exact now_after _ _ k
    rw [duration]
    exact Nat.le_trans (by decide) ended
  have three : 3 ≤ outageOfThird.members.toFinset.card := by decide
  exact ⟨reliable, three, events, (outage_noted reliable three events long).1 (by decide) 1⟩

end Simulation
end Vigil
