import Vigil.Proofs.Simulation.Course
import Vigil.Proofs.Simulation.Majority

/-!
What the nodes of a simulation know of the cluster, also those of instances that have left. Whatever
is lost and whatever happens, after each step every node has the members of the simulation in their
order, takes notice of nobody else, and fails exactly those whom more than half of the members
suspect (`consistent_views`).
-/

namespace Vigil

def ScheduledEvent.Leaves (e : ScheduledEvent) (x : InstanceId) : Prop :=
  e.action = .leave ∧ e.subject = x

namespace Simulation

variable {γ : Type} {s : Simulation γ} {r x : InstanceId} {n : Node} {e : ScheduledEvent} {k : Nat}

/-! ### Who is a member -/

theorem mem_members_happen : x ∈ (s.happen e).members ↔ x ∈ s.members ∧ ¬ e.Leaves x := by
  by_cases he : e.action = .leave
  · rw [members_leave he, List.mem_filter, bne_iff_ne]
    simp [ScheduledEvent.Leaves, he, eq_comm]
  · simp [members_happen he, ScheduledEvent.Leaves, he]

theorem mem_members_foldl_happen (l : List ScheduledEvent) (s : Simulation γ) :
    x ∈ (l.foldl happen s).members ↔ x ∈ s.members ∧ ∀ e ∈ l, ¬ e.Leaves x := by
  induction l generalizing s with
  | nil => simp
  | cons e l ih => rw [List.foldl_cons, ih, mem_members_happen, List.forall_mem_cons, and_assoc]

/-! ### What is known of them -/

/-- Every node knows the members. -/
def Aware (s : Simulation γ) : Prop :=
  ∀ r n, s.nodes.get? r = some n → n.detector.Informed r s.group

theorem Aware.happen (aware : s.Aware) (e : ScheduledEvent) : (s.happen e).Aware := by
  intro r n' hn'
  cases origin_of_happen hn' with
  | spared hn stays =>
      rw [group_happen stays]
      exact aware r n' hn
  | started restart _ _ member =>
      rw [group_happen (by simp [restart])]
      exact (Node.attends_join r s.members s.scenario.timing s.now member).watches.informed
  | @parted n leave hn =>
      rw [group_leave leave]
      apply Node.informed_forget
      split
      · exact Node.informed_leave (aware r n hn)
      · exact aware r n hn

theorem Aware.struck (aware : s.Aware) (h : s.Steady) : s.struck.Aware :=
  (struck_induction (P := Aware) h aware fun _ _ aware e _ => aware.happen e).2

theorem Aware.tickNodes (aware : s.Aware) : s.tickNodes.Aware := by
  intro r n' hn'
  obtain ⟨n, hn, rfl⟩ := exists_of_get?_tickNodes hn'
  have same : Detector.SameButTimers n.detector (n.tick s.now).detector := ⟨_, rfl⟩
  exact same.informed (aware r n hn)

variable [DrawSource γ]

theorem Aware.passed (aware : s.Aware) (h : s.InOrder) : s.passed.Aware := by
  intro r n' hn'
  by_cases hr : r ∈ s.passed.group
  · exact (h.passed.attends r n' hn' hr).watches.informed
  · rw [group_passed] at hr ⊢
    obtain ⟨kept, -, -, get⟩ := get?_passed h
    rw [get] at hn'
    obtain ⟨n, hn, rfl⟩ := Option.map_eq_some_iff.mp hn'
    rw [worked_retired h hn hr]
    exact aware r n hn

theorem Aware.round (aware : s.Aware) (h : s.InOrder) (hq : s.Quiet) : s.round.Aware := by
  have ticked := h.tickNodes hq
  rw [round_eq h hq]
  exact ((aware.tickNodes.passed ticked).passed ticked.passed).passed ticked.passed.passed

theorem Aware.advance (aware : s.Aware) (h : s.Steady) : s.advance.Aware := by
  rw [advance_eq_round]
  exact (aware.struck h).round h.struck.order h.struck.quiet

/-! ### From the start -/

section Start

variable (draws : γ) (sc : Scenario)

/-- In one of the first `k` steps `x` leaves. -/
def HasLeft (k : Nat) (x : InstanceId) : Prop :=
  ∃ i < k, ∃ e ∈ (after draws sc i).due, e.Leaves x

/-- The members are those of the scenario that have not left. -/
theorem mem_members_after :
    x ∈ (after draws sc k).members ↔ x ∈ sc.members ∧ ¬ HasLeft draws sc k x := by
  induction k with
  | zero =>
      have members : (after draws sc 0).members = sc.members := (start_fields draws sc).1
      simp [members, HasLeft]
  | succ k ih =>
      have steady := (steady_after draws sc k).struck
      have split : HasLeft draws sc (k + 1) x ↔
          HasLeft draws sc k x ∨ ∃ e ∈ (after draws sc k).due, e.Leaves x := by
        simp only [HasLeft, Nat.exists_lt_succ_right]
      have struck : x ∈ (after draws sc k).struck.members ↔
          x ∈ (after draws sc k).members ∧ ∀ e ∈ (after draws sc k).due, ¬ e.Leaves x :=
        mem_members_foldl_happen (after draws sc k).due (after draws sc k).begun
      rw [after_succ, advance_eq_round, members_round steady.order steady.quiet, struck, ih, split]
      push Not
      exact and_assoc

theorem aware_after (k : Nat) : (after draws sc k).Aware := by
  induction k with
  | zero =>
      intro r n hn
      obtain ⟨members, -, -, -, get⟩ := start_fields draws sc
      have group : (after draws sc 0).group = Cluster.seen sc.members := congrArg _ members
      have node := (get r).symm.trans hn
      split at node
      · rename_i hr
        cases node
        rw [group]
        exact (Node.attends_join r sc.members sc.timing 0 hr).watches.informed
      · cases node
  | succ k ih =>
      rw [after_succ]
      exact ih.advance (steady_after draws sc k)

/-- Every node knows the members, finds only members in the reports and never itself, and fails
those that are in the reports of more than half of the members. So whoever has left is suspected and
failed by nobody. -/
theorem consistent_views (hn : (after draws sc k).nodes.get? r = some n) :
    n.detector.cluster.members = (after draws sc k).members.eraseDups ∧
    (∀ q x, x ∈ n.detector.reportOf q →
      q ∈ (after draws sc k).members ∧ x ∈ (after draws sc k).members ∧ x ≠ r) ∧
    (∀ x, x ∈ n.failed ↔ (after draws sc k).memberSet.card <
      2 * ((after draws sc k).memberSet.filter fun q => x ∈ n.detector.reportOf q).card) ∧
    ∀ x, HasLeft draws sc k x → (∀ q, x ∉ n.detector.reportOf q) ∧ x ∉ n.failed := by
  have informed := aware_after draws sc k r n hn
  have inside (q x : InstanceId) (hx : x ∈ n.detector.reportOf q) :
      q ∈ (after draws sc k).members ∧ x ∈ (after draws sc k).members ∧ x ≠ r := by
    rw [← mem_group, ← mem_group]
    exact informed.inside q x hx
  have majority (x : InstanceId) : x ∈ n.failed ↔ (after draws sc k).memberSet.card <
      2 * ((after draws sc k).memberSet.filter fun q => x ∈ n.detector.reportOf q).card := by
    rw [← toFinset_group]
    exact informed.mem_failed_iff nodup_group
  refine ⟨?_, inside, majority, fun x left => ?_⟩
  · rw [← Cluster.seen_eq_eraseDups]
    exact informed.members_eq
  · have gone : x ∉ (after draws sc k).members := fun hx =>
      ((mem_members_after draws sc).mp hx).2 left
    have spared (q : InstanceId) : x ∉ n.detector.reportOf q := fun hx => gone (inside q x hx).2.1
    refine ⟨spared, ?_⟩
    simp [majority, spared]

end Start

/-- All messages are lost. The second crashes before the third leaves, and is restarted
after that. -/
def lossyDeparture : Scenario :=
  { Scenario.standard with
    members := [1, 2, 3, 2]
    heartbeatInterval := 1, heartbeatTimeout := 2, step := 1, duration := 4
    dropProbability := 1.0
    events := [⟨1, 2, .crash⟩, ⟨2, 3, .leave⟩, ⟨3, 2, .restart⟩] }

/-- The third, which has left, knows that there are two members left. -/
theorem third_knows_after_leaving :
    let s := after (CipherDraws.ofSeed 0) lossyDeparture 3
    HasLeft (CipherDraws.ofSeed 0) lossyDeparture 3 3 ∧
      ∃ n, s.nodes.get? 3 = some n ∧ n.detector.cluster.members = [1, 2] ∧ 3 ∉ n.failed := by
  have left : (∃ e ∈ (after (CipherDraws.ofSeed 0) lossyDeparture 1).due, e.Leaves 3) ∧
      3 ∈ (after (CipherDraws.ofSeed 0) lossyDeparture 3).nodes.keys ∧
      (after (CipherDraws.ofSeed 0) lossyDeparture 3).members = [1, 2, 2] := by
    unfold ScheduledEvent.Leaves
    decide +kernel
  obtain ⟨leaves, running, members⟩ := left
  obtain ⟨n, hn⟩ := SortedMap.mem_keys_iff.mp running
  obtain ⟨view, -, -, spared⟩ := consistent_views (CipherDraws.ofSeed 0) lossyDeparture hn
  have gone : HasLeft (CipherDraws.ofSeed 0) lossyDeparture 3 3 := ⟨1, by decide, leaves⟩
  rw [members] at view
  exact ⟨gone, n, hn, view, (spared 3 gone).2⟩

end Simulation
end Vigil
