import Vigil.Proofs.Simulation.Ticks

/-!
Who is failed, in a cluster in order. An instance fails the members that are suspected by more than
half of the members, as far as it knows.
-/

namespace Vigil
namespace Simulation

variable {γ : Type} {s : Simulation γ} {r o x : InstanceId} {n : Node}

/-- The current members, however often they are listed. -/
def memberSet (s : Simulation γ) : Finset InstanceId := s.members.toFinset

/-- The members that suspect `x`, as far as `o` knows. -/
def accusersAt (s : Simulation γ) (o x : InstanceId) : Finset InstanceId :=
  s.memberSet.filter fun r => x ∈ s.reportAt o r

theorem mem_memberSet : x ∈ s.memberSet ↔ x ∈ s.members := List.mem_toFinset

theorem nodup_group : s.group.Nodup := Cluster.nodup_seen _

theorem toFinset_group : s.group.toFinset = s.memberSet := by
  ext x
  rw [mem_memberSet, List.mem_toFinset, mem_group]

/-- A member fails those that more than half of the members suspect, as far as it knows. -/
theorem InOrder.mem_failed_iff (h : s.InOrder) (hn : s.nodes.get? o = some n) (ho : o ∈ s.group) :
    x ∈ n.detector.failed ↔
      x ∈ s.members ∧ s.memberSet.card < 2 * (s.accusersAt o x).card := by
  have informed := (h.attends o n hn ho).watches.informed
  rw [informed.mem_failed_iff nodup_group, toFinset_group, accusersAt]
  simp only [reportAt_eq hn]
  refine (and_iff_right_of_imp fun majority => ?_).symm
  have accused : 0 < (s.memberSet.filter fun q => x ∈ n.detector.reportOf q).card := by omega
  obtain ⟨q, hq⟩ := Finset.card_pos.mp accused
  exact mem_group.mp (informed.inside q x (Finset.mem_filter.mp hq).2).2.1

/-- Members are suspected by others only. -/
theorem InOrder.mem_members_of_reportAt (h : s.InOrder) (ho : o ∈ s.group)
    (hx : x ∈ s.reportAt o r) : x ∈ s.members := by
  obtain ⟨n, hn, hx⟩ := exists_of_mem_reportAt hx
  exact mem_group.mp ((h.attends o n hn ho).watches.inside r x hx).2.1

/-- Nobody knows anything of a suspicion of itself. -/
theorem InOrder.ne_of_mem_reportAt (h : s.InOrder) (ho : o ∈ s.group) (hx : x ∈ s.reportAt o r) :
    x ≠ o := by
  obtain ⟨n, hn, hx⟩ := exists_of_mem_reportAt hx
  exact ((h.attends o n hn ho).watches.inside r x hx).2.2

end Simulation
end Vigil
