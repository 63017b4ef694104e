import Mathlib.Data.List.Perm.Basic
import Vigil.Proofs.Detector.Operations

/-!
Votes of members and votes of others. Every reporter has a vote, a member or not, so the votes for
an instance are those of the members and those of outsiders (`votes_eq_add`). `Inside x` says that
`x` is suspected by members only, and is a member itself if it is suspected at all.
-/

namespace Vigil
namespace Detector

variable {d : Detector} {x : InstanceId}

/-- How many members suspect `x`. -/
def memberVotes (d : Detector) (x : InstanceId) : Nat :=
  d.cluster.members.countP fun r => decide (x ∈ d.reportOf r)

/-- How many reporters that are no members suspect `x`. -/
def outsiderVotes (d : Detector) (x : InstanceId) : Nat :=
  (d.accusers x).toList.countP fun r => decide (r ∉ d.cluster.members)

theorem memberVotes_eq_card (h : d.cluster.members.Nodup) :
    d.memberVotes x = ((d.accusers x).toList.filter (· ∈ d.cluster.members)).length := by
  have members := h.filter fun r => decide (x ∈ d.reportOf r)
  have accusers := (d.accusers x).nodup.filter fun r => decide (r ∈ d.cluster.members)
  rw [memberVotes, List.countP_eq_length_filter]
  refine ((List.perm_ext_iff_of_nodup members accusers).mpr fun r => ?_).length_eq
  simp [SortedSet.mem_toList, mem_accusers, and_comm]

theorem votes_eq_add (h : d.cluster.members.Nodup) :
    d.votes x = d.memberVotes x + d.outsiderVotes x := by
  rw [votes_eq_size, memberVotes_eq_card h, outsiderVotes, SortedSet.size,
    ← List.countP_eq_length_filter, List.length_eq_countP_add_countP (· ∈ d.cluster.members)]
  simp

/-- Only members suspect `x`, and only if it is a member. -/
def Inside (d : Detector) (x : InstanceId) : Prop :=
  ∀ r, x ∈ d.reportOf r → r ∈ d.cluster.members ∧ x ∈ d.cluster.members

theorem Inside.outsiderVotes_eq_zero (h : d.Inside x) : d.outsiderVotes x = 0 := by
  rw [outsiderVotes, List.countP_eq_zero]
  intro r hr
  simpa using (h r (mem_accusers.mp (SortedSet.mem_toList.mp hr))).1

theorem Inside.memberVotes_eq (h : d.Inside x) (hn : d.cluster.members.Nodup) :
    d.memberVotes x = d.votes x := by
  rw [votes_eq_add hn, h.outsiderVotes_eq_zero, Nat.add_zero]

end Detector
end Vigil
