import Mathlib.Data.Finset.Card
import Vigil.Proofs.Detector.Mail
import Vigil.Proofs.Detector.Outsiders

/-!
What a detector knows of the cluster, whether its instance takes part or has left. `Informed` is the
part of `Watches` that does not need the instance to be a member or its timers to be armed.
-/

namespace Vigil
namespace Detector

variable {d d' : Detector} {me x : InstanceId} {members : List InstanceId}

/-- The detector of `me` knows the members, takes notice of members only and of no suspicion of
itself, and fails exactly those that are failed by quorum. -/
structure Informed (d : Detector) (me : InstanceId) (members : List InstanceId) : Prop where
  me_eq : d.me = me
  members_eq : d.cluster.members = members
  known_eq : d.known = members
  inside : ∀ q x, x ∈ d.reportOf q → q ∈ members ∧ x ∈ members ∧ x ≠ me
  agrees : d.Agrees members.length

theorem Watches.informed (hw : d.Watches me members) : d.Informed me members :=
  ⟨hw.me_eq, hw.members_eq, hw.known_eq, hw.inside, hw.agrees⟩

theorem SameButTimers.informed (same : SameButTimers d d') (h : d.Informed me members) :
    d'.Informed me members := by
  obtain ⟨t, rfl⟩ := same
  exact ⟨h.me_eq, h.members_eq, h.known_eq, h.inside, h.agrees⟩

theorem Informed.takePending (h : d.Informed me members) : d.takePending.1.Informed me members :=
  ⟨h.me_eq, h.members_eq, h.known_eq, h.inside, h.agrees⟩

theorem Informed.checkMembers (h : d.Informed me members) : d.checkMembers.1 = d := by
  have same : d.cluster.members = d.known := h.members_eq.trans h.known_eq.symm
  simp [Detector.checkMembers, same]

/-- Those are failed that more than half of the members suspect. -/
theorem Informed.mem_failed_iff (h : d.Informed me members) (distinct : members.Nodup) :
    x ∈ d.failed ↔ members.toFinset.card <
      2 * (members.toFinset.filter fun q => x ∈ d.reportOf q).card := by
  have inside : d.Inside x := by
    intro q hq
    rw [h.members_eq]
    exact ⟨(h.inside q x hq).1, (h.inside q x hq).2.1⟩
  have votes : d.votes x = (members.toFinset.filter fun q => x ∈ d.reportOf q).card := by
    have same : members.toFinset.filter (fun q => x ∈ d.reportOf q) =
        (members.filter fun q => decide (x ∈ d.reportOf q)).toFinset := by
      ext q
      simp
    rw [← inside.memberVotes_eq (h.members_eq ▸ distinct), memberVotes, h.members_eq, same,
      List.toFinset_card_of_nodup (distinct.filter _), List.countP_eq_length_filter]
  rw [h.agrees x, votes, List.toFinset_card_of_nodup distinct, Nat.div_lt_iff_lt_mul Nat.two_pos,
    Nat.mul_comm]

end Detector
end Vigil
