import Vigil.Proofs.Detector.Votes

/-!
The set of failed instances against the votes. `Sound n` says that every failed instance has more
than half of `n` votes, and `Agrees n` that the failed instances are exactly those. Detectors keep
both for the number of members they know, except that forgetting the failures leaves `Sound` only
(`agrees_forgetFailures_iff`). Working the failures out anew restores `Agrees` from any state.
-/

namespace Vigil
namespace Detector

variable {d : Detector} {n : Nat} {x id q r : InstanceId} {s : InstanceSet}

/-- Whoever is failed has more than half of `n` votes. -/
def Sound (d : Detector) (n : Nat) : Prop := ∀ x ∈ d.failed, n / 2 < d.votes x

/-- Exactly those with more than half of `n` votes are failed. -/
def Agrees (d : Detector) (n : Nat) : Prop := ∀ x, x ∈ d.failed ↔ n / 2 < d.votes x

theorem Agrees.sound (h : d.Agrees n) : d.Sound n := fun x hx => (h x).mp hx

theorem agrees_members_iff :
    d.Agrees d.cluster.members.length ↔ ∀ x, x ∈ d.failed ↔ d.isFailed x = true :=
  forall_congr' fun _ => by rw [isFailed_iff]

theorem agrees_start (cluster : Cluster) (timers : HeartbeatTimers) (n : Nat) :
    (start cluster timers).Agrees n := by
  intro x
  have none_votes : (start cluster timers).votes x = 0 := rfl
  rw [none_votes]
  exact iff_of_false (SortedSet.not_mem_empty x) (Nat.not_lt_zero _)

/-! ### Marking and clearing -/

theorem mem_failed_markFailed :
    x ∈ (d.markFailed id).failed ↔ x ∈ d.failed ∨ x = id ∧ d.isFailed id = true := by
  unfold markFailed
  split
  · rename_i h
    simp only [SortedSet.mem_insert, h.1, and_true, or_comm]
  · rename_i h
    refine ⟨.inl, ?_⟩
    rintro (hx | ⟨rfl, hq⟩)
    · exact hx
    · exact Decidable.not_not.mp fun hx => h ⟨hq, hx⟩

theorem mem_failed_clearFailed :
    x ∈ (d.clearFailed id).failed ↔ x ∈ d.failed ∧ (x = id → d.isFailed id = true) := by
  unfold clearFailed
  split
  · rename_i h
    simp [h.2]
  · rename_i h
    refine ⟨fun hx => ⟨hx, ?_⟩, And.left⟩
    rintro rfl
    simpa [hx] using h

theorem mem_failed_markAll {l : List InstanceId} :
    x ∈ (l.foldl markFailed d).failed ↔ x ∈ d.failed ∨ x ∈ l ∧ d.isFailed x = true := by
  induction l generalizing d with
  | nil => simp
  | cons a l ih =>
      rw [List.foldl_cons, ih, mem_failed_markFailed, isFailed_congr (evidence_markFailed d a),
        List.mem_cons]
      constructor
      · rintro ((h | ⟨rfl, h⟩) | ⟨hl, h⟩)
        · exact .inl h
        · exact .inr ⟨.inl rfl, h⟩
        · exact .inr ⟨.inr hl, h⟩
      · rintro (h | ⟨rfl | hl, h⟩)
        · exact .inl (.inl h)
        · exact .inl (.inr ⟨rfl, h⟩)
        · exact .inr ⟨hl, h⟩

theorem mem_failed_clearAll {l : List InstanceId} :
    x ∈ (l.foldl clearFailed d).failed ↔ x ∈ d.failed ∧ (x ∈ l → d.isFailed x = true) := by
  induction l generalizing d with
  | nil => simp
  | cons a l ih =>
      rw [List.foldl_cons, ih, mem_failed_clearFailed, isFailed_congr (evidence_clearFailed d a),
        List.mem_cons, and_assoc]
      refine and_congr_right fun _ => ⟨?_, fun h => ⟨?_, fun hl => h (.inr hl)⟩⟩
      · rintro ⟨ha, hl⟩ (rfl | h)
        · exact ha rfl
        · exact hl h
      · rintro rfl
        exact h (.inl rfl)

/-- Whatever was set down before, afterwards exactly those are failed that are so by quorum. -/
theorem mem_failed_reconcile : x ∈ d.reconcile.failed ↔ d.isFailed x = true := by
  rw [reconcile, mem_failed_markAll, mem_failed_clearAll,
    isFailed_congr (evidence_clearAll d _), SortedSet.mem_toList, SortedSet.mem_toList,
    mem_suspected]
  constructor
  · rintro (⟨hx, h⟩ | ⟨_, h⟩)
    · exact h hx
    · exact h
  · intro h
    exact .inr ⟨exists_report_of_lt_votes (isFailed_iff.mp h), h⟩

theorem agrees_syncMembers (d : Detector) : d.syncMembers.Agrees d.cluster.members.length := by
  intro x
  rw [syncMembers, mem_failed_reconcile, isFailed_iff, votes_congr (evidence_reconcile _)]

theorem agrees_checkMembers (h : d.Agrees d.known.length) :
    d.checkMembers.1.Agrees d.cluster.members.length := by
  unfold checkMembers
  split
  · rename_i hk
    rwa [hk]
  · exact d.agrees_syncMembers

theorem sound_checkMembers (h : d.Sound d.known.length) :
    d.checkMembers.1.Sound d.cluster.members.length := by
  unfold checkMembers
  split
  · rename_i hk
    rwa [hk]
  · exact d.agrees_syncMembers.sound

theorem sound_forgetFailures (d : Detector) (n : Nat) : d.forgetFailures.Sound n :=
  fun x hx => absurd hx (SortedSet.not_mem_empty x)

/-- Forgetting the failures is right where nobody is failed by quorum, and nowhere else. -/
theorem agrees_forgetFailures_iff :
    d.forgetFailures.Agrees n ↔ ∀ x, ¬ n / 2 < d.votes x := by
  refine forall_congr' fun x => ?_
  have none_failed : x ∉ d.forgetFailures.failed := SortedSet.not_mem_empty x
  exact ⟨fun h hv => none_failed (h.mpr hv), fun h => iff_of_false none_failed h⟩

end Detector
end Vigil
