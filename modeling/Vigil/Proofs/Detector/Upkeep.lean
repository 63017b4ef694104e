import Mathlib.Data.List.Induction
import Vigil.Proofs.Detector.History

/-!
The failed instances kept up operation by operation. Every operation but forgetting the failures
leads from agreement with the members it finds to agreement with the same members
(`agrees_perform`). So where every join and leave is followed up before the detector does anything
else, the failed instances are those that more than half as many last reports hold as there are
members (`failed_iff_reported`).
-/

namespace Vigil

/-- Joining and leaving change the members, electing and unelecting do not. -/
def ClusterChange.movesMembers : ClusterChange → Bool
  | .join _ | .leave _ => true
  | .elect _ _ | .unelect _ => false

theorem Cluster.members_apply {c : Cluster} {change : ClusterChange}
    (h : change.movesMembers = false) : (c.apply change).1.members = c.members := by
  cases change with
  | join _ | leave _ => cases h
  | elect _ _ | unelect _ => rfl

namespace DetectorOperation

/-- The operation works out the failures for the members there are. -/
def FollowsMembers (op : DetectorOperation) : Prop := op = .syncMembers ∨ op = .checkMembers

/-- Since the last operation of the detector itself the members may have changed. -/
def Moved (history : List DetectorOperation) : Prop :=
  ∃ (past : List DetectorOperation) (change : ClusterChange) (changes : List ClusterChange),
    change.movesMembers = true ∧
      history = past ++ .changeCluster change :: changes.map .changeCluster

/-- After a join or leave the detector follows the members before it does anything else. -/
def FollowedUp (history : List DetectorOperation) : Prop :=
  ∀ past op, past ++ [op] <+: history → Moved past → op.IsOwn → op.FollowsMembers

theorem Moved.concat {history : List DetectorOperation} (h : Moved history)
    (change : ClusterChange) : Moved (history ++ [.changeCluster change]) := by
  obtain ⟨past, first, changes, hfirst, rfl⟩ := h
  exact ⟨past, first, changes ++ [change], hfirst, by simp⟩

theorem not_moved_nil : ¬ Moved [] := by
  rintro ⟨past, change, changes, -, heq⟩
  simp at heq

theorem not_moved_concat {op : DetectorOperation} (own : op.IsOwn)
    (history : List DetectorOperation) : ¬ Moved (history ++ [op]) := by
  rintro ⟨past, change, changes, -, heq⟩
  have last : op ∈ .changeCluster change :: changes.map .changeCluster := by
    have h := congrArg List.getLast? heq
    rw [List.getLast?_concat, List.getLast?_append_of_ne_nil _ (List.cons_ne_nil _ _)] at h
    exact List.mem_of_getLast? h.symm
  rcases List.mem_cons.mp last with rfl | last
  · exact own change rfl
  · obtain ⟨change, -, rfl⟩ := List.mem_map.mp last
    exact own change rfl

theorem followedUp_nil : FollowedUp [] := fun past op hp => by simp at hp

theorem FollowedUp.concat {history : List DetectorOperation} {op : DetectorOperation}
    (h : FollowedUp history) (hop : Moved history → op.IsOwn → op.FollowsMembers) :
    FollowedUp (history ++ [op]) := by
  intro past last hp
  rcases List.prefix_concat_iff.mp hp with heq | hp
  · obtain ⟨rfl, ends⟩ := List.append_inj' heq rfl
    cases ends
    exact hop
  · exact h past last hp

end DetectorOperation

namespace Detector

open DetectorOperation

variable {d : Detector} {op : DetectorOperation}

theorem agrees_perform (h : d.Agrees d.known.length)
    (members : d.known = d.cluster.members ∨ op.FollowsMembers) (keeps : op ≠ .forgetFailures)
    (own : op.IsOwn) :
    (d.perform op).1.Agrees (d.perform op).1.cluster.members.length ∧
      (d.perform op).1.known = (d.perform op).1.cluster.members := by
  rw [cluster_perform d own]
  -- Following the members comes first: it is all that is allowed where the members have moved.
  rcases members.symm with (rfl | rfl) | known
  · exact ⟨d.agrees_syncMembers, d.known_syncMembers⟩
  · exact ⟨agrees_checkMembers h, d.known_checkMembers⟩
  rw [known] at h
  cases op with
  | forgetFailures => exact absurd rfl keeps
  | changeCluster change => exact absurd rfl (own change)
  | heardFrom id =>
      exact ⟨h.reevaluated (d.reevaluates_heardFrom id), (d.known_heardFrom id).trans known⟩
  | suspect id =>
      exact ⟨h.reevaluated (d.reevaluates_suspect id), (d.known_suspect id).trans known⟩
  | receiveReport q s =>
      exact ⟨h.reevaluated (d.reevaluates_receiveReport q s),
        (d.known_receiveReport q s).trans known⟩
  | depart id => exact ⟨d.agrees_depart id, d.known_depart id⟩
  | syncMembers => exact ⟨d.agrees_syncMembers, d.known_syncMembers⟩
  | checkMembers => exact ⟨agrees_checkMembers (known ▸ h), d.known_checkMembers⟩
  | takePending | setTimer _ _ | cancelTimer _ => exact ⟨h, known⟩
  | armTimers cause =>
      exact ⟨(d.sameButTimers_armTimers cause).agrees_iff.mpr h,
        (d.known_armTimers cause).trans known⟩
  | disarmTimers =>
      exact ⟨d.sameButTimers_disarmTimers.agrees_iff.mpr h, d.known_disarmTimers.trans known⟩

/-- Agreement with the known members at every moment, also between a change of the members and
what follows it up. -/
theorem agrees_performAll (h : d.Agrees d.known.length) (known : d.known = d.cluster.members)
    {history : List DetectorOperation} (keeps : .forgetFailures ∉ history)
    (followed : FollowedUp history) {past : List DetectorOperation} (hp : past <+: history) :
    (d.performAll past).Agrees (d.performAll past).known.length ∧
      ((d.performAll past).known = (d.performAll past).cluster.members ∨ Moved past) := by
  induction past using List.reverseRecOn with
  | nil => exact ⟨h, .inl known⟩
  | append_singleton past op ih =>
      obtain ⟨agrees, settled⟩ := ih ((List.prefix_append past [op]).trans hp)
      rw [performAll_concat]
      rcases op.isOwn_or with own | ⟨change, rfl⟩
      · obtain ⟨agrees, settled⟩ := agrees_perform agrees
          (settled.imp_right fun moved => followed past op hp moved own)
          (fun heq => keeps (hp.subset (by simp [heq]))) own
        exact ⟨settled ▸ agrees, .inl settled⟩
      · refine ⟨agrees, ?_⟩
        cases hm : change.movesMembers with
        | true => exact .inr ⟨past, change, [], hm, rfl⟩
        | false =>
            rcases settled with settled | moved
            · exact .inl (settled.trans (Cluster.members_apply hm).symm)
            · exact .inr (moved.concat change)

section Start

variable (cluster : Cluster) (timers : HeartbeatTimers)

/-- After each operation of the detector itself, the failed instances are those that the last
reports of more than half as many reporters hold as there are members, and also those that are
failed by quorum. -/
theorem failed_iff_reported {history : List DetectorOperation}
    (keeps : .forgetFailures ∉ history) (followed : FollowedUp history)
    {past : List DetectorOperation} {op : DetectorOperation} (hp : past ++ [op] <+: history)
    (own : op.IsOwn) :
    let d := (start cluster timers).performAll (past ++ [op])
    ∀ id,
      (id ∈ d.failed ↔ d.cluster.members.length / 2 <
        {r | id ∈ latestReport cluster.me (past ++ [op]) r}.ncard) ∧
      (id ∈ d.failed ↔ d.isFailed id = true) := by
  intro d id
  have before := agrees_performAll (agrees_start cluster timers _) rfl keeps followed
    ((List.prefix_append past [op]).trans hp)
  have after : d.Agrees d.cluster.members.length := by
    simp only [d, performAll_concat]
    exact (agrees_perform before.1 (before.2.imp_right fun moved => followed past op hp moved own)
      (fun heq => keeps (hp.subset (by simp [heq]))) own).1
  have votes : d.votes id = {r | id ∈ latestReport cluster.me (past ++ [op]) r}.ncard := by
    simp only [votes_eq_ncard, d, reportOf_performAll_start]
  exact ⟨votes ▸ after id, agrees_members_iff.mp after id⟩

end Start

/-- The first of four does not hear from the fourth, and neither does the second. When the third
has left, the first follows the members. -/
def shrinking : List DetectorOperation :=
  [.suspect 4, .receiveReport 2 (.ofList [4]), .changeCluster (.leave 3),
    .changeCluster (.elect coordinatorRole 2), .checkMembers]

/-- The votes that were no majority of four are one of three. -/
theorem fourth_failed_when_third_left :
    let d := (start (.ofMembers 1 [1, 2, 3, 4]) (.start (.fixed (.ofMillis 1000)))).performAll
      shrinking
    .forgetFailures ∉ shrinking ∧ FollowedUp shrinking ∧
      d.cluster.members.length / 2 < {r | 4 ∈ latestReport 1 shrinking r}.ncard := by
  have keeps : .forgetFailures ∉ shrinking := by decide
  have followed : FollowedUp shrinking := by
    have suspected : FollowedUp [.suspect 4] :=
      followedUp_nil.concat fun moved => absurd moved not_moved_nil
    have reported : FollowedUp [.suspect 4, .receiveReport 2 (.ofList [4])] :=
      suspected.concat fun moved => absurd moved (not_moved_concat (by simp [IsOwn]) [])
    exact ((reported.concat fun _ own => absurd rfl (own _)).concat
      fun _ own => absurd rfl (own _)).concat fun _ _ => .inr rfl
  have failed : 4 ∈ ((start (.ofMembers 1 [1, 2, 3, 4])
    (.start (.fixed (.ofMillis 1000)))).performAll shrinking).failed := by decide +kernel
  have all : shrinking.take 4 ++ [.checkMembers] <+: shrinking := List.prefix_refl shrinking
  exact ⟨keeps, followed,
    (failed_iff_reported _ _ keeps followed all (by simp [IsOwn]) 4).1.mp failed⟩

end Detector
end Vigil
