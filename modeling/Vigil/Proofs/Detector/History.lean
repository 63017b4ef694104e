import Mathlib.Data.Set.Card
import Vigil.Detector.Operation
import Vigil.Proofs.Machine.Run
import Vigil.Proofs.Membership

/-!
Histories of a detector. Its own operations leave the cluster as it is (`cluster_perform`). An
operation revises the report of each reporter in a way that depends on nothing but that report
(`reportOf_perform`), so the last report of a reporter can be read off the history alone
(`latestReport`), and votes count the reporters whose last report holds an instance
(`votes_eq_ncard`).
-/

namespace Vigil

/-- The operation is one of the detector itself, and not one of its cluster. -/
def DetectorOperation.IsOwn (op : DetectorOperation) : Prop := ∀ change, op ≠ .changeCluster change

theorem DetectorOperation.isOwn_or (op : DetectorOperation) :
    op.IsOwn ∨ ∃ change, op = .changeCluster change := by
  by_cases h : ∃ change, op = .changeCluster change
  · exact .inr h
  · exact .inl fun change heq => h ⟨change, heq⟩

/-- What an operation makes of the report of `r`, if the detector is that of `me`. -/
def DetectorOperation.revise (me r : InstanceId) (s : InstanceSet) :
    DetectorOperation → InstanceSet
  | .heardFrom id => if r = me then s.erase id else s
  | .suspect id => if r = me ∧ id ≠ me then s.insert id else s
  | .receiveReport q t => if r = q then t.erase me else s
  | .depart id => if r = id then ∅ else s.erase id
  | _ => s

/-- The last report of `r` in a history of the detector of `me`. -/
def latestReport (me : InstanceId) (history : List DetectorOperation) (r : InstanceId) :
    InstanceSet :=
  history.foldl (fun s op => op.revise me r s) ∅

@[simp] theorem Cluster.me_apply (c : Cluster) (change : ClusterChange) :
    (c.apply change).1.me = c.me := by
  cases change with
  | join id => exact c.me_join id
  | leave _ | elect _ _ | unelect _ => rfl

namespace Detector

variable {d : Detector} {x r : InstanceId}

/-- What becomes of a detector on which operations are performed one after the other. -/
def performAll (d : Detector) (history : List DetectorOperation) : Detector :=
  history.foldl (fun d op => (d.perform op).1) d

@[simp] theorem performAll_nil (d : Detector) : d.performAll [] = d := rfl

@[simp] theorem performAll_cons (d : Detector) (op : DetectorOperation)
    (history : List DetectorOperation) :
    d.performAll (op :: history) = (d.perform op).1.performAll history := rfl

theorem performAll_append (d : Detector) (past future : List DetectorOperation) :
    d.performAll (past ++ future) = (d.performAll past).performAll future :=
  List.foldl_append

theorem performAll_concat (d : Detector) (past : List DetectorOperation) (op : DetectorOperation) :
    d.performAll (past ++ [op]) = ((d.performAll past).perform op).1 := by
  simp [performAll_append]

theorem SameButTimers.reportOf_eq {d' : Detector} (h : SameButTimers d d') (r : InstanceId) :
    d'.reportOf r = d.reportOf r := by
  obtain ⟨t, rfl⟩ := h
  rfl

theorem cluster_perform (d : Detector) {op : DetectorOperation} (own : op.IsOwn) :
    (d.perform op).1.cluster = d.cluster := by
  cases op with
  | forgetFailures | takePending | setTimer _ _ | cancelTimer _ => rfl
  | heardFrom id => exact d.cluster_heardFrom id
  | suspect id => exact d.cluster_suspect id
  | receiveReport q s => exact d.cluster_receiveReport q s
  | depart id => exact d.cluster_depart id
  | syncMembers => exact d.cluster_syncMembers
  | checkMembers => exact d.cluster_checkMembers
  | armTimers cause => exact d.cluster_armTimers cause
  | disarmTimers => exact d.cluster_disarmTimers
  | changeCluster change => exact absurd rfl (own change)

theorem me_perform (d : Detector) (op : DetectorOperation) : (d.perform op).1.me = d.me := by
  rcases op.isOwn_or with own | ⟨change, rfl⟩
  · exact congrArg Cluster.me (d.cluster_perform own)
  · exact d.cluster.me_apply change

theorem reportOf_perform (d : Detector) (op : DetectorOperation) (r : InstanceId) :
    (d.perform op).1.reportOf r = op.revise d.me r (d.reportOf r) := by
  cases op with
  | forgetFailures | takePending | setTimer _ _ | cancelTimer _ | changeCluster _ => rfl
  | heardFrom id =>
      ext x
      by_cases hr : r = d.me <;>
        simp [perform, DetectorOperation.revise, mem_reportOf_heardFrom, hr]
  | suspect id =>
      ext x
      by_cases hid : id = d.me
      · simp [perform, DetectorOperation.revise, suspect_eq, hid]
      · by_cases hr : r = d.me <;>
          simp [perform, DetectorOperation.revise, mem_reportOf_suspect hid, hid, hr, or_comm]
  | receiveReport q s =>
      ext x
      by_cases hr : r = q <;>
        simp [perform, DetectorOperation.revise, mem_reportOf_receiveReport, hr]
  | depart id =>
      ext x
      by_cases hr : r = id <;>
        simp [perform, DetectorOperation.revise, mem_reportOf_depart, hr]
  | syncMembers => exact (reportOf_congr d.evidence_syncMembers r :)
  | checkMembers => exact d.reportOf_checkMembers r
  | armTimers cause => exact (d.sameButTimers_armTimers cause).reportOf_eq r
  | disarmTimers => exact d.sameButTimers_disarmTimers.reportOf_eq r

theorem reportOf_performAll (d : Detector) (history : List DetectorOperation) (r : InstanceId) :
    (d.performAll history).reportOf r =
      history.foldl (fun s op => op.revise d.me r s) (d.reportOf r) := by
  induction history generalizing d with
  | nil => rfl
  | cons op history ih =>
      rw [performAll_cons, ih, me_perform, reportOf_perform, List.foldl_cons]

theorem reportOf_performAll_start (cluster : Cluster) (timers : HeartbeatTimers)
    (history : List DetectorOperation) (r : InstanceId) :
    ((start cluster timers).performAll history).reportOf r = latestReport cluster.me history r :=
  reportOf_performAll _ history r

theorem votes_eq_ncard (d : Detector) (x : InstanceId) :
    d.votes x = {r | x ∈ d.reportOf r}.ncard := by
  have accusers : {r | x ∈ d.reportOf r} = ↑(d.accusers x).toList.toFinset := by
    ext r
    simp [SortedSet.mem_toList, mem_accusers]
  rw [accusers, Set.ncard_coe_finset, List.toFinset_card_of_nodup (d.accusers x).nodup,
    votes_eq_size, SortedSet.size]

end Detector
end Vigil
