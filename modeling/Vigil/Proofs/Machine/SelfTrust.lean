import Vigil.Participant
import Vigil.Proofs.Detector.Chronicle
import Vigil.Proofs.Detector.Mail
import Vigil.Proofs.Machine.Agreement

/-!
No instance takes itself for failed. A detector vouches for an instance if it holds no suspicion of
it, has not failed it and has nothing queued about it. Marking and clearing keep that, so an
operation keeps it wherever it brings no suspicion in (`Vouches.changed`), and both ways in are shut
to suspicions of the instance itself: its own, and those in the reports of others, its own name on
them included.
-/

namespace Vigil

/-- What can happen to a machine and to its detector: a message comes, the clock moves, or somebody
works on the detector. -/
inductive Incident where
  | message (outlet : Outlet) (e : Envelope Signal)
  | expire (time : Nat)
  | operation (op : DetectorOperation)

namespace Detector

variable {d d' : Detector} {x id q : InstanceId} {s : InstanceSet} {e : Envelope Signal}

/-- Nothing is held against `x`. -/
structure Vouches (d : Detector) (x : InstanceId) : Prop where
  trusts : d.Trusts x
  unfailed : x ∉ d.failed
  unmentioned : ∀ t ∈ d.pending, t.subject ≠ x

/-! ### Marking and clearing -/

theorem Vouches.markFailed (h : d.Vouches x) (id : InstanceId) : (d.markFailed id).Vouches x := by
  refine ⟨fun r => reportOf_congr (evidence_markFailed d id) r ▸ h.trusts r, fun marked => ?_, ?_⟩
  · rcases mem_failed_markFailed.mp marked with failed | ⟨rfl, failed⟩
    · exact h.unfailed failed
    · exact absurd (h.trusts.not_failed.symm.trans failed) (by decide)
  · unfold Detector.markFailed
    split
    · rename_i failed
      refine List.forall_mem_append.mpr ⟨h.unmentioned, List.forall_mem_singleton.mpr ?_⟩
      rintro rfl
      exact absurd (h.trusts.not_failed.symm.trans failed.1) (by decide)
    · exact h.unmentioned

theorem Vouches.clearFailed (h : d.Vouches x) (id : InstanceId) : (d.clearFailed id).Vouches x := by
  refine ⟨fun r => reportOf_congr (evidence_clearFailed d id) r ▸ h.trusts r,
    fun kept => h.unfailed (mem_failed_clearFailed.mp kept).1, ?_⟩
  unfold Detector.clearFailed
  split
  · rename_i failed
    refine List.forall_mem_append.mpr ⟨h.unmentioned, List.forall_mem_singleton.mpr ?_⟩
    rintro rfl
    exact h.unfailed failed.1
  · exact h.unmentioned

theorem Vouches.foldl {f : Detector → InstanceId → Detector}
    (step : ∀ {d : Detector}, d.Vouches x → ∀ id, (f d id).Vouches x) (h : d.Vouches x)
    (l : List InstanceId) : (l.foldl f d).Vouches x := by
  induction l generalizing d with
  | nil => exact h
  | cons id l ih => exact ih (step h id)

/-! ### Operations -/

/-- Where nobody has come to be failed and nothing is queued, only suspicions matter. -/
theorem Vouches.changed (h : d.Vouches x) (trusts : d'.Trusts x)
    (failed : ∀ y ∈ d'.failed, y ∈ d.failed) (pending : d'.pending = d.pending) : d'.Vouches x :=
  ⟨trusts, fun hx => h.unfailed (failed x hx), pending ▸ h.unmentioned⟩

theorem Vouches.sameButTimers (h : d.Vouches x) (same : SameButTimers d d') : d'.Vouches x := by
  obtain ⟨t, rfl⟩ := same
  exact h.changed h.trusts (fun _ => id) rfl

theorem Vouches.forgetFailures (h : d.Vouches x) : d.forgetFailures.Vouches x :=
  h.changed h.trusts (fun y hy => absurd hy (SortedSet.not_mem_empty y)) rfl

theorem Vouches.setReport (h : d.Vouches x) (hs : x ∉ s) : (d.setReport q s).Vouches x := by
  refine h.changed (fun r => ?_) (fun _ => id) rfl
  rw [reportOf_setReport]
  split
  · exact hs
  · exact h.trusts r

theorem Vouches.heardFrom (h : d.Vouches x) (id : InstanceId) : (d.heardFrom id).1.Vouches x := by
  rw [heardFrom_eq]
  refine Vouches.clearFailed ?_ id
  unfold hear
  split
  · exact h.setReport fun hx => h.trusts d.me (SortedSet.mem_erase.mp hx).1
  · exact h

theorem Vouches.suspect (h : d.Vouches d.me) (id : InstanceId) : (d.suspect id).Vouches d.me := by
  rw [suspect_eq]
  split
  · exact h
  · rename_i other
    refine Vouches.markFailed (h.setReport fun accused => ?_) id
    rcases SortedSet.mem_insert.mp accused with same | old
    · exact other same.symm
    · exact h.trusts d.me old

theorem Vouches.receiveReport (h : d.Vouches d.me) (q : InstanceId) (s : InstanceSet) :
    (d.receiveReport q s).Vouches d.me := by
  have stored : (d.setReport q (s.erase d.me)).Vouches d.me :=
    h.setReport fun accused => (SortedSet.mem_erase.mp accused).2 rfl
  exact .foldl Vouches.clearFailed (.foldl Vouches.markFailed stored _) _

theorem Vouches.syncMembers (h : d.Vouches x) : d.syncMembers.Vouches x := by
  have known : { d with known := d.cluster.members }.Vouches x :=
    ⟨h.trusts, h.unfailed, h.unmentioned⟩
  exact .foldl Vouches.markFailed (.foldl Vouches.clearFailed known _) _

theorem Vouches.checkMembers (h : d.Vouches x) : d.checkMembers.1.Vouches x := by
  unfold Detector.checkMembers
  split
  · exact h
  · exact h.syncMembers

theorem Vouches.depart (h : d.Vouches x) (id : InstanceId) : (d.depart id).Vouches x := by
  have forgotten : (d.forget id).Vouches x :=
    h.changed (fun r hr => h.trusts r (mem_reportOf_forget.mp hr).1)
      (fun _ hy => (SortedSet.mem_erase.mp hy).1) rfl
  exact forgotten.syncMembers

theorem vouches_perform (h : d.Vouches d.me) (op : DetectorOperation) :
    (d.perform op).1.Vouches d.me := by
  cases op with
  | forgetFailures => exact h.forgetFailures
  | heardFrom id => exact h.heardFrom id
  | suspect id => exact h.suspect id
  | receiveReport q s => exact h.receiveReport q s
  | depart id => exact h.depart id
  | syncMembers => exact h.syncMembers
  | checkMembers => exact h.checkMembers
  | takePending => exact ⟨h.trusts, h.unfailed, fun t ht => absurd ht List.not_mem_nil⟩
  | armTimers cause => exact h.sameButTimers (d.sameButTimers_armTimers cause)
  | disarmTimers => exact h.sameButTimers d.sameButTimers_disarmTimers
  | setTimer _ _ | cancelTimer _ | changeCluster _ => exact ⟨h.trusts, h.unfailed, h.unmentioned⟩

theorem unmentioned_perform (h : d.Vouches x) (op : DetectorOperation) :
    ∀ t ∈ (d.perform op).2.handedOut, t.subject ≠ x := by
  cases op with
  | takePending => exact h.unmentioned
  | _ => exact fun t ht => absurd ht List.not_mem_nil

theorem vouches_respondInHeartbeat (h : d.Vouches d.me) (e : Envelope Signal) :
    (d.respondInHeartbeat e).detector.Vouches d.me := by
  have timer {d' : Detector} (h' : d'.Vouches d.me) (k : TimerKey) (message : Envelope Signal) :
      (d'.setTimer k message).Vouches d.me := h'.sameButTimers ⟨_, rfl⟩
  unfold respondInHeartbeat
  split
  · exact h
  · exact h.sameButTimers d.sameButTimers_disarmTimers
  · split
    · exact h
    · exact timer (h.heardFrom _) _ _
  · split
    · exact timer (h.suspect _) _ _
    · exact h.depart _
  · split
    · exact h
    · exact timer h _ _
  · split
    · exact h
    · exact timer (h.sameButTimers ⟨_, rfl⟩) _ _
  · split
    · exact h.receiveReport _ _
    · exact h

end Detector

/-! ### Runs -/

namespace Machine

variable {m : Machine}

/-- What becomes of the machine, and the transitions that are handed out. -/
def face (m : Machine) : Incident → Machine × List Transition
  | .message outlet e => let (m, o) := m.handle outlet e; (m, o.transitions)
  | .expire time => ((m.expire time).1, [])
  | .operation op =>
    let (detector, answer) := m.detector.perform op
    ({ m with detector }, answer.handedOut)

def faceAll (m : Machine) : List Incident → Machine × List Transition
  | [] => (m, [])
  | i :: is =>
    let (m, told) := m.face i
    let (m, later) := m.faceAll is
    (m, told ++ later)

theorem me_face (m : Machine) (i : Incident) : (m.face i).1.me = m.me := by
  cases i with
  | message outlet e => exact congrArg Cluster.me (m.cluster_handle outlet e)
  | expire time => rfl
  | operation op => exact m.detector.me_perform op

theorem vouches_respond (h : m.detector.Vouches m.me) (e : Envelope Signal) :
    (m.respond e).detector.Vouches m.me := by
  have checked : m.detector.checkMembers.1.Vouches m.me := h.checkMembers
  have same : m.detector.checkMembers.1.me = m.me :=
    congrArg Cluster.me m.detector.cluster_checkMembers
  rcases m.respond_cases e with ⟨-, -, respond⟩ | ⟨-, -, respond⟩ | ⟨-, respond⟩ <;> rw [respond]
  · exact checked
  · exact checked.forgetFailures.sameButTimers (Detector.sameButTimers_armTimers _ e)
  · rw [← same] at checked ⊢
    exact Detector.vouches_respondInHeartbeat checked e

theorem vouches_face (h : m.detector.Vouches m.me) (i : Incident) :
    (m.face i).1.detector.Vouches m.me ∧ ∀ t ∈ (m.face i).2, t.subject ≠ m.me := by
  cases i with
  | message outlet e =>
      have after := vouches_respond h e
      exact ⟨⟨after.trusts, after.unfailed, fun t ht => absurd ht List.not_mem_nil⟩,
        after.unmentioned⟩
  | expire time =>
      exact ⟨h.sameButTimers ⟨_, rfl⟩, fun t ht => absurd ht List.not_mem_nil⟩
  | operation op => exact ⟨Detector.vouches_perform h op, Detector.unmentioned_perform h op⟩

theorem vouches_faceAll (h : m.detector.Vouches m.me) (incidents : List Incident) :
    (m.faceAll incidents).1.me = m.me ∧ (m.faceAll incidents).1.detector.Vouches m.me ∧
      ∀ t ∈ (m.faceAll incidents).2, t.subject ≠ m.me := by
  induction incidents generalizing m with
  | nil => exact ⟨rfl, h, fun t ht => absurd ht List.not_mem_nil⟩
  | cons i incidents ih =>
      obtain ⟨after, told⟩ := vouches_face h i
      have same := m.me_face i
      obtain ⟨me, vouches, later⟩ := ih (same.symm ▸ after)
      rw [same] at me vouches later
      exact ⟨me, vouches, List.forall_mem_append.mpr ⟨told, later⟩⟩

/-- Whatever messages come and whatever is done to its detector, in any order and in anybody's name,
an instance holds no report against itself, is not failed by its own judgement, tells nobody that it
has failed or come alive, and counts itself among the alive members if it is a member. -/
theorem never_accuses_itself (cluster : Cluster) (timers : HeartbeatTimers)
    (incidents : List Incident) :
    let run := (fresh cluster timers).faceAll incidents
    let d := run.1.detector
    d.me = cluster.me ∧
    (∀ r s, d.reports.get? r = some s → cluster.me ∉ s) ∧
    d.isFailed cluster.me = false ∧
    cluster.me ∉ d.failed ∧
    (∀ t ∈ run.2 ++ d.pending, t.subject ≠ cluster.me) ∧
    (cluster.me ∈ d.cluster.members → cluster.me ∈ d.aliveMembers) := by
  intro run d
  have start : (fresh cluster timers).detector.Vouches cluster.me :=
    ⟨fun _ => SortedSet.not_mem_empty _, SortedSet.not_mem_empty _,
      fun t ht => absurd ht List.not_mem_nil⟩
  obtain ⟨me, vouches, told⟩ := vouches_faceAll start incidents
  refine ⟨me, fun r s stored accused => ?_, vouches.trusts.not_failed, vouches.unfailed,
    List.forall_mem_append.mpr ⟨told, vouches.unmentioned⟩, fun member => ?_⟩
  · have suspected : cluster.me ∈ d.reportOf r := by
      rw [Detector.reportOf, stored]
      exact accused
    exact vouches.trusts r suspected
  · have unfailed : d.isFailed cluster.me = false := vouches.trusts.not_failed
    simp [Detector.aliveMembers, member, unfailed]

end Machine
end Vigil
