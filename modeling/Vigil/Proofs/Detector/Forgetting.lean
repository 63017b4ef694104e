import Vigil.Proofs.Detector.Arming
import Vigil.Proofs.Detector.Differences

/-!
What a departure leaves behind. The transitions of working the failures out anew are the differences
between the failed instances before and after, in order (`pending_reconcile`), and there are none
where the failed instances are right already (`reconcile_eq_self`). A departure takes the departed
out of everything first and then works the failures out anew, so its whole effect can be read off
(`depart_forgets`), and a second departure finds nothing left to do.
-/

namespace Vigil

namespace Transition

variable {s s' : InstanceSet} {t : Transition}

/-- All there is to tell when the failed instances change from one set to another: who is alive
again and then who has failed, each in increasing order. -/
def changes (s s' : InstanceSet) : List Transition :=
  (s.diff s').toList.map .alive ++ (s'.diff s).toList.map .failed

theorem mem_changes : t ∈ changes s s' ↔ t.Between s s' := by
  cases t <;> simp [changes, Between, SortedSet.mem_toList, and_comm]

theorem changes_self (s : InstanceSet) : changes s s = [] := by
  refine List.eq_nil_iff_forall_not_mem.mpr fun t ht => ?_
  have differs := mem_changes.mp ht
  cases t with
  | failed id => exact differs.1 differs.2
  | alive id => exact differs.2 differs.1

end Transition

namespace Detector

variable {d d' : Detector} {id r : InstanceId} {key : TimerKey}

/-! ### Working the failures out anew -/

/-- Where a step on one instance announces it or not, and leaves it open for the others, a fold
announces in order those that it finds so at the start. -/
theorem pending_foldl {f : Detector → InstanceId → Detector} {p : Detector → InstanceId → Bool}
    {announce : InstanceId → Transition}
    (step : ∀ d a, (f d a).pending = d.pending ++ if p d a = true then [announce a] else [])
    (others : ∀ d a x, x ≠ a → p (f d a) x = p d x) {l : List InstanceId} (distinct : l.Nodup) :
    (l.foldl f d).pending = d.pending ++ (l.filter (p d)).map announce := by
  induction l generalizing d with
  | nil => simp
  | cons a l ih =>
      obtain ⟨fresh, distinct⟩ := List.nodup_cons.mp distinct
      have rest : l.filter (p (f d a)) = l.filter (p d) :=
        List.filter_congr fun x hx => others d a x fun same => fresh (same ▸ hx)
      rw [List.foldl_cons, ih distinct, rest, step, List.filter_cons]
      split <;> simp

theorem pending_clearAll {l : List InstanceId} (distinct : l.Nodup) :
    (l.foldl clearFailed d).pending = d.pending ++
      (l.filter fun x => decide (x ∈ d.failed ∧ d.isFailed x = false)).map .alive := by
  refine pending_foldl (p := fun d x => decide (x ∈ d.failed ∧ d.isFailed x = false))
    (fun d a => ?_) (fun d a x other => ?_) distinct
  · by_cases cleared : a ∈ d.failed ∧ d.isFailed a = false
    · simp [clearFailed, cleared]
    · simp [clearFailed, cleared]
  · simp [mem_failed_clearFailed, isFailed_congr (evidence_clearFailed d a), other]

theorem pending_markAll {l : List InstanceId} (distinct : l.Nodup) :
    (l.foldl markFailed d).pending = d.pending ++
      (l.filter fun x => decide (d.isFailed x = true ∧ x ∉ d.failed)).map .failed := by
  refine pending_foldl (p := fun d x => decide (d.isFailed x = true ∧ x ∉ d.failed))
    (fun d a => ?_) (fun d a x other => ?_) distinct
  · by_cases marked : d.isFailed a = true ∧ a ∉ d.failed
    · simp [markFailed, marked]
    · simp [markFailed, marked]
  · simp [mem_failed_markFailed, isFailed_congr (evidence_markFailed d a), other]

theorem pending_reconcile (d : Detector) :
    d.reconcile.pending = d.pending ++ Transition.changes d.failed d.reconcile.failed := by
  have cleared : (d.failed.toList.filter fun x => decide (x ∈ d.failed ∧ d.isFailed x = false)) =
      (d.failed.diff d.reconcile.failed).toList := by
    refine List.filter_congr fun x hx => ?_
    simp [mem_failed_reconcile, SortedSet.mem_toList.mp hx]
  have marked : (d.suspected.toList.filter fun x =>
        decide ((d.failed.toList.foldl clearFailed d).isFailed x = true ∧
          x ∉ (d.failed.toList.foldl clearFailed d).failed)) =
      (d.reconcile.failed.diff d.failed).toList := by
    refine SortedSet.toList_eq_of_mem_iff (d.suspected.increasing.filter _)
      (d.reconcile.failed.diff d.failed).increasing fun x => ?_
    have suspected (h : d.isFailed x = true) : x ∈ d.suspected :=
      mem_suspected.mpr (exists_report_of_lt_votes (isFailed_iff.mp h))
    rw [SortedSet.mem_toList, SortedSet.mem_diff, mem_failed_reconcile, List.mem_filter,
      SortedSet.mem_toList, decide_eq_true_iff, isFailed_congr (evidence_clearAll d _),
      mem_failed_clearAll, SortedSet.mem_toList]
    tauto
  calc d.reconcile.pending
      = (d.failed.toList.foldl clearFailed d).pending ++
          (d.reconcile.failed.diff d.failed).toList.map .failed := by
        rw [← marked]
        exact pending_markAll d.suspected.nodup
    _ = d.pending ++ Transition.changes d.failed d.reconcile.failed := by
        rw [pending_clearAll d.failed.nodup, cleared, List.append_assoc]
        rfl

theorem eq_of_evidence (evidence : d.evidence = d'.evidence) (failed : d.failed = d'.failed)
    (pending : d.pending = d'.pending) : d = d' := by
  cases d
  cases d'
  simp only [Detector.evidence, Prod.mk.injEq] at evidence
  simp only [mk.injEq]
  tauto

theorem reconcile_eq_self (settled : ∀ x, x ∈ d.failed ↔ d.isFailed x = true) :
    d.reconcile = d := by
  have failed : d.reconcile.failed = d.failed :=
    SortedSet.ext fun x => mem_failed_reconcile.trans (settled x).symm
  refine eq_of_evidence (evidence_reconcile d) failed ?_
  rw [pending_reconcile, failed, Transition.changes_self, List.append_nil]

theorem syncMembers_eq_self (settled : ∀ x, x ∈ d.failed ↔ d.isFailed x = true)
    (known : d.known = d.cluster.members) : d.syncMembers = d := by
  have same : { d with known := d.cluster.members } = d := by rw [← known]
  rw [syncMembers, same, reconcile_eq_self settled]

/-! ### A departure -/

theorem get?_reports_depart (d : Detector) (id r : InstanceId) :
    (d.depart id).reports.get? r =
      if r = id then none else (d.reports.get? r).map fun s => s.erase id := by
  have forgotten : (d.depart id).reports = (d.reports.erase id).mapValues fun _ s => s.erase id :=
    (d.forget id).reports_syncMembers
  rw [forgotten]
  by_cases same : r = id
  · simp [same]
  · simp [same]

theorem find?_timers_depart (d : Detector) (id : InstanceId) (key : TimerKey) :
    (d.depart id).timers.find? key = if key.peer = id then none else d.timers.find? key := by
  rw [timers_depart, LogicalTimers.find?_without, LogicalTimers.find?_without]
  cases key with
  | receive q | send q => by_cases same : q = id <;> simp [TimerKey.peer, same]

theorem settled_depart (d : Detector) (id : InstanceId) :
    ∀ x, x ∈ (d.depart id).failed ↔ (d.depart id).isFailed x = true :=
  agrees_members_iff.mp ((d.cluster_depart id).symm ▸ d.agrees_depart id)

theorem not_mem_failed_depart (d : Detector) (id : InstanceId) : id ∉ (d.depart id).failed := by
  intro failed
  have quorum := isFailed_iff.mp ((d.settled_depart id id).mp failed)
  obtain ⟨r, hr⟩ := exists_report_of_lt_votes quorum
  exact (mem_reportOf_depart.mp hr).2.2 rfl

theorem pending_depart (d : Detector) (id : InstanceId) :
    (d.depart id).pending =
      d.pending ++ Transition.changes (d.failed.erase id) (d.depart id).failed :=
  pending_reconcile { d.forget id with known := d.cluster.members }

/-- Where nothing is left of an instance, forgetting it does nothing. -/
theorem forget_eq_self (failed : id ∉ d.failed) (report : d.reports.get? id = none)
    (unsuspected : ∀ r s, d.reports.get? r = some s → id ∉ s)
    (timers : (d.timers.without (.receive id)).without (.send id) = d.timers) :
    d.forget id = d := by
  have reports : ((d.reports.erase id).mapValues fun _ s => s.erase id) = d.reports := by
    ext r s
    by_cases same : r = id
    · simp [same, report]
    · cases hs : d.reports.get? r with
      | none => simp [same, hs]
      | some t => simp [same, hs, SortedSet.erase_eq_self (unsuspected r t hs)]
  simp only [forget, cancelTimers, SortedSet.erase_eq_self failed, reports, timers]

theorem depart_depart (d : Detector) (id : InstanceId) :
    (d.depart id).depart id = d.depart id := by
  have timers : ((d.depart id).timers.without (.receive id)).without (.send id) =
      (d.depart id).timers := by
    simp only [timers_depart, LogicalTimers.without, List.filter_filter]
    congr 1
    refine List.filter_congr fun a _ => ?_
    cases a.key != .receive id <;> cases a.key != .send id <;> rfl
  have unsuspected (r : InstanceId) (s : InstanceSet)
      (hs : (d.depart id).reports.get? r = some s) : id ∉ s := by
    intro hid
    have suspected : id ∈ (d.depart id).reportOf r := by simpa [reportOf, hs] using hid
    exact (mem_reportOf_depart.mp suspected).2.2 rfl
  have forgotten : (d.depart id).forget id = d.depart id :=
    forget_eq_self (d.not_mem_failed_depart id) (by simp [get?_reports_depart]) unsuspected timers
  rw [depart_eq, forgotten]
  refine syncMembers_eq_self (d.settled_depart id) ?_
  rw [known_depart, cluster_depart]

/-- Whatever the state was, a departure takes the departed out of the failed instances, its report
and all suspicions of it out of the reports, and its timers out of those pending, and leaves all
other reports and timers as they are. The failed instances are then those failed by quorum, the
differences are queued in order, and a second departure changes nothing. -/
theorem depart_forgets (d : Detector) (id : InstanceId) :
    let d' := d.depart id
    let news := ((d.failed.erase id).diff d'.failed).toList.map .alive ++
      (d'.failed.diff (d.failed.erase id)).toList.map .failed
    (id ∉ d'.failed ∧ d'.reports.get? id = none ∧ (∀ r, id ∉ d'.reportOf r) ∧
      d'.timers.isPending (.receive id) = false ∧ d'.timers.isPending (.send id) = false) ∧
    (d'.cluster = d.cluster ∧
      (∀ r, r ≠ id → d'.reports.get? r = (d.reports.get? r).map fun s => s.erase id) ∧
      ∀ key : TimerKey, key.peer ≠ id → d'.timers.find? key = d.timers.find? key) ∧
    (∀ m, m ∈ d'.failed ↔ d'.isFailed m = true) ∧
    (d'.pending = d.pending ++ news ∧ .alive id ∉ news ∧ .failed id ∉ news) ∧
    d'.depart id = d' := by
  intro d' news
  have absent : id ∉ d'.failed := d.not_mem_failed_depart id
  have unpending {key : TimerKey} (peer : key.peer = id) : d'.timers.isPending key = false := by
    rw [LogicalTimers.isPending, find?_timers_depart, if_pos peer]
    rfl
  refine ⟨⟨absent, ?_, fun r hr => (mem_reportOf_depart.mp hr).2.2 rfl, unpending rfl,
    unpending rfl⟩, ⟨d.cluster_depart id, fun r other => ?_, fun key other => ?_⟩,
    d.settled_depart id, ⟨d.pending_depart id, fun ht => ?_, fun ht => ?_⟩, d.depart_depart id⟩
  · rw [get?_reports_depart, if_pos rfl]
  · rw [get?_reports_depart, if_neg other]
  · rw [find?_timers_depart, if_neg other]
  · have gone : id ∈ d.failed.erase id := (Transition.mem_changes.mp ht).1
    exact (SortedSet.mem_erase.mp gone).2 rfl
  · exact absent (Transition.mem_changes.mp ht).2

end Detector
end Vigil
