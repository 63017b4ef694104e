import Mathlib.Data.List.Perm.Subperm
import Vigil.Detector

/-!
Votes, and what the operations of a detector do to the evidence they are counted on. The judgement
of a detector is its set of failed instances with the queue of transitions; whatever else it holds
is evidence. Marking and clearing change the judgement only. The other operations are described by
what they do to `x ∈ d.reportOf r`, and equal reports of `x` give equal votes for `x`.
-/

namespace Vigil

theorem SortedSet.nodup (s : InstanceSet) : s.toList.Nodup :=
  s.increasing.imp fun {a b} hab heq => by
    subst heq
    exact KeyOrder.irrefl a hab

theorem SortedSet.size_le {s t : InstanceSet} (h : ∀ a ∈ s, a ∈ t) : s.size ≤ t.size :=
  (List.subperm_of_subset s.nodup h).length_le

namespace Detector

variable {d d' : Detector} {x id r : InstanceId}

/-- All but the judgement. -/
def evidence (d : Detector) :
    Cluster × HeartbeatTimers × SortedMap InstanceId InstanceSet × List InstanceId :=
  (d.cluster, d.timers, d.reports, d.known)

theorem cluster_congr (h : d.evidence = d'.evidence) : d.cluster = d'.cluster :=
  congrArg Prod.fst h

theorem timers_congr (h : d.evidence = d'.evidence) : d.timers = d'.timers :=
  congrArg (fun e => e.2.1) h

theorem reports_congr (h : d.evidence = d'.evidence) : d.reports = d'.reports :=
  congrArg (fun e => e.2.2.1) h

theorem known_congr (h : d.evidence = d'.evidence) : d.known = d'.known :=
  congrArg (fun e => e.2.2.2) h

theorem reportOf_congr (h : d.evidence = d'.evidence) (r : InstanceId) :
    d.reportOf r = d'.reportOf r := by
  simp only [reportOf, reports_congr h]

theorem votes_congr (h : d.evidence = d'.evidence) (x : InstanceId) : d.votes x = d'.votes x := by
  simp only [votes, reports_congr h]

theorem isFailed_congr (h : d.evidence = d'.evidence) (x : InstanceId) :
    d.isFailed x = d'.isFailed x := by
  simp only [isFailed, cluster_congr h, votes_congr h]

@[simp] theorem evidence_markFailed (d : Detector) (id : InstanceId) :
    (d.markFailed id).evidence = d.evidence := by
  unfold markFailed
  split <;> rfl

@[simp] theorem evidence_clearFailed (d : Detector) (id : InstanceId) :
    (d.clearFailed id).evidence = d.evidence := by
  unfold clearFailed
  split <;> rfl

theorem evidence_foldl {f : Detector → InstanceId → Detector}
    (h : ∀ d id, (f d id).evidence = d.evidence) (l : List InstanceId) (d : Detector) :
    (l.foldl f d).evidence = d.evidence := by
  induction l generalizing d with
  | nil => rfl
  | cons a l ih => rw [List.foldl_cons, ih, h]

@[simp] theorem evidence_markAll (d : Detector) (l : List InstanceId) :
    (l.foldl markFailed d).evidence = d.evidence :=
  evidence_foldl evidence_markFailed l d

@[simp] theorem evidence_clearAll (d : Detector) (l : List InstanceId) :
    (l.foldl clearFailed d).evidence = d.evidence :=
  evidence_foldl evidence_clearFailed l d

@[simp] theorem evidence_reconcile (d : Detector) : d.reconcile.evidence = d.evidence := by
  simp [reconcile]

/-- Following the members leaves all evidence but the list of known members as it is. -/
theorem evidence_syncMembers (d : Detector) :
    d.syncMembers.evidence = { d with known := d.cluster.members }.evidence :=
  evidence_reconcile _

theorem evidence_checkMembers (d : Detector) :
    d.checkMembers.1.evidence = { d with known := d.cluster.members }.evidence := by
  unfold checkMembers
  split
  · rename_i h
    simp [evidence, h]
  · exact d.evidence_syncMembers

/-! ### Votes are reporters -/

theorem mem_accusers : r ∈ d.accusers x ↔ x ∈ d.reportOf r := by
  simp only [accusers, SortedSet.mem_filter, decide_eq_true_eq, SortedMap.mem_keys_iff,
    and_iff_right_iff_imp]
  intro h
  cases hr : d.reports.get? r with
  | none => simp [reportOf, hr] at h
  | some s => exact ⟨s, rfl⟩

theorem votes_eq_size (d : Detector) (x : InstanceId) : d.votes x = (d.accusers x).size := by
  have report : ∀ e ∈ d.reports.toList, d.reportOf e.1 = e.2 := by
    intro e he
    simp [reportOf, SortedMap.get?_eq_some_iff.mpr he]
  calc d.votes x
      = (d.reports.toList.filter fun e => decide (x ∈ d.reportOf e.1)).length := by
        rw [votes, List.countP_eq_length_filter]
        congr 1
        exact List.filter_congr fun e he => by rw [report e he]
    _ = (d.accusers x).size := by
        simp [accusers, SortedSet.filter, SortedSet.size, SortedMap.keys, List.filter_map,
          Function.comp_def]

theorem votes_le (h : ∀ r, x ∈ d.reportOf r → x ∈ d'.reportOf r) : d.votes x ≤ d'.votes x := by
  rw [votes_eq_size, votes_eq_size]
  exact SortedSet.size_le fun r hr => mem_accusers.mpr (h r (mem_accusers.mp hr))

theorem votes_eq (h : ∀ r, x ∈ d.reportOf r ↔ x ∈ d'.reportOf r) : d.votes x = d'.votes x :=
  Nat.le_antisymm (votes_le fun r => (h r).mp) (votes_le fun r => (h r).mpr)

theorem votes_pos_iff : 0 < d.votes x ↔ ∃ r, x ∈ d.reportOf r := by
  rw [votes_eq_size, SortedSet.size, List.length_pos_iff_exists_mem]
  exact exists_congr fun r => mem_accusers

theorem exists_report_of_lt_votes {k : Nat} (h : k < d.votes x) : ∃ r, x ∈ d.reportOf r :=
  votes_pos_iff.mp (Nat.zero_lt_of_lt h)

theorem isFailed_iff : d.isFailed x = true ↔ d.cluster.members.length / 2 < d.votes x :=
  decide_eq_true_iff

theorem mem_suspected : x ∈ d.suspected ↔ ∃ r, x ∈ d.reportOf r := by
  have fold : ∀ (l : List InstanceSet) (s : InstanceSet),
      x ∈ l.foldl SortedSet.union s ↔ x ∈ s ∨ ∃ t ∈ l, x ∈ t := by
    intro l
    induction l with
    | nil => simp
    | cons t l ih =>
        intro s
        simp [ih, or_assoc]
  rw [suspected, fold]
  constructor
  · rintro (h | ⟨s, hs, hx⟩)
    · exact absurd h (SortedSet.not_mem_empty x)
    · obtain ⟨⟨r, s⟩, he, rfl⟩ := List.mem_map.mp hs
      exact ⟨r, by simpa [reportOf, SortedMap.get?_eq_some_iff.mpr he] using hx⟩
  · rintro ⟨r, hr⟩
    cases hs : d.reports.get? r with
    | none => simp [reportOf, hs] at hr
    | some s =>
        refine .inr ⟨s, List.mem_map.mpr ⟨(r, s), SortedMap.get?_eq_some_iff.mp hs, rfl⟩, ?_⟩
        simpa [reportOf, hs] using hr

end Detector

end Vigil
