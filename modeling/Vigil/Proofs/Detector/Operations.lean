import Vigil.Proofs.Detector.Quorum

/-!
What each operation of a detector does to its reports and to its judgement. Hearing from an
instance, suspecting one and receiving a report look again only at the instances whose votes may
have changed, those they indict and those they acquit (`Judges`); `Reevaluates` says that this is
enough, and `Agrees` and `Sound` follow from it.
-/

namespace Vigil
namespace Detector

variable {d d' : Detector} {n : Nat} {x id q r : InstanceId} {s : InstanceSet}

/-! ### Reports and the rest of the evidence -/

@[simp] theorem reportOf_setReport :
    (d.setReport q s).reportOf r = if r = q then s else d.reportOf r := by
  by_cases h : r = q <;> simp [reportOf, setReport, h]

/-- Hearing from `id` takes it out of the own report. -/
def hear (d : Detector) (id : InstanceId) : Detector :=
  if id ∈ d.reportOf d.me then d.setReport d.me ((d.reportOf d.me).erase id) else d

theorem heardFrom_eq (d : Detector) (id : InstanceId) :
    d.heardFrom id = ((d.hear id).clearFailed id, decide (id ∈ d.reportOf d.me)) := by
  by_cases h : id ∈ d.reportOf d.me <;> simp [heardFrom, hear, h]

theorem mem_reportOf_hear :
    x ∈ (d.hear id).reportOf r ↔ x ∈ d.reportOf r ∧ ¬(r = d.me ∧ x = id) := by
  unfold hear
  split
  · by_cases h : r = d.me <;> simp [h]
  · rename_i h
    refine ⟨fun hx => ⟨hx, ?_⟩, And.left⟩
    rintro ⟨rfl, rfl⟩
    exact h hx

theorem evidence_hear (d : Detector) (id : InstanceId) :
    (d.hear id).evidence = (d.cluster, d.timers, (d.hear id).reports, d.known) := by
  unfold hear
  split <;> rfl

theorem evidence_heardFrom (d : Detector) (id : InstanceId) :
    (d.heardFrom id).1.evidence = (d.hear id).evidence := by
  rw [heardFrom_eq, evidence_clearFailed]

theorem mem_reportOf_heardFrom :
    x ∈ (d.heardFrom id).1.reportOf r ↔ x ∈ d.reportOf r ∧ ¬(r = d.me ∧ x = id) := by
  rw [reportOf_congr (d.evidence_heardFrom id), mem_reportOf_hear]

/-- The evidence after suspecting `id`. -/
def accuse (d : Detector) (id : InstanceId) : Detector :=
  d.setReport d.me ((d.reportOf d.me).insert id)

theorem suspect_eq (d : Detector) (id : InstanceId) :
    d.suspect id = if id = d.me then d else (d.accuse id).markFailed id := rfl

theorem mem_reportOf_accuse :
    x ∈ (d.accuse id).reportOf r ↔ x ∈ d.reportOf r ∨ r = d.me ∧ x = id := by
  by_cases h : r = d.me <;> simp [accuse, h, or_comm]

theorem mem_reportOf_suspect (h : id ≠ d.me) :
    x ∈ (d.suspect id).reportOf r ↔ x ∈ d.reportOf r ∨ r = d.me ∧ x = id := by
  rw [suspect_eq, if_neg h, reportOf_congr (evidence_markFailed _ id), mem_reportOf_accuse]

theorem evidence_receiveReport (d : Detector) (q : InstanceId) (s : InstanceSet) :
    (d.receiveReport q s).evidence = (d.setReport q (s.erase d.me)).evidence := by
  simp [receiveReport]

theorem mem_reportOf_receiveReport :
    x ∈ (d.receiveReport q s).reportOf r ↔
      if r = q then x ∈ s ∧ x ≠ d.me else x ∈ d.reportOf r := by
  rw [reportOf_congr (d.evidence_receiveReport q s), reportOf_setReport]
  split <;> simp

/-- The evidence after `id` has left, up to the list of known members. -/
def forget (d : Detector) (id : InstanceId) : Detector :=
  let reports := (d.reports.erase id).mapValues fun _ s => s.erase id
  { d with failed := d.failed.erase id, reports }.cancelTimers id

theorem depart_eq (d : Detector) (id : InstanceId) : d.depart id = (d.forget id).syncMembers := rfl

theorem mem_reportOf_forget :
    x ∈ (d.forget id).reportOf r ↔ x ∈ d.reportOf r ∧ r ≠ id ∧ x ≠ id := by
  have h : (d.forget id).reports = (d.reports.erase id).mapValues fun _ s => s.erase id := rfl
  by_cases hr : r = id
  · simp [reportOf, h, hr]
  · cases hs : d.reports.get? r <;> simp [reportOf, h, hr, hs]

theorem mem_reportOf_depart :
    x ∈ (d.depart id).reportOf r ↔ x ∈ d.reportOf r ∧ r ≠ id ∧ x ≠ id := by
  rw [depart_eq, reportOf_congr (evidence_syncMembers _)]
  exact mem_reportOf_forget

theorem agrees_depart (d : Detector) (id : InstanceId) :
    (d.depart id).Agrees d.cluster.members.length :=
  agrees_syncMembers (d.forget id)

/-! ### Cluster, timers and known members -/

@[simp] theorem cluster_forgetFailures (d : Detector) : d.forgetFailures.cluster = d.cluster := rfl

@[simp] theorem known_forgetFailures (d : Detector) : d.forgetFailures.known = d.known := rfl

@[simp] theorem cluster_heardFrom (d : Detector) (id : InstanceId) :
    (d.heardFrom id).1.cluster = d.cluster :=
  congrArg Prod.fst ((d.evidence_heardFrom id).trans (d.evidence_hear id))

@[simp] theorem timers_heardFrom (d : Detector) (id : InstanceId) :
    (d.heardFrom id).1.timers = d.timers :=
  congrArg (fun e => e.2.1) ((d.evidence_heardFrom id).trans (d.evidence_hear id))

@[simp] theorem known_heardFrom (d : Detector) (id : InstanceId) :
    (d.heardFrom id).1.known = d.known :=
  congrArg (fun e => e.2.2.2) ((d.evidence_heardFrom id).trans (d.evidence_hear id))

theorem evidence_suspect (d : Detector) (id : InstanceId) :
    (d.suspect id).evidence = (d.cluster, d.timers, (d.suspect id).reports, d.known) := by
  rw [suspect_eq]
  split
  · rfl
  · have h := evidence_markFailed (d.accuse id) id
    rw [h, reports_congr h]
    rfl

@[simp] theorem cluster_suspect (d : Detector) (id : InstanceId) :
    (d.suspect id).cluster = d.cluster :=
  congrArg Prod.fst (d.evidence_suspect id)

@[simp] theorem timers_suspect (d : Detector) (id : InstanceId) :
    (d.suspect id).timers = d.timers :=
  congrArg (fun e => e.2.1) (d.evidence_suspect id)

@[simp] theorem known_suspect (d : Detector) (id : InstanceId) :
    (d.suspect id).known = d.known :=
  congrArg (fun e => e.2.2.2) (d.evidence_suspect id)

@[simp] theorem cluster_receiveReport (d : Detector) (q : InstanceId) (s : InstanceSet) :
    (d.receiveReport q s).cluster = d.cluster :=
  (cluster_congr (d.evidence_receiveReport q s) :)

@[simp] theorem timers_receiveReport (d : Detector) (q : InstanceId) (s : InstanceSet) :
    (d.receiveReport q s).timers = d.timers :=
  (timers_congr (d.evidence_receiveReport q s) :)

@[simp] theorem known_receiveReport (d : Detector) (q : InstanceId) (s : InstanceSet) :
    (d.receiveReport q s).known = d.known :=
  (known_congr (d.evidence_receiveReport q s) :)

@[simp] theorem cluster_syncMembers (d : Detector) : d.syncMembers.cluster = d.cluster :=
  (cluster_congr d.evidence_syncMembers :)

@[simp] theorem timers_syncMembers (d : Detector) : d.syncMembers.timers = d.timers :=
  (timers_congr d.evidence_syncMembers :)

@[simp] theorem reports_syncMembers (d : Detector) : d.syncMembers.reports = d.reports :=
  (reports_congr d.evidence_syncMembers :)

@[simp] theorem known_syncMembers (d : Detector) : d.syncMembers.known = d.cluster.members :=
  (known_congr d.evidence_syncMembers :)

@[simp] theorem cluster_checkMembers (d : Detector) : d.checkMembers.1.cluster = d.cluster :=
  (cluster_congr d.evidence_checkMembers :)

@[simp] theorem timers_checkMembers (d : Detector) : d.checkMembers.1.timers = d.timers :=
  (timers_congr d.evidence_checkMembers :)

@[simp] theorem reports_checkMembers (d : Detector) : d.checkMembers.1.reports = d.reports :=
  (reports_congr d.evidence_checkMembers :)

@[simp] theorem known_checkMembers (d : Detector) :
    d.checkMembers.1.known = d.cluster.members :=
  (known_congr d.evidence_checkMembers :)

@[simp] theorem reportOf_checkMembers (d : Detector) (r : InstanceId) :
    d.checkMembers.1.reportOf r = d.reportOf r :=
  (reportOf_congr d.evidence_checkMembers r :)

@[simp] theorem votes_checkMembers (d : Detector) (x : InstanceId) :
    d.checkMembers.1.votes x = d.votes x :=
  (votes_congr d.evidence_checkMembers x :)

@[simp] theorem cluster_depart (d : Detector) (id : InstanceId) :
    (d.depart id).cluster = d.cluster :=
  cluster_syncMembers _

@[simp] theorem timers_depart (d : Detector) (id : InstanceId) :
    (d.depart id).timers = (d.timers.without (.receive id)).without (.send id) :=
  timers_syncMembers _

@[simp] theorem known_depart (d : Detector) (id : InstanceId) :
    (d.depart id).known = d.cluster.members :=
  known_syncMembers _

/-! ### Looking again where votes may have changed -/

/-- Whoever is indicted has not lost votes and is marked if it has a quorum of `n`, whoever is
acquitted has not gained votes and is cleared if it has none, and nobody is both; of all others
neither votes nor place change. -/
def Judges (n : Nat) (indicted acquitted : InstanceId → Prop) (d d' : Detector) : Prop := ∀ x,
  (indicted x ∧ ¬ acquitted x ∧ d.votes x ≤ d'.votes x ∧
    (x ∈ d'.failed ↔ x ∈ d.failed ∨ n / 2 < d'.votes x)) ∨
  (acquitted x ∧ ¬ indicted x ∧ d'.votes x ≤ d.votes x ∧
    (x ∈ d'.failed ↔ x ∈ d.failed ∧ n / 2 < d'.votes x)) ∨
  (¬ indicted x ∧ ¬ acquitted x ∧ d'.votes x = d.votes x ∧ (x ∈ d'.failed ↔ x ∈ d.failed))

/-- For every instance, either its votes did not fall and it was marked if it has a quorum, or they
did not rise and it was cleared if it has none, or neither its votes nor its place changed. -/
def Reevaluates (n : Nat) (d d' : Detector) : Prop := ∀ x,
  (d.votes x ≤ d'.votes x ∧ (x ∈ d'.failed ↔ x ∈ d.failed ∨ n / 2 < d'.votes x)) ∨
  (d'.votes x ≤ d.votes x ∧ (x ∈ d'.failed ↔ x ∈ d.failed ∧ n / 2 < d'.votes x)) ∨
  (d'.votes x = d.votes x ∧ (x ∈ d'.failed ↔ x ∈ d.failed))

theorem Judges.reevaluates {indicted acquitted : InstanceId → Prop}
    (h : Judges n indicted acquitted d d') : Reevaluates n d d' := by
  intro x
  rcases h x with ⟨-, -, marked⟩ | ⟨-, -, cleared⟩ | ⟨-, -, untouched⟩
  · exact .inl marked
  · exact .inr (.inl cleared)
  · exact .inr (.inr untouched)

theorem Agrees.reevaluated (h : d.Agrees n) (hr : Reevaluates n d d') : d'.Agrees n := by
  intro x
  rcases hr x with ⟨hv, hf⟩ | ⟨hv, hf⟩ | ⟨hv, hf⟩
  · rw [hf, h x, or_iff_right_of_imp fun hq => Nat.lt_of_lt_of_le hq hv]
  · rw [hf, h x, and_iff_right_of_imp fun hq => Nat.lt_of_lt_of_le hq hv]
  · rw [hf, h x, hv]

theorem Sound.reevaluated (h : d.Sound n) (hr : Reevaluates n d d') : d'.Sound n := by
  intro x hx
  rcases hr x with ⟨hv, hf⟩ | ⟨_, hf⟩ | ⟨hv, hf⟩
  · rcases hf.mp hx with hx | hq
    · exact Nat.lt_of_lt_of_le (h x hx) hv
    · exact hq
  · exact (hf.mp hx).2
  · rw [hv]
    exact h x (hf.mp hx)

theorem judges_heardFrom (d : Detector) (id : InstanceId) :
    Judges d.cluster.members.length (fun _ => False) (· = id) d (d.heardFrom id).1 := by
  intro x
  have cluster : (d.hear id).cluster = d.cluster := by
    unfold hear
    split <;> rfl
  have failed : (d.hear id).failed = d.failed := by
    unfold hear
    split <;> rfl
  have votes : (d.heardFrom id).1.votes x = (d.hear id).votes x :=
    votes_congr (d.evidence_heardFrom id) x
  by_cases hx : x = id
  · subst hx
    refine .inr (.inl ⟨rfl, not_false, ?_, ?_⟩)
    · exact votes_le fun r hr => (mem_reportOf_heardFrom.mp hr).1
    · rw [votes, heardFrom_eq, mem_failed_clearFailed, isFailed_iff, cluster, failed]
      simp
  · refine .inr (.inr ⟨not_false, hx, ?_, ?_⟩)
    · exact votes_eq fun r => by simp [mem_reportOf_heardFrom, hx]
    · rw [heardFrom_eq, mem_failed_clearFailed, failed]
      simp [hx]

theorem judges_suspect (d : Detector) (id : InstanceId) :
    Judges d.cluster.members.length (fun x => x = id ∧ id ≠ d.me) (fun _ => False) d
      (d.suspect id) := by
  intro x
  by_cases hme : id = d.me
  · rw [suspect_eq, if_pos hme]
    exact .inr (.inr ⟨fun h => h.2 hme, not_false, rfl, Iff.rfl⟩)
  have votes : (d.suspect id).votes x = (d.accuse id).votes x := by
    rw [suspect_eq, if_neg hme, votes_congr (evidence_markFailed _ id)]
  by_cases hx : x = id
  · subst hx
    refine .inl ⟨⟨rfl, hme⟩, not_false, ?_, ?_⟩
    · exact votes_le fun r hr => (mem_reportOf_suspect hme).mpr (.inl hr)
    · rw [votes, suspect_eq, if_neg hme, mem_failed_markFailed, isFailed_iff]
      simp [accuse, setReport]
  · refine .inr (.inr ⟨fun h => hx h.1, not_false, ?_, ?_⟩)
    · exact votes_eq fun r => by simp [mem_reportOf_suspect hme, hx]
    · rw [suspect_eq, if_neg hme, mem_failed_markFailed]
      simp [accuse, setReport, hx]

theorem judges_receiveReport (d : Detector) (q : InstanceId) (s : InstanceSet) :
    Judges d.cluster.members.length (fun x => x ∈ s.erase d.me)
      (fun x => x ∈ d.reportOf q ∧ x ∉ s.erase d.me) d (d.receiveReport q s) := by
  intro x
  have votes := votes_congr (d.evidence_receiveReport q s) x
  have failed : x ∈ (d.receiveReport q s).failed ↔
      (x ∈ d.failed ∨ x ∈ s.erase d.me ∧ (d.setReport q (s.erase d.me)).isFailed x = true) ∧
      (x ∈ d.reportOf q ∧ x ∉ s.erase d.me →
        (d.setReport q (s.erase d.me)).isFailed x = true) := by
    rw [receiveReport, mem_failed_clearAll, mem_failed_markAll,
      isFailed_congr (evidence_markAll _ _), SortedSet.mem_toList, SortedSet.mem_toList,
      SortedSet.mem_diff]
    rfl
  rw [votes, failed, isFailed_iff]
  by_cases hs : x ∈ s.erase d.me
  · refine .inl ⟨hs, fun h => h.2 hs, votes_le fun r hr => ?_, by simp [hs, setReport]⟩
    rw [reportOf_setReport]
    split <;> assumption
  · by_cases hq : x ∈ d.reportOf q
    · refine .inr (.inl ⟨⟨hq, hs⟩, hs, votes_le fun r hr => ?_, by simp [hs, hq, setReport]⟩)
      rw [reportOf_setReport] at hr
      split at hr
      · exact absurd hr hs
      · exact hr
    · refine .inr (.inr ⟨hs, fun h => hq h.1, votes_eq fun r => ?_, by simp [hs, hq]⟩)
      rw [reportOf_setReport]
      split
      · rename_i h
        exact iff_of_false hs (h ▸ hq)
      · rfl

theorem reevaluates_heardFrom (d : Detector) (id : InstanceId) :
    Reevaluates d.cluster.members.length d (d.heardFrom id).1 :=
  (d.judges_heardFrom id).reevaluates

theorem reevaluates_suspect (d : Detector) (id : InstanceId) :
    Reevaluates d.cluster.members.length d (d.suspect id) :=
  (d.judges_suspect id).reevaluates

theorem reevaluates_receiveReport (d : Detector) (q : InstanceId) (s : InstanceSet) :
    Reevaluates d.cluster.members.length d (d.receiveReport q s) :=
  (d.judges_receiveReport q s).reevaluates

end Detector
end Vigil
