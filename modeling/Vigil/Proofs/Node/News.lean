import Vigil.Proofs.Detector.Differences
import Vigil.Proofs.Node.Pump

/-!
What a node announces while it works through its mail, where nobody but `x` is suspected. If the mail
lets suspicion of `x` only grow, `x` may fail and is not announced alive (`swing_after_of_raises`),
and if it lets it only shrink, `x` may come alive and is not announced failed
(`swing_after_of_lowers`). The same goes for the reports that the node sends.
-/

namespace Vigil

/-- Nobody but `x` is suspected by anybody. -/
def Detector.SuspectsOnly (d : Detector) (x : InstanceId) : Prop := ∀ y, y ≠ x → d.Trusts y

/-- The message makes nobody suspect anybody but `x`. -/
def Envelope.ConcernsOnly (x : InstanceId) (e : Envelope Signal) : Prop := ∀ y, y ≠ x → e.Spares y

/-- The message takes no suspicion of `x` away. -/
structure Envelope.Raises (x : InstanceId) (e : Envelope Signal) : Prop where
  beat : e.content ≠ .iAmAlive x
  report : ∀ t, e.content = .suspicions t → x ∈ t

/-- Nobody is sent a report of itself. -/
theorem Detector.sender_ne_of_awaited {me q : InstanceId} {members : List InstanceId}
    {e : Envelope Signal} {t : InstanceSet} (ha : Awaited me members e)
    (report : e.reportFrom q = some t) : q ≠ me := by
  obtain ⟨content, sender⟩ := Envelope.content_of_reportFrom report
  cases ha with
  | due key hk =>
      rw [hk] at content
      cases key <;> cases content
  | heartbeat p hp =>
      rw [hp] at content
      cases content
  | report p s _ hs _ hne =>
      rw [hs] at sender
      cases sender
      exact hne

namespace Node

open Detector (Awaited)

variable {n m : Node} {me q x : InstanceId} {members : List InstanceId} {e e' : Envelope Signal}
  {es es' : List (Envelope Signal)}

/-- Nothing in the mail brings a suspicion of `x` that there has not been before. -/
structure Lowers (n : Node) (me x : InstanceId) (es : List (Envelope Signal)) : Prop where
  silence : x ≠ me → ∀ e ∈ es, e.content = .timedOut x →
    x ∈ n.detector.reportOf me ∧ ∀ e' ∈ es, e'.content ≠ .iAmAlive x
  report : x ≠ me → ∀ e ∈ es, ∀ q t, e.reportFrom q = some t → x ∈ t →
    x ∈ n.detector.reportOf q ∧ ∀ e' ∈ es, ∀ t', e'.reportFrom q = some t' → x ∈ t'

/-! ### One message -/

theorem mem_failed_of_reports (ha : n.Attends me members) (hb : m.Attends me members)
    (more : ∀ q, x ∈ n.detector.reportOf q → x ∈ m.detector.reportOf q) (hx : x ∈ n.failed) :
    x ∈ m.failed :=
  (hb.watches.agrees x).mpr
    (Nat.lt_of_lt_of_le ((ha.watches.agrees x).mp hx) (Detector.votes_le more))

theorem failed_only (ha : n.Attends me members) (only : n.detector.SuspectsOnly x) :
    ∀ y ∈ n.failed, y = x := by
  intro y hy
  by_contra other
  obtain ⟨q, hq⟩ := Detector.exists_report_of_lt_votes ((ha.watches.agrees y).mp hy)
  exact only y other q hq

section Handle

variable (ha : n.Attends me members) (hm : Awaited me members e)
include ha hm

theorem only_handle (only : n.detector.SuspectsOnly x) (concerns : e.ConcernsOnly x) :
    (n.handle e).node.detector.SuspectsOnly x :=
  fun y hy => ha.trusts_handle hm (only y hy) (concerns y hy)

theorem transitions_handle (taken : n.detector.pending = []) (only : n.detector.SuspectsOnly x)
    (concerns : e.ConcernsOnly x) :
    (n.handle e).transitions = Transition.about x n.failed (n.handle e).node.failed := by
  obtain ⟨l, pending, once, all⟩ := Detector.declares_respond ha.watches hm
  have failed : (n.handle e).node.failed = (n.detector.respondInHeartbeat e).detector.failed := by
    rw [Node.failed, detector_handle ha]
    rfl
  have transitions : (n.handle e).transitions = l := by
    rw [taken, List.nil_append, ← respond_attending ha] at pending
    exact pending
  rw [transitions]
  refine Transition.eq_about once (fun t => ?_) (failed_only ha only)
    (failed_only (ha.handle hm) (only_handle ha hm only concerns))
  rw [all, failed]
  rfl

theorem gains_handle (raises : e.Raises x) (hx : x ∈ n.failed) : x ∈ (n.handle e).node.failed := by
  refine mem_failed_of_reports ha (ha.handle hm) (fun q hq => ?_) hx
  by_cases own : q = me
  · subst own
    exact (mem_own_handle ha hm).mpr ⟨.inl hq, raises.beat⟩
  · rw [reportOf_handle ha hm own]
    cases report : e.reportFrom q with
    | none => exact hq
    | some t =>
        have named := raises.report t (Envelope.content_of_reportFrom report).1
        exact SortedSet.mem_erase.mpr ⟨named, (ha.watches.inside q x hq).2.2⟩

theorem loses_handle (lowers : n.Lowers me x (e :: es)) (hx : x ∈ (n.handle e).node.failed) :
    x ∈ n.failed := by
  refine mem_failed_of_reports (ha.handle hm) ha (fun q hq => ?_) hx
  have other := ((ha.handle hm).watches.inside q x hq).2.2
  by_cases own : q = me
  · subst own
    rcases ((mem_own_handle ha hm).mp hq).1 with before | silence
    · exact before
    · exact (lowers.silence other e (List.mem_cons_self ..) silence).1
  · rw [reportOf_handle ha hm own] at hq
    cases report : e.reportFrom q with
    | none => simpa [report] using hq
    | some t =>
        rw [report] at hq
        exact (lowers.report other e (List.mem_cons_self ..) q t report
          (SortedSet.mem_erase.mp hq).1).1

theorem Lowers.handle (hm' : ∀ e ∈ es, Awaited me members e) (lowers : n.Lowers me x (e :: es)) :
    (n.handle e).node.Lowers me x es := by
  constructor
  · intro other e' he' silence
    obtain ⟨own, silent⟩ := lowers.silence other e' (List.mem_cons_of_mem e he') silence
    rw [List.forall_mem_cons] at silent
    exact ⟨(mem_own_handle ha hm).mpr ⟨.inl own, silent.1⟩, silent.2⟩
  · intro other e' he' q t report named
    obtain ⟨believes, all⟩ := lowers.report other e' (List.mem_cons_of_mem e he') q t report named
    rw [List.forall_mem_cons] at all
    refine ⟨?_, all.2⟩
    rw [reportOf_handle ha hm (Detector.sender_ne_of_awaited (hm' e' he') report)]
    cases first : e.reportFrom q with
    | none => exact believes
    | some t' => exact SortedSet.mem_erase.mpr ⟨all.1 t' first, other⟩

end Handle

/-! ### All messages -/

theorem pending_after (taken : n.detector.pending = []) (es : List (Envelope Signal)) :
    (n.after es).detector.pending = [] := by
  induction es generalizing n with
  | nil => exact taken
  | cons e es ih => exact ih (n := (n.handle e).node) rfl

section HandleAll

variable (ha : n.Attends me members) (hm : ∀ e ∈ es, Awaited me members e)
  (only : n.detector.SuspectsOnly x) (concerns : ∀ e ∈ es, e.ConcernsOnly x)
include ha hm only concerns

theorem only_after : (n.after es).detector.SuspectsOnly x :=
  fun y hy => ha.trusts_after hm (only y hy) fun e he => concerns e he y hy

theorem swing_after_of_raises (taken : n.detector.pending = []) (raises : ∀ e ∈ es, e.Raises x) :
    Swing Gains x n.failed (n.handleAll es).transitions (n.after es).failed := by
  induction es generalizing n with
  | nil => exact .refl oneWay_gains x n.failed
  | cons e es ih =>
      rw [List.forall_mem_cons] at hm concerns raises
      have first : Swing Gains x n.failed (n.handle e).transitions (n.handle e).node.failed :=
        ⟨gains_handle ha hm.1 raises.1, transitions_handle ha hm.1 taken only concerns.1⟩
      exact first.append oneWay_gains (ih (ha.handle hm.1) hm.2
        (only_handle ha hm.1 only concerns.1) concerns.2 rfl raises.2)

theorem swing_after_of_lowers (taken : n.detector.pending = []) (lowers : n.Lowers me x es) :
    Swing Loses x n.failed (n.handleAll es).transitions (n.after es).failed := by
  induction es generalizing n with
  | nil => exact .refl oneWay_loses x n.failed
  | cons e es ih =>
      rw [List.forall_mem_cons] at hm concerns
      have first : Swing Loses x n.failed (n.handle e).transitions (n.handle e).node.failed :=
        ⟨loses_handle ha hm.1 lowers, transitions_handle ha hm.1 taken only concerns.1⟩
      exact first.append oneWay_loses (ih (ha.handle hm.1) hm.2
        (only_handle ha hm.1 only concerns.1) concerns.2 rfl (lowers.handle ha hm.1 hm.2))

end HandleAll

/-! ### Reports -/

section Reports

variable (ha : n.Attends me members) (hm : ∀ e ∈ es, Awaited me members e)
include ha hm

/-- Where reports come from: each is sent because of one message, and holds what the node suspects
right after that. -/
theorem report_of_mem_outbox_after {t : InstanceSet} (he' : e' ∈ (n.after es).outbox.toList)
    (unsent : e' ∉ n.outbox.toList) (content : e'.content = .suspicions t) :
    ∃ before e after, es = before ++ e :: after ∧
      t = ((n.after before).handle e).node.detector.reportOf me ∧
      ((∃ q, e.content = .timedOut q) ∨
        ∃ q ∈ (n.after before).detector.reportOf me, e.content = .iAmAlive q) := by
  induction es generalizing n with
  | nil => exact absurd he' unsent
  | cons e es ih =>
      rw [List.forall_mem_cons] at hm
      by_cases sent : e' ∈ (n.handle e).node.outbox.toList
      · rcases content_of_mem_outbox_handle ha hm.1 sent with old | beat | ⟨report, cause⟩
        · exact absurd old unsent
        · cases beat.symm.trans content
        · cases report.symm.trans content
          exact ⟨[], e, es, rfl, rfl, cause⟩
      · obtain ⟨before, e₁, after, rfl, own, cause⟩ := ih (ha.handle hm.1) hm.2 he' sent
        exact ⟨e :: before, e₁, after, rfl, own, cause⟩

variable (unsent : n.outbox = ∅) {t : InstanceSet} (he' : e' ∈ (n.after es).outbox.toList)
  (content : e'.content = .suspicions t)
include unsent he' content

variable (only : n.detector.SuspectsOnly x) (concerns : ∀ e ∈ es, e.ConcernsOnly x)
include only concerns

/-- A report is sent when the wait for `x` is over, and when `x` is heard again. -/
theorem cause_of_report :
    ∃ e ∈ es, (x ∈ t ∧ e.content = .timedOut x) ∨ (x ∉ t ∧ e.content = .iAmAlive x) := by
  obtain ⟨before, e, after, rfl, rfl, cause⟩ :=
    report_of_mem_outbox_after ha hm he' (by simp [unsent]) content
  have hm₁ : ∀ e ∈ before, Awaited me members e := fun e he => hm e (by simp [he])
  have own := mem_own_handle (x := x) (ha.after hm₁) (hm e (by simp))
  refine ⟨e, by simp, ?_⟩
  rcases cause with ⟨q, silence⟩ | ⟨q, suspected, beat⟩
  · have same : q = x := by
      by_contra other
      exact (concerns e (by simp) q other).silence silence
    subst same
    simp [own, silence]
  · have others := only_after ha hm₁ only fun e he => concerns e (by simp [he])
    have same : q = x := by
      by_contra other
      exact others q other me suspected
    subst same
    simp [own, beat]

/-- Whoever does not hear from `x` sends reports of `x` only. -/
theorem mem_report_of_deaf (deaf : ∀ e ∈ es, e.content ≠ .iAmAlive x) : x ∈ t := by
  obtain ⟨e, he, ⟨named, -⟩ | ⟨-, beat⟩⟩ :=
    cause_of_report ha hm unsent he' content only concerns
  · exact named
  · exact absurd beat (deaf e he)

/-- Whoever does not wait for `x` in vain sends reports without `x` only. -/
theorem not_mem_report_of_heard (heard : ∀ e ∈ es, e.content ≠ .timedOut x) : x ∉ t := by
  obtain ⟨e, he, ⟨-, silence⟩ | ⟨spared, -⟩⟩ :=
    cause_of_report ha hm unsent he' content only concerns
  · exact absurd silence (heard e he)
  · exact spared

end Reports

end Node
end Vigil
