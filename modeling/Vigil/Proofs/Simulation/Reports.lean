import Vigil.Proofs.Simulation.Rounds

/-!
How reports spread where nothing is lost. An instance that nobody suspects is sent every new
report, and mail keeps its order. So if it knew whether another suspects `x`, it still knows once
its mail is read (`told_settle`). Of instances that are not running it keeps the report that it
knew (`reportOf_settle`). And nobody, suspected or not, is told that `r` suspects `x` while it
does not (`innocent_settle`).
-/

namespace Vigil
namespace Simulation

open Detector (Awaited)
open Envelope (reportsFor)

variable {γ : Type} {s : Simulation γ} {r o q x : InstanceId} {n m : Node}

/-- No member suspects `o`, as far as any of them knows or is about to hear. -/
structure Trusted (s : Simulation γ) (o : InstanceId) : Prop where
  trusts : ∀ r ∈ s.group, ∀ n, s.nodes.get? r = some n → n.detector.Trusts o
  spares : s.Mail (·.Spares o)

/-- Once it has read its mail, `o` knows about `r` and `x` what `R` says: whether `r` suspects `x`,
or only that it does. -/
def Told (R : Prop → Prop → Prop) (s : Simulation γ) (o r x : InstanceId) : Prop :=
  ∀ n m, s.nodes.get? o = some n → s.nodes.get? r = some m →
    R (x ∈ latest (n.detector.reportOf r) (n.inbox.toList.filterMap (·.reportFrom r)))
      (x ∈ m.detector.reportOf r)

/-- Nothing that `r` has sent is on its way to `o`. -/
def Unsaid (s : Simulation γ) (o r : InstanceId) : Prop :=
  ∀ n, s.nodes.get? o = some n → n.inbox.toList.filterMap (·.reportFrom r) = []

theorem spares_of_mem_sentTo (h : s.InOrder) (hc : s.Carried) (ht : s.Trusted o)
    {e : Envelope Signal} (he : e ∈ s.sentTo q) : e.Spares o := by
  obtain ⟨r, n, hn, hr, he, -⟩ := posted_of_mem_sentTo h he
  have unsent : n.outbox.toList = [] := congrArg Mailbox.toList (hc r n hn)
  exact Node.spares_after (h.attends r n hn hr) (h.awaited r n hn) (ht.trusts r hr n hn)
    (ht.spares r n hn) (by simp [unsent]) e he

/-- The reports of `r` among what is sent to `o`. -/
theorem reports_sentTo (h : s.InOrder) :
    (s.sentTo o).filterMap (·.reportFrom r) =
      ((s.nodes.get? r).map fun m =>
        reportsFor o r (m.after m.inbox.toList).outbox.toList).getD [] := by
  have among : (s.sentTo o).filterMap (·.reportFrom r) = reportsFor o r s.pumpNodes.1.letters := by
    rw [sentTo, List.filterMap_filter]
    rfl
  have others : ∀ q n', s.pumpNodes.1.nodes.get? q = some n' → q ≠ r →
      reportsFor o r n'.outbox.toList = [] := by
    intro q n' hn' hq
    rw [get?_pumpNodes] at hn'
    obtain ⟨n, hn, rfl⟩ := Option.map_eq_some_iff.mp hn'
    refine List.filterMap_eq_nil_iff.mpr fun e he => ?_
    by_cases hg : q ∈ s.group
    · obtain ⟨l, k, rfl, -⟩ := (worked_attends h hn hg).posted e he
      cases hreport : (l.seal q k).reportFrom r with
      | none => simp
      | some t =>
          have sender := (Envelope.content_of_reportFrom hreport).2
          rw [Letter.sender_seal] at sender
          exact absurd (Except.ok.inj sender) hq
    · rw [worked_retired h hn hg, (h.retired q n hn hg).unsent] at he
      exact absurd he List.not_mem_nil
  rw [among, reportsFor_letters others, get?_pumpNodes, Option.map_map]
  rfl

section Passed

variable [DrawSource γ]

theorem Trusted.passed (ht : s.Trusted o) (h : s.InOrder) (hc : s.Carried) :
    s.passed.Trusted o := by
  constructor
  · intro r hr n' hn'
    obtain ⟨n, hn, handled⟩ := detector_passed h hn'
    rw [group_passed] at hr
    rw [handled]
    exact (h.attends r n hn hr).trusts_after (h.awaited r n hn) (ht.trusts r hr n hn)
      (ht.spares r n hn)
  · exact fun r n hn e he => spares_of_mem_sentTo h hc ht (mem_inbox_passed h hn he)

variable (h : s.InOrder) (hc : s.Carried) (lossless : s.network.rate.losing = 0)
  (ho : o ∈ s.group)
include h lossless

theorem Unsaid.passed (hr : s.nodes.get? r = none) : s.passed.Unsaid o r := by
  intro n' hn'
  rw [get?_passed_of_lossless h lossless] at hn'
  obtain ⟨n, hn, rfl⟩ := Option.map_eq_some_iff.mp hn'
  change (s.sentTo o).filterMap (·.reportFrom r) = []
  rw [reports_sentTo h, hr]
  rfl

include ho

omit [DrawSource γ] lossless in
theorem reportOf_refilled (hne : r ≠ o) (hu : s.Unsaid o r) (hn : s.nodes.get? o = some n) :
    (s.refilled o n).detector.reportOf r = n.detector.reportOf r := by
  rw [detector_refilled, Node.reportOf_after (h.attends o n hn ho) (h.awaited o n hn) hne, hu n hn]
  rfl

include hc

/-- A pass brings a trusted member the latest news of each of the others. -/
theorem Told.passed (hr : r ∈ s.group) (hne : r ≠ o) (ht : s.Trusted o)
    {R : Prop → Prop → Prop} (refl : ∀ p, R p p) (told : Told R s o r x) :
    Told R s.passed o r x := by
  intro n' m' hn' hm'
  rw [get?_passed_of_lossless h lossless] at hn' hm'
  obtain ⟨n, hn, rfl⟩ := Option.map_eq_some_iff.mp hn'
  obtain ⟨m, hm, rfl⟩ := Option.map_eq_some_iff.mp hm'
  have unsent : m.outbox.toList = [] := congrArg Mailbox.toList (hc r m hm)
  have unchanged : (n.inbox.toList.filterMap (·.reportFrom r)).map (·.erase o) =
      n.inbox.toList.filterMap (·.reportFrom r) := by
    refine (List.map_congr_left (g := id) fun t hreport => ?_).trans (List.map_id _)
    obtain ⟨e, he, hreport⟩ := List.mem_filterMap.mp hreport
    have absent := (ht.spares o n hn e he).report t (Envelope.content_of_reportFrom hreport).1
    ext x
    rw [SortedSet.mem_erase, and_iff_left_of_imp]
    · rfl
    · rintro hx rfl
      exact absent hx
  have known : R (x ∈ (s.refilled o n).detector.reportOf r) (x ∈ m.detector.reportOf r) := by
    rw [detector_refilled, Node.reportOf_after (h.attends o n hn ho) (h.awaited o n hn) hne,
      unchanged]
    exact told n m hn hm
  have sent := Node.latest_after (h.attends r m hm hr) (h.awaited r m hm) ho (Ne.symm hne)
    (ht.trusts r hr m hm) (ht.spares r m hm) (s := m.detector.reportOf r)
    (by simp [unsent, reportsFor])
  change R (x ∈ latest _ ((s.sentTo o).filterMap (·.reportFrom r)))
    (x ∈ (m.after m.inbox.toList).detector.reportOf r)
  rw [reports_sentTo h, hm, ← sent]
  exact mem_latest_congr refl known _

end Passed

/-! ### Innocence -/

/-- Neither does `r` suspect `x`, nor is it about to, nor is anybody about to hear so. -/
structure Innocent (s : Simulation γ) (r x : InstanceId) : Prop where
  own : ∀ n, s.nodes.get? r = some n → x ∉ n.detector.reportOf r
  heard : ∀ n, s.nodes.get? r = some n → ∀ e ∈ n.inbox.toList, e.content ≠ .timedOut x
  unsaid : s.Mail fun e => ∀ t, e.reportFrom r = some t → x ∉ t

section Innocent

variable [DrawSource γ] (h : s.InOrder) (hc : s.Carried) (innocent : s.Innocent r x)
include h innocent

theorem Innocent.mem_reportOf_passed (ho : o ∈ s.group) (hne : r ≠ o)
    (hn : s.nodes.get? o = some n) (hm : s.passed.nodes.get? o = some m)
    (believes : x ∈ m.detector.reportOf r) : x ∈ n.detector.reportOf r := by
  obtain ⟨n', hn', handled⟩ := detector_passed h hm
  obtain rfl := Option.some.inj (hn.symm.trans hn')
  rw [handled, Node.reportOf_after (h.attends o n hn ho) (h.awaited o n hn) hne] at believes
  rcases mem_latest believes with before | ⟨t, ht, hx⟩
  · exact before
  · obtain ⟨t', ht', rfl⟩ := List.mem_map.mp ht
    obtain ⟨e, he, hreport⟩ := List.mem_filterMap.mp ht'
    exact absurd (SortedSet.mem_erase.mp hx).1 (innocent.unsaid o n hn e he t' hreport)

include hc

theorem Innocent.passed (hr : r ∈ s.group) : s.passed.Innocent r x := by
  have worked {n : Node} (hn : s.nodes.get? r = some n) :=
    Node.innocent_after (h.attends r n hn hr) (h.awaited r n hn) (innocent.own n hn)
      (innocent.heard n hn) (by
        have unsent : n.outbox.toList = [] := congrArg Mailbox.toList (hc r n hn)
        simp [unsent])
  refine ⟨fun n' hn' => ?_, fun n' hn' e he => ?_, fun q n hn e he t ht => ?_⟩
  · obtain ⟨n, hn, handled⟩ := detector_passed h hn'
    rw [handled]
    exact (worked hn).1
  · exact mail_passed h r n' hn' e he (.receive x)
  · obtain ⟨p, m, hm, -, he, l, k, rfl, -⟩ := posted_of_mem_sentTo h (mem_inbox_passed h hn he)
    obtain ⟨content, sender⟩ := Envelope.content_of_reportFrom ht
    rw [Letter.sender_seal] at sender
    obtain rfl := Except.ok.inj sender
    exact (worked hm).2 _ he t content

end Innocent

section Settle

variable [DrawSource γ]
variable (h : s.InOrder) (hc : s.Carried) (lossless : s.network.rate.losing = 0)
  (ticked : s.JustTicked) (ho : o ∈ s.group)
include ticked

omit [DrawSource γ] in
theorem unsaid_of_justTicked : s.Unsaid o r := by
  intro n hn
  refine List.filterMap_eq_nil_iff.mpr fun e he => ?_
  obtain ⟨k, hk⟩ := ticked o n hn e he
  cases hr : e.reportFrom r with
  | none => rfl
  | some t =>
      rw [(Envelope.content_of_reportFrom hr).1] at hk
      cases k <;> cases hk

include h hc

omit ticked in
theorem Trusted.settle (ht : s.Trusted o) : s.settle.Trusted o := by
  have t₁ := ht.passed h hc
  have t₂ := t₁.passed h.passed (carried_passed h)
  rw [settle_eq h hc]
  exact t₂.passed h.passed.passed (carried_passed h.passed)

include lossless ho

/-- Of an instance that is not running `o` keeps the report. -/
theorem reportOf_settle (hne : r ≠ o) (hr : s.nodes.get? r = none) (hn : s.nodes.get? o = some n)
    (hm : s.settle.nodes.get? o = some m) : m.detector.reportOf r = n.detector.reportOf r := by
  obtain ⟨get₁, get₂, get₃⟩ := get?_settle h hc lossless hn
  obtain rfl := Option.some.inj (hm.symm.trans get₃)
  have ho₁ : o ∈ s.passed.group := s.group_passed.symm ▸ ho
  have ho₂ : o ∈ s.passed.passed.group := s.passed.group_passed.symm ▸ ho₁
  have lossless₁ : s.passed.network.rate.losing = 0 := by rw [rate_passed h, lossless]
  have u₁ := Unsaid.passed (o := o) h lossless hr
  have hr₁ : s.passed.nodes.get? r = none := by
    rw [get?_passed_of_lossless h lossless, hr]
    rfl
  have u₂ := Unsaid.passed (o := o) h.passed lossless₁ hr₁
  rw [reportOf_refilled h.passed.passed ho₂ hne u₂ get₂, reportOf_refilled h.passed ho₁ hne u₁ get₁,
    reportOf_refilled h ho hne (unsaid_of_justTicked ticked) hn]

/-- A trusted member that knows whether the other suspects `x` still does when everything has
settled. -/
theorem told_settle (hr : r ∈ s.group) (hne : r ≠ o) (ht : s.Trusted o)
    {R : Prop → Prop → Prop} (refl : ∀ p, R p p)
    (told : ∀ n m, s.nodes.get? o = some n → s.nodes.get? r = some m →
      R (x ∈ n.detector.reportOf r) (x ∈ m.detector.reportOf r)) :
    ∀ n m, s.settle.nodes.get? o = some n → s.settle.nodes.get? r = some m →
      R (x ∈ n.detector.reportOf r) (x ∈ m.detector.reportOf r) := by
  have lossless₁ : s.passed.network.rate.losing = 0 := by rw [rate_passed h, lossless]
  have lossless₂ : s.passed.passed.network.rate.losing = 0 := by
    rw [rate_passed h.passed, lossless₁]
  have ho₁ : o ∈ s.passed.group := s.group_passed.symm ▸ ho
  have ho₂ : o ∈ s.passed.passed.group := s.passed.group_passed.symm ▸ ho₁
  have hr₁ : r ∈ s.passed.group := s.group_passed.symm ▸ hr
  have hr₂ : r ∈ s.passed.passed.group := s.passed.group_passed.symm ▸ hr₁
  have start : Told R s o r x := fun n m hn hm => by
    rw [unsaid_of_justTicked ticked n hn]
    exact told n m hn hm
  have t₁ := ht.passed h hc
  have t₂ := t₁.passed h.passed (carried_passed h)
  have told₁ := start.passed h hc lossless ho hr hne ht refl
  have told₂ := told₁.passed h.passed (carried_passed h) lossless₁ ho₁ hr₁ hne t₁ refl
  have told₃ := told₂.passed h.passed.passed (carried_passed h.passed) lossless₂ ho₂ hr₂ hne t₂ refl
  intro n m hn hm
  have quiet := quiet_third h
  rw [settle_eq h hc] at hn hm
  have read := told₃ n m hn hm
  rwa [(quiet.node hn).1] at read

omit lossless ticked in
/-- What `r` does not suspect, and does not come to suspect, nobody comes to believe of it. -/
theorem innocent_settle (innocent : s.Innocent r x) (hr : r ∈ s.group) (hne : r ≠ o)
    (hn : s.nodes.get? o = some n) (hm : s.settle.nodes.get? o = some m)
    (believes : x ∈ m.detector.reportOf r) : x ∈ n.detector.reportOf r := by
  have ho₁ : o ∈ s.passed.group := s.group_passed.symm ▸ ho
  have ho₂ : o ∈ s.passed.passed.group := s.passed.group_passed.symm ▸ ho₁
  have hr₁ : r ∈ s.passed.group := s.group_passed.symm ▸ hr
  have innocent₁ := innocent.passed h hc hr
  have innocent₂ := innocent₁.passed h.passed (carried_passed h) hr₁
  obtain ⟨kept₁, -, -, get₁⟩ := get?_passed h
  obtain ⟨kept₂, -, -, get₂⟩ := get?_passed h.passed
  have hn₁ := (get₁ o).trans (congrArg _ hn)
  have hn₂ := (get₂ o).trans (congrArg _ hn₁)
  rw [settle_eq h hc] at hm
  exact innocent.mem_reportOf_passed h ho hne hn hn₁ (innocent₁.mem_reportOf_passed h.passed ho₁ hne
    hn₁ hn₂ (innocent₂.mem_reportOf_passed h.passed.passed ho₂ hne hn₂ hm believes))

end Settle

end Simulation
end Vigil
