import Vigil.Proofs.Simulation.Veterans

/-!
Calm. Where nothing happens everybody is heard after one interval, and then nobody suspects anybody
any more (`own_of_calm`). From then on nobody sends a report, so what is believed of others stays as
it is (`believed_of_calm`).
-/

namespace Vigil
namespace Simulation

variable {γ : Type} [DrawSource γ] {s : Simulation γ} {r o q x y : InstanceId} {n m : Node}

/-! ### Rounds without reports -/

/-- No member suspects anybody, none has waited in vain, and no report is on its way. -/
structure Serene (s : Simulation γ) : Prop where
  own : ∀ r ∈ s.group, ∀ n, s.nodes.get? r = some n → ∀ x, x ∉ n.detector.reportOf r
  heard : s.Mail fun e => ∀ q, e.content ≠ .timedOut q
  unsaid : s.Mail fun e => ∀ t, e.content ≠ .suspicions t

section Passed

variable (h : s.InOrder) (serene : s.Serene)
include h serene

theorem Serene.passed (hc : s.Carried) : s.passed.Serene := by
  have worked {r : InstanceId} (hr : r ∈ s.group) {n : Node} (hn : s.nodes.get? r = some n) :=
    Node.serene_after (h.attends r n hn hr) (h.awaited r n hn) (serene.own r hr n hn)
      (serene.heard r n hn) (by
        have unsent : n.outbox.toList = [] := congrArg Mailbox.toList (hc r n hn)
        simp [unsent])
  refine ⟨fun r hr n' hn' => ?_, fun r n hn e he q => ?_, fun r n hn e he t => ?_⟩
  · rw [group_passed] at hr
    obtain ⟨n, hn, handled⟩ := detector_passed h hn'
    rw [handled]
    exact (worked hr hn).1
  · exact mail_passed h r n hn e he (.receive q)
  · obtain ⟨p, m, hm, hp, he, -⟩ := posted_of_mem_sentTo h (mem_inbox_passed h hn he)
    exact (worked hp hm).2 e he t

theorem Serene.reportAt_passed (ho : o ∈ s.group) (hne : r ≠ o) :
    s.passed.reportAt o r = s.reportAt o r := by
  obtain ⟨kept, -, -, get⟩ := get?_passed h
  rw [reportAt, reportAt, get]
  cases hn : s.nodes.get? o with
  | none => rfl
  | some n =>
      have unsaid : n.inbox.toList.filterMap (·.reportFrom r) = [] := by
        refine List.filterMap_eq_nil_iff.mpr fun e he => ?_
        cases hr : e.reportFrom r with
        | none => rfl
        | some t =>
            have content := (Envelope.content_of_reportFrom hr).1
            exact absurd content (serene.unsaid o n hn e he t)
      have report := Node.reportOf_after (h.attends o n hn ho) (h.awaited o n hn) hne
      rw [unsaid] at report
      exact report

end Passed

theorem reportAt_serene (h : s.InOrder) (hq : s.Quiet) (clock : s.OnTime) (ho : o ∈ s.group)
    (hne : r ≠ o) (own : ∀ r ∈ s.group, ∀ x, x ∉ s.reportAt r r)
    (heard : ∀ r ∈ s.group, ∀ x, ¬ s.Due r (.receive x)) :
    s.round.reportAt o r = s.reportAt o r := by
  have order := h.tickNodes hq
  have serene : s.tickNodes.Serene := by
    refine ⟨fun r hr n hn x hx => ?_, fun r n hn e he q => ?_, fun r n hn e he t hc => ?_⟩
    · rw [← reportAt_eq hn, reportAt_tickNodes] at hx
      exact own r hr x hx
    · exact unheard_tickNodes h hq clock (fun r hr => heard r hr q) r n hn e he
    · obtain ⟨k, hk⟩ := justTicked_tickNodes h hq r n hn e he
      rw [hk] at hc
      cases k <;> cases hc
  have serene₁ := serene.passed order (carried_tickNodes hq)
  have serene₂ := serene₁.passed order.passed (carried_passed order)
  have ho₁ : o ∈ s.tickNodes.passed.group := s.tickNodes.group_passed.symm ▸ ho
  have ho₂ : o ∈ s.tickNodes.passed.passed.group := s.tickNodes.passed.group_passed.symm ▸ ho₁
  rw [round_eq h hq, serene₂.reportAt_passed order.passed.passed ho₂ hne,
    serene₁.reportAt_passed order.passed ho₁ hne, serene.reportAt_passed order ho hne,
    reportAt_tickNodes]

/-! ### Steps without events -/

section After

variable {draws : γ} {sc : Scenario} {i j k : Nat}

/-- By step `k` nothing has happened for long, and all who are members have been running
meanwhile. -/
def Calm (draws : γ) (sc : Scenario) (k : Nat) : Prop :=
  ∃ j, j * sc.step + (2 * sc.heartbeatTimeout + 2 * sc.beat + 2 * sc.step) ≤ k * sc.step ∧
    (∀ i, j ≤ i → i < k → (after draws sc i).due = []) ∧
    ∀ i, j ≤ i → i ≤ k → ∀ x ∈ (after draws sc k).members, x ∈ (after draws sc i).nodes.keys

section Reliable

variable (h : sc.Reliable)
include h

omit [DrawSource γ] h in
theorem struck_of_due_nil (nothing : s.due = []) : s.struck = s.begun := by
  rw [struck, nothing]
  rfl

omit h in
/-- Where nothing happens, the members remain, and those that are running. -/
theorem same_of_calm (hj : j ≤ k) (calm : ∀ i, j ≤ i → i < k → (after draws sc i).due = []) :
    (after draws sc k).group = (after draws sc j).group ∧
      ∀ x, x ∈ (after draws sc k).nodes.keys ↔ x ∈ (after draws sc j).nodes.keys := by
  induction k, hj using Nat.le_induction with
  | base => exact ⟨rfl, fun _ => .rfl⟩
  | succ k hj ih =>
      obtain ⟨group, keys⟩ := ih fun i hji hik => calm i hji (Nat.lt_succ_of_lt hik)
      have nothing := struck_of_due_nil (calm k hj (Nat.lt_succ_self k))
      refine ⟨?_, fun x => ?_⟩
      · rw [after_succ, group_advance (steady_after draws sc k), nothing]
        exact group
      · rw [mem_keys_after_succ, nothing]
        exact keys x

/-- Where nothing happens, a running member hears another as soon as its first heartbeat has come,
which it sends within an interval. -/
theorem hears_or_sends_of_calm (hj : j ≤ k)
    (calm : ∀ i, j ≤ i → i < k → (after draws sc i).due = [])
    (hk : k * sc.step < sc.duration + sc.step) (hq : q ∈ (after draws sc k).group)
    (hr : r ∈ (after draws sc k).group) (hne : r ≠ q) (running : q ∈ (after draws sc j).nodes.keys)
    (runs : r ∈ (after draws sc j).nodes.keys) :
    (after draws sc k).Hears r q ∨ ∃ a, (after draws sc k).Pending q (.send r) a ∧
      k * sc.step < a ∧ a ≤ j * sc.step + sc.heartbeatInterval := by
  induction k, hj using Nat.le_induction with
  | base =>
      obtain ⟨a, pending, late, soon⟩ := sends_after h hk hq running hr hne
      rw [now_after, scenario_after] at soon
      exact .inr ⟨a, pending, late, soon⟩
  | succ k hj ih =>
      have calm' : ∀ i, j ≤ i → i < k → (after draws sc i).due = [] :=
        fun i hji hik => calm i hji (Nat.lt_succ_of_lt hik)
      have hq := mem_group_after_succ hq
      have hr := mem_group_after_succ hr
      have ready : (after draws sc k).struck.Ready := ready_struck h hk
      have spared (x : InstanceId) : ∀ e ∈ (after draws sc k).due, ¬ e.Crashes x := by
        rw [calm k hj (Nat.lt_succ_self k)]
        exact fun e he => absurd he List.not_mem_nil
      have alive := ((same_of_calm hj calm').2 q).mpr running
      have alive' := ((same_of_calm hj calm').2 r).mpr runs
      have same := undisturbed_of_spared (steady_after draws sc k) ready.fits hq alive (spared q)
      have same' := undisturbed_of_spared (steady_after draws sc k) ready.fits hr alive' (spared r)
      have running' := mem_keys_struck alive (spared q)
      have runs' := mem_keys_struck alive' (spared r)
      rw [after_succ, advance_eq_round]
      rcases ih calm' (lt_of_succ hk) (mem_group_of_struck hq) (mem_group_of_struck hr) with
        hears | ⟨a, pending, -, soon⟩
      · have still := hears.undisturbed same' same hr hq hne (after draws sc k).scenario_struck
        exact .inl (still.round ready hq hr running' (sends_struck h hk hq running' hr hne)
          now_struck_after runs')
      · have pending' := (same.pending (.send r) a hr hne).mpr pending
        by_cases due : a ≤ (after draws sc k).struck.now
        · exact .inl (hears_of_due ready hq hr running' runs' ((due_iff pending').mpr due))
        · refine .inr ⟨a, ready.pending_still (k := .send r) hq running' hr pending'
            (Nat.lt_of_not_le due) fun ⟨_, hx, _⟩ => TimerKey.noConfusion hx, ?_, soon⟩
          rw [now_struck_eq] at due
          exact Nat.lt_of_not_le due

section Long

variable (hj : j ≤ k) (calm : ∀ i, j ≤ i → i < k → (after draws sc i).due = [])
  (hk : k * sc.step < sc.duration + sc.step)
  (long : j * sc.step + sc.heartbeatInterval ≤ k * sc.step)
  (running : ∀ x ∈ (after draws sc k).group, x ∈ (after draws sc j).nodes.keys)
include hj calm hk long running

theorem hears_of_calm (hq : q ∈ (after draws sc k).group) (hr : r ∈ (after draws sc k).group)
    (hne : r ≠ q) : (after draws sc k).Hears r q := by
  rcases hears_or_sends_of_calm h hj calm hk hq hr hne (running q hq) (running r hr) with
    hears | ⟨a, -, late, soon⟩
  · exact hears
  · omega

/-- Once it has been calm for an interval nobody suspects anybody. -/
theorem own_of_calm (hr : r ∈ (after draws sc k).group) : x ∉ (after draws sc k).reportAt r r := by
  intro suspects
  have order := (steady_after draws sc k).order
  obtain ⟨n, hn⟩ := SortedMap.mem_keys_iff.mp (running_of_mem_reportAt suspects)
  rw [reportAt_eq hn] at suspects
  obtain ⟨-, hx, hne⟩ := (order.attends r n hn hr).watches.inside r x suspects
  have hears := hears_of_calm h hj calm hk long running hx hr (Ne.symm hne)
  exact hears.1 (by rwa [reportAt_eq hn])

end Long

/-- Once it has been calm for an interval everybody goes on to believe of others what it believes,
rightly or wrongly, for as long as nothing happens. -/
theorem believed_of_calm {m : Nat} (hj : j ≤ m) (hm : m ≤ k)
    (calm : ∀ i, j ≤ i → i < k → (after draws sc i).due = [])
    (hk : k * sc.step < sc.duration + sc.step)
    (long : j * sc.step + sc.heartbeatInterval ≤ m * sc.step)
    (running : ∀ x ∈ (after draws sc j).group, x ∈ (after draws sc j).nodes.keys)
    (ho : o ∈ (after draws sc j).group) (hne : r ≠ o) :
    (after draws sc k).reportAt o r = (after draws sc m).reportAt o r := by
  induction k, hm using Nat.le_induction with
  | base => rfl
  | succ k hm ih =>
      have hjk := Nat.le_trans hj hm
      have calm' : ∀ i, j ≤ i → i < k → (after draws sc i).due = [] :=
        fun i hji hik => calm i hji (Nat.lt_succ_of_lt hik)
      have nothing := calm k hjk (Nat.lt_succ_self k)
      obtain ⟨group, keys⟩ := same_of_calm hjk calm'
      have running' : ∀ x ∈ (after draws sc k).group, x ∈ (after draws sc j).nodes.keys := by
        rwa [group]
      have long' : j * sc.step + sc.heartbeatInterval ≤ k * sc.step :=
        Nat.le_trans long (Nat.mul_le_mul_right _ hm)
      have ready : (after draws sc k).struck.Ready := ready_struck h hk
      have begun : (after draws sc k).struck.nodes = (after draws sc k).nodes ∧
          (after draws sc k).struck.group = (after draws sc k).group := by
        rw [struck_of_due_nil nothing]
        exact ⟨rfl, rfl⟩
      have keep (o r : InstanceId) :
          (after draws sc k).struck.reportAt o r = (after draws sc k).reportAt o r := by
        rw [reportAt, reportAt, begun.1]
      rw [after_succ, advance_eq_round, ← ih calm' (lt_of_succ hk), ← keep]
      -- Nobody suspects anybody or has waited too long, so no report is sent in the round.
      refine reportAt_serene ready.steady.order ready.steady.quiet ready.steady.clock ?_ hne
        (fun r hr x => ?_) (fun r hr x => ?_)
      · rwa [begun.2, group]
      · rw [keep]
        exact own_of_calm h hjk calm' (lt_of_succ hk) long' running' (begun.2 ▸ hr)
      · rintro ⟨d, pending, late⟩
        obtain ⟨hx, hxr⟩ := peer_of_pending ready.steady.order hr pending
        have alive := (keys x).mpr (running x (by rwa [begun.2, group] at hx))
        have hears := hears_of_calm h hjk calm' (lt_of_succ hk) long' running' (begun.2 ▸ hx)
          (begun.2 ▸ hr) hxr.symm
        have hears' : (after draws sc k).struck.Hears r x := by
          rw [struck_of_due_nil nothing]
          exact hears
        exact hears'.not_due ready (sends_struck h hk hx (begun.1 ▸ alive) hr hxr.symm)
          now_struck_after ⟨d, pending, late⟩

omit h in
/-- After the last event nothing happens any more. -/
theorem due_eq_nil (pos : 0 < j) (ended : ∀ e ∈ sc.events, e.time ≤ j * sc.step) (hi : j ≤ i) :
    (after draws sc i).due = [] := by
  have agenda : (after draws sc i).agenda = [] := by
    refine agenda_eq_nil draws sc (Nat.lt_of_lt_of_le pos hi) fun e he => ?_
    exact Nat.le_trans (ended e he) (Nat.mul_le_mul_right _ hi)
  rw [due, agenda]
  rfl

omit h in
variable (draws) in
theorem same_of_ended (pos : 0 < j) (ended : ∀ e ∈ sc.events, e.time ≤ j * sc.step) (hi : j ≤ i) :
    (after draws sc i).group = (after draws sc j).group ∧
      ∀ x, x ∈ (after draws sc i).nodes.keys ↔ x ∈ (after draws sc j).nodes.keys :=
  same_of_calm hi fun _ hm _ => due_eq_nil pos ended hm

omit h in
theorem calm_of_ended {m : Nat} (pos : 0 < j) (ended : ∀ e ∈ sc.events, e.time ≤ j * sc.step)
    (hj : j ≤ m)
    (long : j * sc.step + (2 * sc.heartbeatTimeout + 2 * sc.beat + 2 * sc.step) ≤ k * sc.step)
    (running : ∀ x ∈ sc.members, x ∈ (after draws sc m).nodes.keys) : Calm draws sc k := by
  refine ⟨j, long, fun i hji _ => due_eq_nil pos ended hji, fun i hji _ x hx => ?_⟩
  rw [(same_of_ended draws pos ended hji).2, ← (same_of_ended draws pos ended hj).2]
  exact running x (mem_members_of_mem_group (mem_group.mpr hx))

end Reliable

end After

end Simulation
end Vigil
