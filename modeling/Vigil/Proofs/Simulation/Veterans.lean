import Vigil.Proofs.Simulation.Contact

/-!
Members that have never crashed. Everybody who is running hears them (`hears_after`), so nobody ever
suspects them (`trusted_after`), and every report is sent to them. They know of another member
whether it suspects `x`, unless it crashed while it did (`told_after`).
-/

namespace Vigil
namespace Simulation

variable {γ : Type} [DrawSource γ] {draws : γ} {sc : Scenario} {s : Simulation γ}
  {r o q x y : InstanceId} {k : Nat} {e : ScheduledEvent}

/-- In the first `k` steps `o` does not crash. -/
def Lasts (draws : γ) (sc : Scenario) (k : Nat) (o : InstanceId) : Prop :=
  ∀ i < k, ∀ e ∈ (after draws sc i).due, ¬ e.Crashes o

/-- In the next step `r` crashes, and it suspects `x`. -/
def CrashesSuspecting (s : Simulation γ) (r x : InstanceId) : Prop :=
  x ∈ s.reportAt r r ∧ ∃ e ∈ s.due, e.Crashes r

/-! ### From step to step -/

theorem mem_group_after_succ (hx : x ∈ (after draws sc (k + 1)).group) :
    x ∈ (after draws sc k).struck.group := by
  rwa [after_succ, group_advance (steady_after draws sc k)] at hx

theorem mem_keys_after_succ :
    x ∈ (after draws sc (k + 1)).nodes.keys ↔ x ∈ (after draws sc k).struck.nodes.keys := by
  rw [after_succ, mem_keys_advance (steady_after draws sc k)]

theorem mem_group_zero : x ∈ (after draws sc 0).group ↔ x ∈ sc.members := by
  have members : (after draws sc 0).members = sc.members := (start_fields draws sc).1
  rw [mem_group, members]

theorem mem_group_of_le {j : Nat} (hx : x ∈ (after draws sc k).group) (hj : j ≤ k) :
    x ∈ (after draws sc j).group := by
  induction k with
  | zero => rwa [Nat.le_zero.mp hj]
  | succ k ih =>
      rcases Nat.le_or_eq_of_le_succ hj with hj | rfl
      · exact ih (mem_group_of_struck (mem_group_after_succ hx)) hj
      · exact hx

theorem mem_members_of_mem_group (hx : x ∈ (after draws sc k).group) : x ∈ sc.members :=
  mem_group_zero.mp (mem_group_of_le hx (Nat.zero_le k))

theorem mem_keys_zero (hx : x ∈ sc.members) : x ∈ (after draws sc 0).nodes.keys := by
  have get := (start_fields draws sc).2.2.2.2 x
  rw [if_pos hx] at get
  exact SortedMap.mem_keys_iff.mpr ⟨_, get⟩

theorem now_struck_after :
    k * sc.step + (after draws sc k).struck.scenario.step = (after draws sc k).struck.now := by
  rw [now_struck, scenario_struck, now_after, scenario_after]

theorem now_struck_eq : (after draws sc k).struck.now = (k + 1) * sc.step := by
  rw [now_struck, now_after, scenario_after, Nat.succ_mul]

theorem scenario_struck_eq : (after draws sc k).struck.scenario = sc := by
  rw [scenario_struck, scenario_after]

theorem Lasts.before (lasts : Lasts draws sc (k + 1) o) : Lasts draws sc k o :=
  fun i hi => lasts i (Nat.lt_succ_of_lt hi)

theorem Lasts.running (lasts : Lasts draws sc k o) (ho : o ∈ sc.members) :
    o ∈ (after draws sc k).nodes.keys := by
  induction k with
  | zero => exact mem_keys_zero ho
  | succ k ih =>
      have spared := lasts k (Nat.lt_succ_self k)
      exact mem_keys_after_succ.mpr (mem_keys_struck (ih lasts.before) spared)

theorem Lasts.running_struck (lasts : Lasts draws sc (k + 1) o)
    (ho : o ∈ (after draws sc k).struck.group) : o ∈ (after draws sc k).struck.nodes.keys :=
  mem_keys_after_succ.mp (lasts.running (mem_members_of_mem_group (mem_group_of_struck ho)))

section Reliable

variable (h : sc.Reliable)
include h

theorem interval_pos_after : 1 ≤ (after draws sc k).scenario.heartbeatInterval := by
  rw [scenario_after]
  exact h.interval_pos

omit [DrawSource γ] in
theorem fits_of_le (hs : s.scenario = sc) (hn : s.now < sc.duration + sc.step) : s.Fits := by
  intro k
  have fits := h.fits
  have wait : s.scenario.wait k ≤ sc.heartbeatInterval + sc.heartbeatTimeout := by
    rw [hs]
    cases k
    · exact Nat.le_add_left _ _
    · exact Nat.le_add_right _ _
  omega

theorem ready_struck (hk : (k + 1) * sc.step < sc.duration + sc.step) :
    (after draws sc k).struck.Ready := by
  refine ⟨(steady_after draws sc k).struck, ?_, ?_, ?_, ?_⟩
  · rw [network_struck, rate_after, h.losing_eq]
  · rw [scenario_struck_eq]
    exact h
  · refine fits_of_le h scenario_struck_eq ?_
    rwa [now_struck_eq]
  · rw [scenario_struck_eq, now_struck_eq]
    exact Nat.dvd_mul_left _ _

theorem starts_zero (hr : r ∈ sc.members) : (after draws sc 0).Starts r := by
  have start : (blank draws sc).Fits := fits_of_le h rfl (Nat.add_pos_right _ h.step_pos)
  exact starts_start draws sc (fun k => Nat.le_trans (Nat.le_add_left _ _) (start k)) hr

omit h in
theorem lt_of_succ (hk : (k + 1) * sc.step < sc.duration + sc.step) :
    k * sc.step < sc.duration + sc.step := by
  rw [Nat.succ_mul] at hk
  omega

/-! ### Heartbeats -/

/-- The timers for heartbeats in the middle of a step, where they are known at its beginning. -/
theorem sends_struck_of (hk : (k + 1) * sc.step < sc.duration + sc.step)
    (hq : q ∈ (after draws sc k).struck.group)
    (running : q ∈ (after draws sc k).struck.nodes.keys)
    (hr : r ∈ (after draws sc k).struck.group) (hne : r ≠ q)
    (before : q ∈ (after draws sc k).group → q ∈ (after draws sc k).nodes.keys →
      r ∈ (after draws sc k).group → (after draws sc k).Sends (k * sc.step) q r) :
    (after draws sc k).struck.Sends (k * sc.step) q r :=
  Sends.struck (steady_after draws sc k) (ready_struck h hk).fits hq hr hne
    (fun running => before (mem_group_of_struck hq) running (mem_group_of_struck hr)) running
    (now_after draws sc k).ge (interval_pos_after h)

theorem sends_after (hk : k * sc.step < sc.duration + sc.step)
    (hq : q ∈ (after draws sc k).group) (running : q ∈ (after draws sc k).nodes.keys)
    (hr : r ∈ (after draws sc k).group) (hne : r ≠ q) :
    (after draws sc k).Sends (k * sc.step) q r := by
  induction k with
  | zero =>
      rw [Nat.zero_mul]
      exact (starts_zero h (mem_group_zero.mp hq)).sends hr hne (Nat.zero_le _)
        (interval_pos_after h)
  | succ k ih =>
      have hq := mem_group_after_succ hq
      have hr := mem_group_after_succ hr
      have running := mem_keys_after_succ.mp running
      have before := sends_struck_of h hk hq running hr hne (ih (lt_of_succ hk))
      have later := before.round (ready_struck h hk) hq hr running
      rwa [now_struck, now_after, scenario_after, ← Nat.succ_mul, ← advance_eq_round,
        ← after_succ] at later

theorem sends_struck (hk : (k + 1) * sc.step < sc.duration + sc.step)
    (hq : q ∈ (after draws sc k).struck.group)
    (running : q ∈ (after draws sc k).struck.nodes.keys)
    (hr : r ∈ (after draws sc k).struck.group) (hne : r ≠ q) :
    (after draws sc k).struck.Sends (k * sc.step) q r :=
  sends_struck_of h hk hq running hr hne fun hq running hr =>
    sends_after h (lt_of_succ hk) hq running hr hne

/-! ### Being heard -/

theorem Lasts.undisturbed (lasts : Lasts draws sc (k + 1) o)
    (hk : (k + 1) * sc.step < sc.duration + sc.step) (ho : o ∈ (after draws sc k).struck.group) :
    Undisturbed (after draws sc k) (after draws sc k).struck o := by
  have running := lasts.before.running (mem_members_of_mem_group (mem_group_of_struck ho))
  exact undisturbed_of_spared (steady_after draws sc k) (ready_struck h hk).fits ho running
    (lasts k (Nat.lt_succ_self k))

theorem hears_struck_of (lasts : Lasts draws sc (k + 1) o)
    (hk : (k + 1) * sc.step < sc.duration + sc.step) (ho : o ∈ (after draws sc k).struck.group)
    (hr : r ∈ (after draws sc k).struck.group) (hne : r ≠ o)
    (runs : r ∈ (after draws sc k).struck.nodes.keys)
    (before : r ∈ (after draws sc k).nodes.keys → (after draws sc k).Hears r o) :
    (after draws sc k).struck.Hears r o := by
  have sends := sends_struck h hk ho (lasts.running_struck ho) hr hne
  exact Hears.struck (steady_after draws sc k) (ready_struck h hk).fits ho hr hne before
    (lasts.undisturbed h hk ho) runs sends (ready_struck h hk)

theorem hears_after (lasts : Lasts draws sc k o) (hk : k * sc.step < sc.duration + sc.step)
    (ho : o ∈ (after draws sc k).group) (hr : r ∈ (after draws sc k).group) (hne : r ≠ o)
    (runs : r ∈ (after draws sc k).nodes.keys) : (after draws sc k).Hears r o := by
  induction k with
  | zero =>
      have sends := (starts_zero h (mem_group_zero.mp ho)).sends hr hne (Nat.zero_le _)
        (interval_pos_after h)
      refine (starts_zero h (mem_group_zero.mp hr)).hears hr ho hne sends ?_ ?_
      · rw [scenario_after]
        exact h
      · rw [scenario_after, now_after, Nat.zero_mul]
        exact Nat.dvd_zero _
  | succ k ih =>
      have ho := mem_group_after_succ ho
      have hr := mem_group_after_succ hr
      have runs := mem_keys_after_succ.mp runs
      have running := lasts.running_struck ho
      have hears := hears_struck_of h lasts hk ho hr hne runs fun runs =>
        ih lasts.before (lt_of_succ hk) (mem_group_of_struck ho) (mem_group_of_struck hr) runs
      have later := hears.round (ready_struck h hk) ho hr running
        (sends_struck h hk ho running hr hne) now_struck_after runs
      rwa [← advance_eq_round, ← after_succ] at later

/-- Nobody ever waits in vain for a member that has not crashed. -/
theorem Lasts.not_due (lasts : Lasts draws sc (k + 1) o)
    (hk : (k + 1) * sc.step < sc.duration + sc.step) (ho : o ∈ (after draws sc k).struck.group)
    (hr : r ∈ (after draws sc k).struck.group) :
    ¬ (after draws sc k).struck.Due r (.receive o) := by
  rintro ⟨d, pending, late⟩
  have ready : (after draws sc k).struck.Ready := ready_struck h hk
  have runs := running_of_pending pending
  have hne : r ≠ o := (peer_of_pending ready.steady.order hr pending).2.symm
  have hears := hears_struck_of h lasts hk ho hr hne runs fun runs =>
    hears_after h lasts.before (lt_of_succ hk) (mem_group_of_struck ho) (mem_group_of_struck hr)
      hne runs
  exact hears.not_due ready (sends_struck h hk ho (lasts.running_struck ho) hr hne)
    now_struck_after ⟨d, pending, late⟩

/-- Nobody ever suspects a member that has not crashed, and nobody is about to. -/
theorem trusted_after (lasts : Lasts draws sc k o) (hk : k * sc.step < sc.duration + sc.step)
    (ho : o ∈ (after draws sc k).group) : (after draws sc k).Trusted o := by
  induction k with
  | zero => exact trusted_start draws sc o
  | succ k ih =>
      have ho := mem_group_after_succ ho
      have ready : (after draws sc k).struck.Ready := ready_struck h hk
      have before := (ih lasts.before (lt_of_succ hk) (mem_group_of_struck ho)).struck
        (steady_after draws sc k)
      have later := before.round ready.steady.order ready.steady.quiet ready.steady.clock
        fun r hr => lasts.not_due h hk ho hr
      rwa [← advance_eq_round, ← after_succ] at later

/-! ### Being told -/

omit h [DrawSource γ] in
/-- The events of a step change nothing about whom a member suspects that does not crash. -/
theorem own_struck (steady : s.Steady) (small : s.struck.Fits) (hr : r ∈ s.struck.group)
    (hx : x ∈ s.struck.group) (honest : ¬ s.CrashesSuspecting r x) :
    x ∈ s.struck.reportAt r r ↔ x ∈ s.reportAt r r := by
  constructor
  · intro after
    rcases struck_cases steady small (running_of_mem_reportAt after) hr with ⟨same, -⟩ | ⟨starts, -⟩
    · exact (same.report r hr x hx).mp after
    · exact absurd after (starts.report r hr x hx)
  · intro before
    have spared : ∀ e ∈ s.due, ¬ e.Crashes r := fun e he hc => honest ⟨before, e, he, hc⟩
    have same := undisturbed_of_spared steady small hr (running_of_mem_reportAt before) spared
    exact (same.report r hr x hx).mpr before

/-- A member that has never crashed knows whether another suspects `x`, unless that one has crashed
while it did. -/
theorem told_after (lasts : Lasts draws sc k o) (hk : k * sc.step < sc.duration + sc.step)
    (ho : o ∈ (after draws sc k).group) (hr : r ∈ (after draws sc k).group)
    (hx : x ∈ (after draws sc k).group)
    (honest : ∀ i < k, ¬ (after draws sc i).CrashesSuspecting r x) :
    x ∈ (after draws sc k).reportAt o r ↔ x ∈ (after draws sc k).reportAt r r := by
  induction k with
  | zero =>
      have started : (after draws sc 0).Starts o := starts_zero h (mem_group_zero.mp ho)
      have started' : (after draws sc 0).Starts r := starts_zero h (mem_group_zero.mp hr)
      exact iff_of_false (started.report r hr x hx) (started'.report r hr x hx)
  | succ k ih =>
      by_cases hne : r = o
      · rw [hne]
      have ho := mem_group_after_succ ho
      have hr := mem_group_after_succ hr
      have hx := mem_group_after_succ hx
      have ready : (after draws sc k).struck.Ready := ready_struck h hk
      have steady := ready.steady
      have same := lasts.undisturbed h hk ho
      have running := lasts.running_struck ho
      have known := ih lasts.before (lt_of_succ hk) (mem_group_of_struck ho)
        (mem_group_of_struck hr) (mem_group_of_struck hx)
        fun i hi => honest i (Nat.lt_succ_of_lt hi)
      have struck : x ∈ (after draws sc k).struck.reportAt o r ↔
          x ∈ (after draws sc k).struck.reportAt r r := by
        rw [same.report r hr x hx, known,
          own_struck (steady_after draws sc k) ready.fits hr hx (honest k (Nat.lt_succ_self k))]
      rw [after_succ, advance_eq_round]
      by_cases runs : r ∈ (after draws sc k).struck.nodes.keys
      · have trusted := (trusted_after h lasts.before (lt_of_succ hk)
          (mem_group_of_struck ho)).struck (steady_after draws sc k)
        exact told_round steady.order steady.quiet steady.clock ready.lossless ho hr hne running
          runs trusted (fun r hr => lasts.not_due h hk ho hr) (fun p => Iff.refl p) struck
      · -- Whoever is gone sends nothing, and did not suspect `x` at the end.
        rw [reportAt_round steady.order steady.quiet ready.lossless ho running hne
          (get?_eq_none runs), struck]
        refine iff_of_false (fun hm => runs (running_of_mem_reportAt hm)) fun hm => runs ?_
        exact (mem_keys_round steady.order steady.quiet).mp (running_of_mem_reportAt hm)

end Reliable

end Simulation
end Vigil
