import Vigil.Proofs.Simulation.Majority
import Vigil.Proofs.Simulation.Silence

/-!
Detection without loss and without restarts. Every running member suspects exactly those members
that have crashed and whose silence shows, and knows the same of all others; of one that has crashed
since it knows what that one suspected at the end. So a crash is agreed on by everybody in one and
the same step, and an instance is failed if more than half of the members lived to see its silence
(`exact_detection`).
-/

namespace Vigil
namespace Simulation

variable {γ : Type} [DrawSource γ] {draws : γ} {sc : Scenario} {r o x : InstanceId} {c k : Nat}

/-- In step `c + 1` the running `x` has crashed, and by step `k` its silence shows. -/
def Silent (draws : γ) (sc : Scenario) (k c : Nat) (x : InstanceId) : Prop :=
  c < k ∧ (after draws sc c).Stops x ∧ sc.detection ((c + 1) * sc.step) ≤ k * sc.step

/-- The step in which the silence of an instance shows that has crashed in step `c + 1`. -/
def shownIn (sc : Scenario) (c : Nat) : Nat := sc.detection ((c + 1) * sc.step) / sc.step

/-- The members of step `k` that were running when that silence showed. -/
def witnesses (draws : γ) (sc : Scenario) (k c : Nat) : Finset InstanceId :=
  (after draws sc k).memberSet.filter (· ∈ (after draws sc (shownIn sc c)).nodes.keys)

section Final

variable (h : sc.Reliable) (final : ∀ e ∈ sc.events, e.action = .crash ∨ e.action = .leave)
include h

omit h in
theorem shownIn_mul : shownIn sc c * sc.step = sc.detection ((c + 1) * sc.step) :=
  Nat.div_mul_cancel Scenario.dvd_nextStep

theorem Silent.shownIn_le (silent : Silent draws sc k c x) : shownIn sc c ≤ k := by
  have shows := silent.2.2
  rw [← shownIn_mul] at shows
  exact Nat.le_of_mul_le_mul_right shows h.step_pos

include final

/-- Every running member suspects exactly the members whose silence shows. -/
theorem mem_own_after (hk : k * sc.step < sc.duration + sc.step)
    (running : o ∈ (after draws sc k).nodes.keys) (ho : o ∈ (after draws sc k).group)
    (hx : x ∈ (after draws sc k).group) :
    x ∈ (after draws sc k).reportAt o o ↔ ∃ c, Silent draws sc k c x := by
  constructor
  · intro suspects
    have gone : x ∉ (after draws sc k).nodes.keys := by
      intro alive
      obtain ⟨n, hn⟩ := SortedMap.mem_keys_iff.mp running
      have lasts := lasts_of_running h final hk alive hx
      rw [reportAt_eq hn] at suspects
      exact (trusted_after h lasts hk hx).trusts o ho n hn o suspects
    obtain ⟨c, hc, stops⟩ := exists_stops gone (mem_members_of_mem_group hx)
    have hne : o ≠ x := fun same => gone (same ▸ running)
    exact ⟨c, hc, stops, (stops.mem_own h final hc hk hx running ho hne).mp suspects⟩
  · rintro ⟨c, hc, stops, shows⟩
    have gone := stops.not_running h final hc hk hx
    have hne : o ≠ x := fun same => gone (same ▸ running)
    exact (stops.mem_own h final hc hk hx running ho hne).mpr shows

/-- It knows the same of the others, except that one that has crashed suspects only those whose
silence showed while it was running. -/
theorem mem_reportAt_after (hk : k * sc.step < sc.duration + sc.step)
    (running : o ∈ (after draws sc k).nodes.keys) (ho : o ∈ (after draws sc k).group)
    (hr : r ∈ (after draws sc k).group) (hx : x ∈ (after draws sc k).group) :
    x ∈ (after draws sc k).reportAt o r ↔
      ∃ c, Silent draws sc k c x ∧ r ∈ (after draws sc (shownIn sc c)).nodes.keys := by
  induction k with
  | zero =>
      have starts : (after draws sc 0).Starts o := starts_zero h (mem_group_zero.mp ho)
      refine iff_of_false (starts.report r hr x hx) ?_
      rintro ⟨c, ⟨hc, -⟩, -⟩
      exact Nat.not_lt_zero c hc
  | succ k ih =>
      by_cases runs : r ∈ (after draws sc (k + 1)).nodes.keys
      · have honest : ∀ i < k + 1, ¬ (after draws sc i).CrashesSuspecting r x := by
          rintro i hi ⟨-, e, he, crashes⟩
          exact lasts_of_running h final hk runs hr i hi e he crashes
        rw [told_after h (lasts_of_running h final hk running ho) hk ho hr hx honest,
          mem_own_after h final hk runs hr hx]
        refine exists_congr fun c => (and_iff_left_of_imp fun silent => ?_).symm
        exact running_of_le h final hk runs hr (silent.shownIn_le h)
      · have hne : r ≠ o := fun same => runs (same ▸ running)
        have hr := mem_group_after_succ hr
        have ho := mem_group_after_succ ho
        have hx := mem_group_after_succ hx
        have running := mem_keys_after_succ.mp running
        have same := (undisturbed_struck h final hk running ho).1
        have ready : (after draws sc k).struck.Ready := ready_struck h hk
        have before := ih (lt_of_succ hk) same.running (mem_group_of_struck ho)
          (mem_group_of_struck hr) (mem_group_of_struck hx)
        have gone : r ∉ (after draws sc k).struck.nodes.keys := mem_keys_after_succ.not.mp runs
        rw [after_succ, advance_eq_round, reportAt_round ready.steady.order ready.steady.quiet
          ready.lossless ho running hne (get?_eq_none gone), same.report r hr x hx, before]
        -- What shows only now is not shown to an instance that is not running any more.
        refine exists_congr fun c => and_congr_left fun saw => ?_
        constructor
        · rintro ⟨hc, stops, shows⟩
          exact ⟨Nat.lt_succ_of_lt hc, stops,
            Nat.le_trans shows (Nat.mul_le_mul_right _ (Nat.le_succ k))⟩
        · intro silent
          have le := silent.shownIn_le h
          have hne : shownIn sc c ≠ k + 1 := fun now => runs (now ▸ saw)
          have shows : sc.detection ((c + 1) * sc.step) ≤ k * sc.step := by
            rw [← shownIn_mul]
            exact Nat.mul_le_mul_right _ (by omega)
          have early := h.lt_detection_of_dvd (Nat.dvd_mul_left sc.step (c + 1))
          have hc := Nat.lt_of_mul_lt_mul_right (Nat.lt_of_lt_of_le early shows)
          exact ⟨Nat.lt_of_succ_lt hc, silent.2.1, shows⟩

theorem Silent.unique {c' : Nat} (hk : k * sc.step < sc.duration + sc.step)
    (hx : x ∈ (after draws sc k).group) (silent : Silent draws sc k c x)
    (silent' : Silent draws sc k c' x) : c = c' := by
  have not_before {a b : Nat} (first : Silent draws sc k a x) (second : Silent draws sc k b x) :
      ¬ a < b := by
    intro lt
    have early : b * sc.step < sc.duration + sc.step :=
      Nat.lt_of_le_of_lt (Nat.mul_le_mul_right _ (Nat.le_of_lt second.1)) hk
    exact first.2.1.not_running h final lt early (mem_group_of_le hx (Nat.le_of_lt second.1))
      second.2.1.1
  exact Nat.le_antisymm (Nat.le_of_not_lt (not_before silent' silent))
    (Nat.le_of_not_lt (not_before silent silent'))

/-- Those that accuse a silent member are those that saw its silence. -/
theorem accusersAt_eq (hk : k * sc.step < sc.duration + sc.step)
    (running : o ∈ (after draws sc k).nodes.keys) (ho : o ∈ (after draws sc k).group)
    (hx : x ∈ (after draws sc k).group) (silent : Silent draws sc k c x) :
    (after draws sc k).accusersAt o x = witnesses draws sc k c := by
  refine Finset.filter_congr fun r hr => ?_
  have hr := mem_group.mpr (mem_memberSet.mp hr)
  rw [mem_reportAt_after h final hk running ho hr hx]
  constructor
  · rintro ⟨c', silent', saw⟩
    rwa [silent.unique h final hk hx silent']
  · exact fun saw => ⟨c, silent, saw⟩

theorem mem_failed_after (hk : k * sc.step < sc.duration + sc.step) {n : Node}
    (hn : (after draws sc k).nodes.get? o = some n) (ho : o ∈ (after draws sc k).group) :
    x ∈ n.failed ↔ x ∈ (after draws sc k).members ∧ ∃ c, Silent draws sc k c x ∧
      (after draws sc k).memberSet.card < 2 * (witnesses draws sc k c).card := by
  have running := SortedMap.mem_keys_iff.mpr ⟨n, hn⟩
  rw [Node.failed, (steady_after draws sc k).order.mem_failed_iff hn ho]
  refine and_congr_right fun member => ?_
  have hx := mem_group.mpr member
  constructor
  · intro majority
    have accused : 0 < ((after draws sc k).accusersAt o x).card := by omega
    obtain ⟨r, hr⟩ := Finset.card_pos.mp accused
    obtain ⟨hr, suspects⟩ := Finset.mem_filter.mp hr
    obtain ⟨c, silent, -⟩ := (mem_reportAt_after h final hk running ho
      (mem_group.mpr (mem_memberSet.mp hr)) hx).mp suspects
    rw [accusersAt_eq h final hk running ho hx silent] at majority
    exact ⟨c, silent, majority⟩
  · rintro ⟨c, silent, majority⟩
    rwa [accusersAt_eq h final hk running ho hx silent]

/-- At the end of every step every running member suspects exactly the members that have crashed and
whose silence shows, and fails those of them that more than half of the members lived to see silent.
So all agree, and nobody that is running is suspected or failed. -/
theorem exact_detection (hk : k * sc.step < sc.duration + sc.step) {n : Node}
    (hn : (after draws sc k).nodes.get? o = some n) (ho : o ∈ (after draws sc k).members) :
    (∀ x, x ∈ n.detector.reportOf o ↔
      x ∈ (after draws sc k).members ∧ ∃ c, Silent draws sc k c x) ∧
    (∀ x, x ∈ n.failed ↔ x ∈ (after draws sc k).members ∧ ∃ c, Silent draws sc k c x ∧
      (after draws sc k).memberSet.card < 2 * (witnesses draws sc k c).card) ∧
    (∀ o' n', (after draws sc k).nodes.get? o' = some n' → o' ∈ (after draws sc k).members →
      n'.detector.reportOf o' = n.detector.reportOf o ∧ n'.failed = n.failed) ∧
    ∀ x ∈ (after draws sc k).nodes.keys, x ∉ n.detector.reportOf o ∧ x ∉ n.failed := by
  have order := (steady_after draws sc k).order
  have own {o : InstanceId} {n : Node} (hn : (after draws sc k).nodes.get? o = some n)
      (ho : o ∈ (after draws sc k).members) (x : InstanceId) : x ∈ n.detector.reportOf o ↔
        x ∈ (after draws sc k).members ∧ ∃ c, Silent draws sc k c x := by
    rw [← mem_group] at ho
    rw [← reportAt_eq hn]
    have running := SortedMap.mem_keys_iff.mpr ⟨n, hn⟩
    refine ⟨fun hx => ?_, fun ⟨member, silent⟩ => ?_⟩
    · have member := order.mem_members_of_reportAt ho hx
      exact ⟨member, (mem_own_after h final hk running ho (mem_group.mpr member)).mp hx⟩
    · exact (mem_own_after h final hk running ho (mem_group.mpr member)).mpr silent
  have failed {o : InstanceId} {n : Node} (hn : (after draws sc k).nodes.get? o = some n)
      (ho : o ∈ (after draws sc k).members) (x : InstanceId) :=
    mem_failed_after (x := x) h final hk hn (mem_group.mpr ho)
  refine ⟨own hn ho, failed hn ho, fun o' n' hn' ho' => ⟨?_, ?_⟩, fun x running => ⟨?_, ?_⟩⟩
  · ext x
    rw [own hn' ho', own hn ho]
  · ext x
    rw [failed hn' ho', failed hn ho]
  · rw [own hn ho]
    rintro ⟨member, c, silent⟩
    exact silent.2.1.not_running h final silent.1 hk (mem_group.mpr member) running
  · rw [failed hn ho]
    rintro ⟨member, c, silent, -⟩
    exact silent.2.1.not_running h final silent.1 hk (mem_group.mpr member) running

end Final

/-- The third of three crashes in the first step. -/
def crashOfThird : Scenario :=
  { Scenario.standard with
    heartbeatInterval := 1, heartbeatTimeout := 2, step := 1, duration := 10
    events := [⟨1, 3, .crash⟩] }

theorem third_failed_one_step_later :
    let s := after (CipherDraws.ofSeed 0) crashOfThird 2
    crashOfThird.Reliable ∧ (∀ e ∈ crashOfThird.events, e.action = .crash ∨ e.action = .leave) ∧
      2 * crashOfThird.step < crashOfThird.duration + crashOfThird.step ∧
      ∃ n, s.nodes.get? 1 = some n ∧ 1 ∈ s.members ∧ 3 ∈ n.failed := by
  intro s
  have reliable : crashOfThird.Reliable := ⟨rfl, by decide +kernel, by decide, by decide, by decide⟩
  have final : ∀ e ∈ crashOfThird.events, e.action = .crash ∨ e.action = .leave := by decide
  have early : 2 * crashOfThird.step < crashOfThird.duration + crashOfThird.step := by decide
  have silent : Silent (CipherDraws.ofSeed 0) crashOfThird 2 0 3 := by
    refine ⟨by decide, ⟨mem_keys_zero (by decide), ⟨1, 3, .crash⟩, ?_, rfl, rfl⟩, by decide⟩
    decide +kernel
  have seen : 1 ∈ s.nodes.keys ∧ 1 ∈ s.members ∧ 3 ∈ s.members ∧
      s.memberSet.card < 2 * (witnesses (CipherDraws.ofSeed 0) crashOfThird 2 0).card := by
    decide +kernel
  obtain ⟨running, member, member', majority⟩ := seen
  obtain ⟨n, hn⟩ := SortedMap.mem_keys_iff.mp running
  have failed := (exact_detection reliable final early hn member).2.1 3
  exact ⟨reliable, final, early, n, hn, member, failed.mpr ⟨member', 0, silent, majority⟩⟩

end Simulation
end Vigil
