import Vigil.Proofs.Simulation.Veterans

/-!
Silence. All members that have not crashed beat in time with each other (`beat_after`,
`waits_after`). When no more heartbeats come from one of them the others wait for the one that would
have come after its last, and suspect it from the first step on in which that wait is over
(`silence_after`). Where nobody is restarted, whoever has crashed is silent for good
(`Stops.mem_own`).
-/

namespace Vigil
namespace Simulation

variable {γ : Type} [DrawSource γ] {draws : γ} {sc : Scenario} {s : Simulation γ}
  {r o q x y : InstanceId} {c j k : Nat} {e : ScheduledEvent}

/-- In the next step `x` crashes, and it has been running until then. -/
def Stops (s : Simulation γ) (x : InstanceId) : Prop :=
  x ∈ s.nodes.keys ∧ ∃ e ∈ s.due, e.Crashes x

section Reliable

variable (h : sc.Reliable)
include h

/-! ### Beats -/

omit [DrawSource γ] in
/-- A step later the last beat is of now if the next one was due, and else the same. -/
theorem lastBeat_succ :
    sc.lastBeat ((k + 1 + 1) * sc.step) =
      if sc.lastBeat ((k + 1) * sc.step) + sc.heartbeatInterval ≤ (k + 1) * sc.step
      then (k + 1) * sc.step else sc.lastBeat ((k + 1) * sc.step) := by
  rw [Nat.succ_mul (k + 1)]
  exact Scenario.lastBeat_next h.step_pos h.interval_pos (Nat.dvd_mul_left _ _)
    (Nat.mul_pos (Nat.succ_pos k) h.step_pos)

theorem pending_zero (key : TimerKey) (hr : r ∈ (after draws sc 0).group)
    (hk : key.peer ∈ (after draws sc 0).group) (hne : key.peer ≠ r) :
    (after draws sc 0).Pending r key (sc.lastBeat ((0 + 1) * sc.step) + sc.wait key) := by
  have starts : (after draws sc 0).Starts r := starts_zero h (mem_group_zero.mp hr)
  have starts := starts.pending key hk hne
  rw [now_after, scenario_after, Nat.zero_mul] at starts
  rwa [Nat.zero_add, Nat.one_mul, Scenario.lastBeat_step h.step_pos h.interval_pos]

/-- The next heartbeat of a member that has not crashed is due one interval after the last beat. -/
theorem beat_after (lasts : Lasts draws sc k x) (hk : k * sc.step < sc.duration + sc.step)
    (hx : x ∈ (after draws sc k).group) (hr : r ∈ (after draws sc k).group) (hne : r ≠ x) :
    (after draws sc k).Pending x (.send r)
      (sc.lastBeat ((k + 1) * sc.step) + sc.heartbeatInterval) := by
  induction k with
  | zero => exact pending_zero h (.send r) hx hr hne
  | succ k ih =>
      have hx := mem_group_after_succ hx
      have hr := mem_group_after_succ hr
      have running := lasts.running_struck hx
      have ready : (after draws sc k).struck.Ready := ready_struck h hk
      have before := ((lasts.undisturbed h hk hx).pending (.send r) _ hr hne).mpr (ih lasts.before
        (lt_of_succ hk) (mem_group_of_struck hx) (mem_group_of_struck hr))
      rw [after_succ, advance_eq_round, lastBeat_succ h]
      split
      · rename_i due
        have anew := ready.pending_anew (k := .send r) hx running hr
          (.inl ((due_iff before).mpr (by rwa [now_struck_eq])))
        rwa [now_struck_eq, scenario_struck_eq] at anew
      · rename_i early
        refine ready.pending_still (k := .send r) hx running hr before ?_ ?_
        · rw [now_struck_eq]
          exact Nat.lt_of_not_le early
        · rintro ⟨q, hq, -⟩
          cases hq

/-- The others wait for it until one timeout after the last beat. -/
theorem waits_after (lasts : Lasts draws sc k x) (lasts' : Lasts draws sc k r)
    (hk : k * sc.step < sc.duration + sc.step) (hx : x ∈ (after draws sc k).group)
    (hr : r ∈ (after draws sc k).group) (hne : r ≠ x) :
    (after draws sc k).Pending r (.receive x)
      (sc.lastBeat ((k + 1) * sc.step) + sc.heartbeatTimeout) := by
  induction k with
  | zero => exact pending_zero h (.receive x) hr hx hne.symm
  | succ k ih =>
      have hx := mem_group_after_succ hx
      have hr := mem_group_after_succ hr
      have runs := lasts'.running_struck hr
      have ready : (after draws sc k).struck.Ready := ready_struck h hk
      have before := ((lasts'.undisturbed h hk hr).pending (.receive x) _ hx hne.symm).mpr
        (ih lasts.before lasts'.before (lt_of_succ hk) (mem_group_of_struck hx)
          (mem_group_of_struck hr))
      have beat := ((lasts.undisturbed h hk hx).pending (.send r) _ hr hne).mpr (beat_after h
        lasts.before (lt_of_succ hk) (mem_group_of_struck hx) (mem_group_of_struck hr) hne)
      rw [after_succ, advance_eq_round, lastBeat_succ h]
      split
      · rename_i due
        have anew := ready.pending_anew (k := .receive x) hr runs hx
          (.inr ⟨x, rfl, (due_iff beat).mpr (by rwa [now_struck_eq])⟩)
        rwa [now_struck_eq, scenario_struck_eq] at anew
      · rename_i early
        refine ready.pending_still (k := .receive x) hr runs hx before ?_ ?_
        · have within := Scenario.le_lastBeat_add h.step_pos h.interval_pos ((k + 1) * sc.step)
          rw [now_struck_eq]
          exact Nat.lt_of_le_of_lt within (Nat.add_lt_add_left h.beat_lt _)
        · rintro ⟨q, hq, due⟩
          cases hq
          rw [due_iff beat, now_struck_eq] at due
          exact early due

/-! ### Silence -/

/-- When no heartbeat of `x` comes any more from step `c + 1` on, a member that has not crashed
suspects it as soon as that shows, and until then waits for it. -/
theorem silence_after (lasts : Lasts draws sc c x) (lasts' : Lasts draws sc k r) (hc : c ≤ k)
    (hk : k * sc.step < sc.duration + sc.step) (hx : x ∈ (after draws sc k).group)
    (hr : r ∈ (after draws sc k).group) (hne : r ≠ x)
    (mute : ∀ m, c ≤ m → m < k → ¬ (after draws sc m).struck.Due x (.send r)) :
    if sc.detection ((c + 1) * sc.step) ≤ k * sc.step then x ∈ (after draws sc k).reportAt r r
    else x ∉ (after draws sc k).reportAt r r ∧ (after draws sc k).Pending r (.receive x)
      (sc.lastBeat ((c + 1) * sc.step) + sc.heartbeatTimeout) := by
  induction k, hc using Nat.le_induction with
  | base =>
      obtain ⟨n, hn⟩ := SortedMap.mem_keys_iff.mp (lasts'.running (mem_members_of_mem_group hr))
      have early := h.lt_detection_of_dvd (Nat.dvd_mul_left sc.step (c + 1))
      have late : ¬ sc.detection ((c + 1) * sc.step) ≤ c * sc.step := by
        rw [Nat.succ_mul] at early ⊢
        omega
      rw [if_neg late]
      refine ⟨?_, waits_after h lasts lasts' hk hx hr hne⟩
      rw [reportAt_eq hn]
      exact (trusted_after h lasts hk hx).trusts r hr n hn r
  | succ k hc ih =>
      have hx := mem_group_after_succ hx
      have hr := mem_group_after_succ hr
      have runs := lasts'.running_struck hr
      have ready : (after draws sc k).struck.Ready := ready_struck h hk
      have same := lasts'.undisturbed h hk hr
      have before := ih lasts'.before (lt_of_succ hk) (mem_group_of_struck hx)
        (mem_group_of_struck hr) fun m hcm hm => mute m hcm (Nat.lt_succ_of_lt hm)
      -- Without a heartbeat the wait for it is not begun anew.
      have silent := mute k hc (Nat.lt_succ_self k)
      have own := ready.mem_own_round hr runs hx
      rw [and_iff_left silent, same.report r hr x hx] at own
      rw [after_succ, advance_eq_round, own]
      have shows : sc.detection ((c + 1) * sc.step) ≤ (k + 1) * sc.step ↔
          sc.lastBeat ((c + 1) * sc.step) + sc.heartbeatTimeout ≤ (k + 1) * sc.step :=
        Scenario.nextStep_le_iff h.step_pos (Nat.dvd_mul_left _ _)
      split at before
      · rename_i shown
        have later : sc.detection ((c + 1) * sc.step) ≤ (k + 1) * sc.step :=
          Nat.le_trans shown (Nat.mul_le_mul_right _ (Nat.le_succ k))
        rw [if_pos later]
        exact .inl before
      · have pending := (same.pending (.receive x) _ hx hne.symm).mpr before.2
        have due := due_iff pending
        rw [now_struck_eq, ← shows] at due
        rw [due, or_iff_right before.1]
        split
        · assumption
        · rename_i early
          refine ⟨early, ready.pending_still (k := .receive x) hr runs hx pending ?_ ?_⟩
          · rw [now_struck_eq]
            exact Nat.lt_of_not_le (shows.not.mp early)
          · rintro ⟨q, hq, due⟩
            cases hq
            exact silent due

/-! ### Where nobody is restarted -/

section Final

variable (final : ∀ e ∈ sc.events, e.action = .crash ∨ e.action = .leave)
include final

theorem undisturbed_struck (hk : (k + 1) * sc.step < sc.duration + sc.step)
    (running : x ∈ (after draws sc k).struck.nodes.keys)
    (hx : x ∈ (after draws sc k).struck.group) :
    Undisturbed (after draws sc k) (after draws sc k).struck x ∧
      ∀ e ∈ (after draws sc k).due, ¬ e.Crashes x := by
  rcases struck_cases (steady_after draws sc k) (ready_struck h hk).fits running hx with
    undisturbed | ⟨-, -, e, he, restart⟩
  · exact undisturbed
  · rcases final e (mem_events_of_mem_agenda draws sc (mem_of_mem_due he)) with hc | hc <;>
      exact Action.noConfusion (hc.symm.trans restart)

theorem lasts_of_running (hk : k * sc.step < sc.duration + sc.step)
    (running : x ∈ (after draws sc k).nodes.keys) (hx : x ∈ (after draws sc k).group) :
    Lasts draws sc k x := by
  induction k with
  | zero => exact fun i hi => absurd hi (Nat.not_lt_zero i)
  | succ k ih =>
      have hx := mem_group_after_succ hx
      obtain ⟨same, spared⟩ := undisturbed_struck h final hk (mem_keys_after_succ.mp running) hx
      have early := ih (lt_of_succ hk) same.running (mem_group_of_struck hx)
      intro i hi
      rcases Nat.lt_succ_iff_lt_or_eq.mp hi with hi | rfl
      · exact early i hi
      · exact spared

theorem running_of_le (hk : k * sc.step < sc.duration + sc.step)
    (running : x ∈ (after draws sc k).nodes.keys) (hx : x ∈ (after draws sc k).group) (hj : j ≤ k) :
    x ∈ (after draws sc j).nodes.keys := by
  have lasts := lasts_of_running h final hk running hx
  have early : Lasts draws sc j x := fun i hi => lasts i (Nat.lt_of_lt_of_le hi hj)
  exact early.running (mem_members_of_mem_group hx)

theorem Stops.not_running (stops : (after draws sc c).Stops x) (hc : c < k)
    (hk : k * sc.step < sc.duration + sc.step) (hx : x ∈ (after draws sc k).group) :
    x ∉ (after draws sc k).nodes.keys := by
  intro running
  obtain ⟨-, e, he, crashes⟩ := stops
  exact lasts_of_running h final hk running hx c hc e he crashes

omit h final in
theorem exists_stops (gone : x ∉ (after draws sc k).nodes.keys) (hx : x ∈ sc.members) :
    ∃ c < k, (after draws sc c).Stops x := by
  induction k with
  | zero => exact absurd (mem_keys_zero hx) gone
  | succ k ih =>
      by_cases running : x ∈ (after draws sc k).nodes.keys
      · refine ⟨k, Nat.lt_succ_self k, running, ?_⟩
        by_contra spared
        push Not at spared
        exact gone (mem_keys_after_succ.mpr (mem_keys_struck running spared))
      · obtain ⟨c, hc, stops⟩ := ih running
        exact ⟨c, Nat.lt_succ_of_lt hc, stops⟩

/-- The others suspect an instance that has crashed as soon as its silence shows. -/
theorem Stops.mem_own (stops : (after draws sc c).Stops x) (hc : c < k)
    (hk : k * sc.step < sc.duration + sc.step) (hx : x ∈ (after draws sc k).group)
    (runs : r ∈ (after draws sc k).nodes.keys) (hr : r ∈ (after draws sc k).group) (hne : r ≠ x) :
    x ∈ (after draws sc k).reportAt r r ↔ sc.detection ((c + 1) * sc.step) ≤ k * sc.step := by
  have early : c * sc.step < sc.duration + sc.step :=
    Nat.lt_of_le_of_lt (Nat.mul_le_mul_right _ (Nat.le_of_lt hc)) hk
  have lasts := lasts_of_running h final early stops.1 (mem_group_of_le hx (Nat.le_of_lt hc))
  -- Nobody that is gone sends heartbeats.
  have mute : ∀ m, c ≤ m → m < k → ¬ (after draws sc m).struck.Due x (.send r) := by
    rintro m hcm hm ⟨d, pending, -⟩
    have soon : (m + 1) * sc.step < sc.duration + sc.step :=
      Nat.lt_of_le_of_lt (Nat.mul_le_mul_right _ hm) hk
    exact stops.not_running h final (Nat.lt_succ_of_le hcm) soon (mem_group_of_le hx hm)
      (mem_keys_after_succ.mpr (running_of_pending pending))
  have silence := silence_after h lasts (lasts_of_running h final hk runs hr) (Nat.le_of_lt hc) hk
    hx hr hne mute
  split at silence
  · exact iff_of_true silence ‹_›
  · exact iff_of_false silence.1 ‹_›

end Final

end Reliable

end Simulation
end Vigil
