import Vigil.Network
import Vigil.Scenario
import Vigil.Timers.Logical

/-!
Heartbeats in whole steps. Timers are looked at once in a step, so the heartbeats of an instance
come in multiples of its interval, rounded up to steps (`beat`), and its silence shows in the
first step in which a timer that was set by its last heartbeat has run out (`detection`).
-/

namespace Vigil

open Float.Model (UnpackedFloat) in
/-- Neither zero loses anything. -/
theorem LossRate.ofProbability_zero {p : Float} (h : (p == 0.0) = true) :
    LossRate.ofProbability p = ⟨0⟩ := by
  have apart (u : UnpackedFloat) (hu : u.beq (.zero .positive) = true) :
      UnpackedFloat.lt (.zero .positive) u = false := by
    cases u with
    | notANumber => rfl
    | zero sign => rfl
    | infinity sign => cases sign <;> exact Bool.noConfusion (show false = true from hu)
    | finite sign => cases sign <;> exact Bool.noConfusion (show false = true from hu)
  have notPositive : ¬ p > 0.0 := by
    intro hp
    have lt : UnpackedFloat.lt (.zero .positive) p.toModel.unpack = true := of_decide_eq_true hp
    exact Bool.noConfusion ((apart _ h).symm.trans lt)
  rw [ofProbability, if_neg notPositive]

namespace Scenario

/-- The first step that is not before `t`. -/
def nextStep (sc : Scenario) (t : Nat) : Nat := (t + sc.step - 1) / sc.step * sc.step

/-- How many steps are made before the one in which an event of that time happens. -/
def stepsBefore (sc : Scenario) (t : Nat) : Nat := (t - 1) / sc.step

/-- The time of the step in which an event of time `t` happens; the first step is not at the start,
but after it. -/
def appliedAt (sc : Scenario) (t : Nat) : Nat := (sc.stepsBefore t + 1) * sc.step

/-- The time between two heartbeats: the interval in whole steps. -/
def beat (sc : Scenario) : Nat := sc.nextStep sc.heartbeatInterval

/-- The last time before `t` at which an instance that has been running from the start sends
heartbeats. -/
def lastBeat (sc : Scenario) (t : Nat) : Nat := (t - 1) / sc.beat * sc.beat

/-- When the others notice that an instance has stopped at `t`. -/
def detection (sc : Scenario) (t : Nat) : Nat :=
  sc.nextStep (sc.lastBeat t + sc.heartbeatTimeout)

/-- A scenario that can be simulated, in which nothing is lost, heartbeats come more often than the
timeout, and no timer runs beyond the last instant. -/
structure Reliable (sc : Scenario) : Prop where
  valid : sc.error? = none
  lossless : (sc.dropProbability == 0.0) = true
  interval_pos : 1 ≤ sc.heartbeatInterval
  beat_lt : sc.beat < sc.heartbeatTimeout
  fits : sc.duration + sc.step + sc.heartbeatInterval + sc.heartbeatTimeout ≤
    LogicalTimers.lastInstant

variable {sc : Scenario} {t u : Nat}

/-! ### Steps -/

section Steps

variable (hs : 0 < sc.step)
include hs

omit hs in
theorem dvd_nextStep : sc.step ∣ sc.nextStep t := Nat.dvd_mul_left _ _

theorem le_nextStep : t ≤ sc.nextStep t := by
  have split := Nat.div_add_mod (t + sc.step - 1) sc.step
  have rest := Nat.mod_lt (t + sc.step - 1) hs
  rw [Nat.mul_comm] at split
  unfold nextStep
  omega

theorem nextStep_lt : sc.nextStep t < t + sc.step := by
  have split := Nat.div_mul_le_self (t + sc.step - 1) sc.step
  unfold nextStep
  omega

omit hs in
/-- Whole steps are apart by at least one step. -/
theorem add_step_le {u v : Nat} (hu : sc.step ∣ u) (hv : sc.step ∣ v) (h : u < v) :
    u + sc.step ≤ v := by
  have apart := Nat.le_of_dvd (Nat.sub_pos_of_lt h) (Nat.dvd_sub hv hu)
  omega

theorem nextStep_le_iff (hu : sc.step ∣ u) : sc.nextStep t ≤ u ↔ t ≤ u := by
  refine ⟨Nat.le_trans (le_nextStep hs), fun h => Nat.le_of_not_lt fun later => ?_⟩
  have apart := add_step_le hu (dvd_nextStep (t := t)) later
  have close := nextStep_lt (t := t) hs
  omega

/-- From a step on it takes as many steps as from the start. -/
theorem nextStep_add (hu : sc.step ∣ u) : sc.nextStep (u + t) = u + sc.nextStep t := by
  obtain ⟨m, rfl⟩ := hu
  have split : sc.step * m + t + sc.step - 1 = t + sc.step - 1 + sc.step * m := by omega
  rw [nextStep, nextStep, split, Nat.add_mul_div_left _ _ hs, Nat.add_mul, Nat.mul_comm m,
    Nat.add_comm]

theorem stepsBefore_le_iff {k : Nat} : sc.stepsBefore t ≤ k ↔ t ≤ (k + 1) * sc.step := by
  have pos : 0 < (k + 1) * sc.step := Nat.mul_pos (Nat.succ_pos k) hs
  rw [stepsBefore, ← Nat.lt_add_one_iff, Nat.div_lt_iff_lt_mul hs]
  omega

theorem nextStep_mono {v : Nat} (h : u ≤ v) : sc.nextStep u ≤ sc.nextStep v :=
  (nextStep_le_iff hs dvd_nextStep).mpr (Nat.le_trans h (le_nextStep hs))

end Steps

/-! ### Beats -/

section Beats

variable (hs : 0 < sc.step) (hi : 1 ≤ sc.heartbeatInterval)
include hs

theorem interval_le_beat : sc.heartbeatInterval ≤ sc.beat := le_nextStep hs

/-- A timer for the next heartbeat that was set at most one interval from now is due after one beat
at most. -/
theorem nextStep_le_beat (hu : sc.step ∣ u) (h : t ≤ u + sc.heartbeatInterval) :
    sc.nextStep t ≤ u + sc.beat :=
  nextStep_add (t := sc.heartbeatInterval) hs hu ▸ nextStep_mono hs h

include hi

theorem beat_pos : 0 < sc.beat := Nat.lt_of_lt_of_le hi (interval_le_beat hs)

theorem le_lastBeat_add (t : Nat) : t ≤ sc.lastBeat t + sc.beat := by
  have split := Nat.div_add_mod (t - 1) sc.beat
  have rest := Nat.mod_lt (t - 1) (beat_pos hs hi)
  rw [Nat.mul_comm] at split
  unfold lastBeat
  omega

theorem lastBeat_step : sc.lastBeat sc.step = 0 := by
  have whole := Nat.le_of_dvd (beat_pos hs hi) dvd_nextStep
  have first : sc.step - 1 < sc.beat := Nat.lt_of_lt_of_le (Nat.sub_lt hs Nat.one_pos) whole
  rw [lastBeat, Nat.div_eq_of_lt first, Nat.zero_mul]

/-- A step later the last heartbeat is of now if the interval since the last one is over. -/
theorem lastBeat_next (hu : sc.step ∣ u) (pos : 0 < u) :
    sc.lastBeat (u + sc.step) =
      if sc.lastBeat u + sc.heartbeatInterval ≤ u then u else sc.lastBeat u := by
  have beatPos := beat_pos hs hi
  have before : sc.lastBeat u < u := by
    have low := Nat.div_mul_le_self (u - 1) sc.beat
    unfold lastBeat
    omega
  have whole : sc.step ∣ sc.lastBeat u := Nat.dvd_mul_left_of_dvd dvd_nextStep _
  have within := le_lastBeat_add hs hi u
  -- No multiple of the beat lies strictly between the last heartbeat and the one after it.
  have next {q v : Nat} (hv : v = q * sc.beat) (low : v < u + sc.step)
      (high : u + sc.step ≤ v + sc.beat) : sc.lastBeat (u + sc.step) = v := by
    have quotient : (u + sc.step - 1) / sc.beat = q := by
      rw [Nat.div_eq_iff beatPos, ← hv]
      omega
    rw [lastBeat, quotient, hv]
  split
  · rename_i ended
    have due : sc.lastBeat u + sc.beat ≤ u := by
      rw [← nextStep_le_iff hs hu, nextStep_add hs whole] at ended
      exact ended
    have now : u = ((u - 1) / sc.beat + 1) * sc.beat := by
      rw [Nat.add_mul, Nat.one_mul]
      exact Nat.le_antisymm within due
    refine next now (Nat.lt_add_of_pos_right hs) (Nat.add_le_add_left ?_ u)
    exact Nat.le_of_dvd beatPos dvd_nextStep
  · rename_i before'
    have early : u < sc.lastBeat u + sc.beat := by
      rw [← nextStep_le_iff hs hu, nextStep_add hs whole] at before'
      exact Nat.lt_of_not_le before'
    refine next rfl (Nat.lt_add_right _ before) ?_
    exact add_step_le hu (Nat.dvd_add whole dvd_nextStep) early

end Beats

theorem step_pos_of_valid (valid : sc.error? = none) : 0 < sc.step := by
  unfold error? at valid
  split at valid
  · cases valid
  · split at valid
    · cases valid
    · exact Nat.pos_of_ne_zero ‹_›

theorem subject_mem_of_valid (valid : sc.error? = none) {e : ScheduledEvent} (he : e ∈ sc.events) :
    e.subject ∈ sc.members := by
  unfold error? at valid
  split at valid
  · cases valid
  · split at valid
    · cases valid
    · split at valid
      · cases valid
      · have known := List.find?_eq_none.mp (Option.map_eq_none_iff.mp valid) e he
        simpa using known

namespace Reliable

variable (h : sc.Reliable)
include h

theorem step_pos : 0 < sc.step := step_pos_of_valid h.valid

theorem losing_eq : (LossRate.ofProbability sc.dropProbability).losing = 0 := by
  rw [LossRate.ofProbability_zero h.lossless]

/-- The silence of an instance does not show before it has stopped. -/
theorem lt_detection_of_dvd (hu : sc.step ∣ u) : u < sc.detection u := by
  have within := le_lastBeat_add h.step_pos h.interval_pos u
  have often := h.beat_lt
  refine Nat.lt_of_not_le fun early => ?_
  have late := (nextStep_le_iff h.step_pos hu).mp early
  omega

end Reliable

end Scenario
end Vigil
