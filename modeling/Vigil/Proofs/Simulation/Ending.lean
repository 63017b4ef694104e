import Mathlib.Algebra.Order.Floor.Div
import Vigil.Proofs.Simulation.Beats
import Vigil.Proofs.Simulation.Course
import Vigil.Simulation.Report

/-!
Both loops of a simulation end. `Settles` and `Runs` are these loops without any limit: passes until
one moves nothing, and steps until the duration is over. Whatever is lost and however short the
timers are, a step takes four passes at most and leaves nothing to handle or to carry, and a run
makes as many steps as its duration takes, rounded up (`comes_to_rest`).
-/

namespace Vigil
namespace Simulation

variable {γ : Type} [DrawSource γ] {s t t' : Simulation γ} {k p p' : Nat}

/-! ### Passes -/

/-- It takes `p` passes from `s`, the last of which moves nothing, and they lead to `t`. -/
inductive Settles : Simulation γ → Nat → Simulation γ → Prop
  | last {s t : Simulation γ} : s.pass = (t, false) → Settles s 1 t
  | more {s s' t : Simulation γ} {p : Nat} : s.pass = (s', true) → Settles s' p t →
      Settles s (p + 1) t

theorem Settles.unique (h : s.Settles p t) (h' : s.Settles p' t') : p' = p ∧ t' = t := by
  induction h generalizing p' with
  | last still =>
      cases h' with
      | last still' => exact ⟨rfl, congrArg Prod.fst (still'.symm.trans still)⟩
      | more moves' => cases still.symm.trans moves'
  | more moves _ ih =>
      cases h' with
      | last still' => cases moves.symm.trans still'
      | more moves' rest' =>
          obtain rfl := congrArg Prod.fst (moves.symm.trans moves')
          obtain ⟨rfl, rfl⟩ := ih rest'
          exact ⟨rfl, rfl⟩

/-- If `k` passes leave nothing to do, the loop ends with the next one at the latest. -/
theorem settles_of_quiet (h : s.InOrder) (hc : s.Carried) (quiet : (passed^[k] s).Quiet) :
    ∃ p ≤ k + 1, s.Settles p (passed^[k] s) := by
  induction k generalizing s with
  | zero => exact ⟨1, Nat.le_refl 1, .last quiet.pass⟩
  | succ k ih =>
      have pass : s.pass = (s.passed, s.pass.2) := rfl
      cases moved : s.pass.2 with
      | false =>
          -- A pass that moves nothing changes nothing, so the passes left over do not either.
          have fixed := quiet_of_pass hc moved
          rw [passed_iterate_of_quiet fixed]
          exact ⟨1, Nat.le_add_left 1 _, .last fixed.pass⟩
      | true =>
          rw [moved] at pass
          obtain ⟨p, hp, rest⟩ := ih h.passed (carried_passed h) quiet
          exact ⟨p + 1, Nat.succ_le_succ hp, .more pass rest⟩

theorem settles_settle (h : s.InOrder) (hc : s.Carried) : ∃ p ≤ 4, s.Settles p s.settle := by
  rw [settle_eq h hc]
  exact settles_of_quiet (k := 3) h hc (quiet_third h)

/-! ### Steps -/

/-- It takes `k` steps from `s` until the duration of the scenario is over, and they lead to `t`. -/
inductive Runs : Simulation γ → Nat → Simulation γ → Prop
  | finished {s : Simulation γ} : s.scenario.duration ≤ s.now → Runs s 0 s
  | step {s t : Simulation γ} {k : Nat} : s.now < s.scenario.duration → Runs s.advance k t →
      Runs s (k + 1) t

theorem Runs.unique (h : s.Runs k t) (h' : s.Runs p t') : p = k ∧ t' = t := by
  induction h generalizing p with
  | finished ended =>
      cases h' with
      | finished => exact ⟨rfl, rfl⟩
      | step early' => exact absurd early' (Nat.not_lt_of_le ended)
  | step early _ ih =>
      cases h' with
      | finished ended' => exact absurd early (Nat.not_lt_of_le ended')
      | step _ rest' =>
          obtain ⟨rfl, rfl⟩ := ih rest'
          exact ⟨rfl, rfl⟩

section Start

variable (draws : γ) {sc : Scenario}

omit [DrawSource γ] draws in
theorem ceilDiv_step_le_iff (hs : 0 < sc.step) :
    sc.duration ⌈/⌉ sc.step ≤ k ↔ sc.duration ≤ k * sc.step := by
  rw [ceilDiv_le_iff_le_mul hs, Nat.mul_comm]

/-- The last `k` of `m` steps, where the duration is over after `m` steps and not before. -/
theorem runs_after {m : Nat} (early : ∀ i < m, i * sc.step < sc.duration)
    (ended : sc.duration ≤ m * sc.step) (hk : k ≤ m) :
    (after draws sc (m - k)).Runs k (after draws sc m) := by
  induction k with
  | zero =>
      refine .finished ?_
      rw [scenario_after, now_after]
      exact ended
  | succ k ih =>
      have before : m - (k + 1) < m := by omega
      have next : m - (k + 1) + 1 = m - k := by omega
      refine .step ?_ ?_
      · rw [scenario_after, now_after]
        exact early _ before
      · rw [← after_succ, next]
        exact ih (Nat.le_of_succ_le hk)

theorem runs_start (hs : 0 < sc.step) :
    (start draws sc).Runs (sc.duration ⌈/⌉ sc.step) (after draws sc (sc.duration ⌈/⌉ sc.step)) := by
  have early : ∀ i < sc.duration ⌈/⌉ sc.step, i * sc.step < sc.duration := by
    intro i hi
    rw [← Nat.not_le, ← ceilDiv_step_le_iff hs]
    exact Nat.not_le_of_lt hi
  have ended := (ceilDiv_step_le_iff hs).mp (Nat.le_refl _)
  have first := runs_after draws early ended (Nat.le_refl _)
  rwa [Nat.sub_self] at first

theorem run_eq_after (hs : 0 < sc.step) :
    (start draws sc).run = after draws sc (sc.duration ⌈/⌉ sc.step) := by
  obtain ⟨k, run, ended, early⟩ := run_start draws sc hs
  have enough := (ceilDiv_step_le_iff hs).mpr ended
  have covered := (ceilDiv_step_le_iff hs).mp (Nat.le_refl _)
  have last : k * sc.step < (sc.duration ⌈/⌉ sc.step + 1) * sc.step := by
    rw [Nat.succ_mul]
    exact Nat.lt_of_lt_of_le early (Nat.add_le_add_right covered _)
  have needed := Nat.le_of_lt_succ (Nat.lt_of_mul_lt_mul_right last)
  rw [run, Nat.le_antisymm needed enough]

/-- Every step settles after four passes at most, in a state in which no node has anything to handle
or to carry, and the run ends after as many steps as the duration takes. -/
theorem comes_to_rest (valid : sc.error? = none) :
    (∀ k, (∃ p ≤ 4, ∀ p' t, (after draws sc k).struck.tickNodes.Settles p' t ↔
        p' = p ∧ t = after draws sc (k + 1)) ∧
      ∀ r n, (after draws sc (k + 1)).nodes.get? r = some n → n.inbox = ∅ ∧ n.outbox = ∅) ∧
    (∀ k t, (start draws sc).Runs k t ↔
      k = sc.duration ⌈/⌉ sc.step ∧ t = (start draws sc).run) ∧
    (start draws sc).run.report.duration = sc.duration ⌈/⌉ sc.step * sc.step := by
  have hs := Scenario.step_pos_of_valid valid
  refine ⟨fun k => ⟨?_, fun r n hn => (steady_after draws sc (k + 1)).quiet.node hn⟩, ?_, ?_⟩
  · have struck := (steady_after draws sc k).struck
    obtain ⟨p, hp, settles⟩ :=
      settles_settle (struck.order.tickNodes struck.quiet) (carried_tickNodes struck.quiet)
    have advance : (after draws sc k).struck.tickNodes.settle = after draws sc (k + 1) :=
      (after_succ draws sc k).symm
    rw [advance] at settles
    refine ⟨p, hp, fun p' t => ⟨settles.unique, ?_⟩⟩
    rintro ⟨rfl, rfl⟩
    exact settles
  · intro k t
    rw [run_eq_after draws hs]
    refine ⟨(runs_start draws hs).unique, ?_⟩
    rintro ⟨rfl, rfl⟩
    exact runs_start draws hs
  · rw [run_eq_after draws hs]
    exact now_after draws sc _

end Start

/-- Half of all messages are lost, timers run out at once, and the duration ends within a step. -/
def restlessTrio : Scenario :=
  { Scenario.standard with
    heartbeatInterval := 0, heartbeatTimeout := 0, step := 7, duration := 20
    dropProbability := 0.5
    events := [⟨3, 1, .crash⟩, ⟨3, 2, .leave⟩, ⟨8, 1, .restart⟩] }

theorem restlessTrio_ends_after_three_steps :
    restlessTrio.error? = none ∧
      (start (CipherDraws.ofSeed 0) restlessTrio).Runs 3
        (start (CipherDraws.ofSeed 0) restlessTrio).run ∧
      (start (CipherDraws.ofSeed 0) restlessTrio).run.report.duration = 21 := by
  have valid : restlessTrio.error? = none := rfl
  obtain ⟨-, runs, duration⟩ := comes_to_rest (CipherDraws.ofSeed 0) valid
  exact ⟨valid, (runs 3 _).mpr ⟨rfl, rfl⟩, duration⟩

end Simulation
end Vigil
