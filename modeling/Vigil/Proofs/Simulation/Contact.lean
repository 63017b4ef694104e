import Vigil.Proofs.Simulation.Upheaval

/-!
Who hears whom. A running member has a timer for its next heartbeat to everybody else
(`Sends`), and as long as the next heartbeat of `q` comes before `r` stops waiting, `r` does
not suspect `q` (`Hears`). A round keeps that (`Hears.round`), and so do the events of a step unless
`q` crashes (`Hears.struck`).
-/

namespace Vigil
namespace Simulation

variable {γ : Type} {s s' : Simulation γ} {r o q x y : InstanceId} {k : TimerKey} {a d u : Nat}

/-- The beginning of a round in a reliable scenario. -/
structure Ready (s : Simulation γ) : Prop where
  steady : s.Steady
  lossless : s.network.rate.losing = 0
  reliable : s.scenario.Reliable
  fits : s.Fits
  whole : s.scenario.step ∣ s.now

/-- The timer of `q` for its next heartbeat to `r` has not run out at `u`, and waits no longer than
an interval. -/
def Sends (s : Simulation γ) (u : Nat) (q r : InstanceId) : Prop :=
  ∃ a, s.Pending q (.send r) a ∧ u < a ∧ a ≤ s.now + s.scenario.heartbeatInterval

/-- `r` does not suspect `q`, and waits for it longer than until its next heartbeat. -/
def Hears (s : Simulation γ) (r q : InstanceId) : Prop :=
  q ∉ s.reportAt r r ∧
    ∀ a, s.Pending q (.send r) a → ∃ d, s.Pending r (.receive q) d ∧ s.scenario.nextStep a < d

theorem Pending.unique (h : s.Pending r k a) (h' : s.Pending r k d) : a = d := by
  obtain ⟨n, hn, ha⟩ := h
  obtain ⟨n', hn', hd⟩ := h'
  obtain rfl := Option.some.inj (hn.symm.trans hn')
  exact Option.some.inj (ha.symm.trans hd)

theorem due_iff (h : s.Pending r k d) : s.Due r k ↔ d ≤ s.now :=
  ⟨fun ⟨_, h', late⟩ => h.unique h' ▸ late, fun late => ⟨d, h, late⟩⟩

theorem running_of_pending (h : s.Pending r k d) : r ∈ s.nodes.keys := by
  obtain ⟨n, hn, -⟩ := h
  exact SortedMap.mem_keys_iff.mpr ⟨n, hn⟩

/-- Timers are for other members. -/
theorem peer_of_pending (h : s.InOrder) (hr : r ∈ s.group) (pending : s.Pending r k d) :
    k.peer ∈ s.group ∧ k.peer ≠ r := by
  obtain ⟨n, hn, hd⟩ := pending
  obtain ⟨a, ha, -⟩ := Option.map_eq_some_iff.mp hd
  have armed := (h.attends r n hn hr).watches.armed a (LogicalTimers.mem_of_find? ha)
  rw [LogicalTimers.find?_key ha] at armed
  exact armed.2

theorem get?_eq_none (h : r ∉ s.nodes.keys) : s.nodes.get? r = none :=
  Option.eq_none_iff_forall_ne_some.mpr fun n hn => h (SortedMap.mem_keys_iff.mpr ⟨n, hn⟩)

theorem running_of_mem_reportAt (h : x ∈ s.reportAt r q) : r ∈ s.nodes.keys := by
  obtain ⟨n, hn, -⟩ := exists_of_mem_reportAt h
  exact SortedMap.mem_keys_iff.mpr ⟨n, hn⟩

/-! ### Over a round -/

section Round

variable [DrawSource γ] (h : s.Ready)
include h

omit h in
theorem now_round : s.round.now = s.now := congrArg Prod.snd s.frame_round

omit h in
theorem scenario_round : s.round.scenario = s.scenario := congrArg Prod.fst s.frame_round

namespace Ready

theorem mem_own_round (hr : r ∈ s.group) (running : r ∈ s.nodes.keys) (hx : x ∈ s.group) :
    x ∈ s.round.reportAt r r ↔
      (x ∈ s.reportAt r r ∨ s.Due r (.receive x)) ∧ ¬ s.Due x (.send r) :=
  Simulation.mem_own_round h.steady.order h.steady.quiet h.steady.clock h.lossless hr running hx

variable (hr : r ∈ s.group) (running : r ∈ s.nodes.keys) (hk : k.peer ∈ s.group)
include hr running hk

/-- A timer that was due, or waited for a heartbeat that was, runs anew. -/
theorem pending_anew (due : s.Due r k ∨ ∃ x, k = .receive x ∧ s.Due x (.send r)) :
    s.round.Pending r k (s.now + s.scenario.wait k) :=
  (pending_round h.steady.order h.steady.quiet h.steady.clock h.lossless hr running hk
    (h.fits k)).1 due

/-- Any other timer goes on. -/
theorem pending_still (pending : s.Pending r k d) (early : s.now < d)
    (silent : ¬ ∃ x, k = .receive x ∧ s.Due x (.send r)) : s.round.Pending r k d :=
  (pending_round h.steady.order h.steady.quiet h.steady.clock h.lossless hr running hk
    (h.fits k)).2 (fun due => Nat.not_le_of_lt early ((due_iff pending).mp due)) silent d pending

end Ready

variable (hq : q ∈ s.group) (hr : r ∈ s.group) (running : q ∈ s.nodes.keys)
include hq hr running

theorem Sends.round (sends : s.Sends u q r) : s.round.Sends s.now q r := by
  obtain ⟨a, pending, -, soon⟩ := sends
  have pos := h.reliable.interval_pos
  rw [Sends, now_round, scenario_round]
  by_cases due : a ≤ s.now
  · exact ⟨_, h.pending_anew (k := .send r) hq running hr (.inl ((due_iff pending).mpr due)),
      Nat.lt_add_of_pos_right pos, Nat.le_refl _⟩
  · refine ⟨a, h.pending_still (k := .send r) hq running hr pending (Nat.lt_of_not_le due) ?_,
      Nat.lt_of_not_le due, soon⟩
    rintro ⟨x, hx, -⟩
    cases hx

/-- Whoever is sent a heartbeat hears the sender. -/
theorem hears_of_due (runs : r ∈ s.nodes.keys) (due : s.Due q (.send r)) : s.round.Hears r q := by
  constructor
  · rw [h.mem_own_round hr runs hq]
    exact fun suspects => suspects.2 due
  · intro a pending
    have anew := h.pending_anew (k := .send r) hq running hr (.inl due)
    obtain rfl := anew.unique pending
    refine ⟨_, h.pending_anew (k := .receive q) hr runs hq (.inr ⟨q, rfl, due⟩), ?_⟩
    have next := Scenario.nextStep_le_beat h.reliable.step_pos h.whole (Nat.le_refl _)
    rw [scenario_round]
    exact Nat.lt_of_le_of_lt next (Nat.add_lt_add_left h.reliable.beat_lt _)

variable (sends : s.Sends u q r) (hu : u + s.scenario.step = s.now)
include sends hu

omit [DrawSource γ] hq hr running in
/-- Nobody is waited for in vain who is heard. -/
theorem Hears.not_due (hears : s.Hears r q) : ¬ s.Due r (.receive q) := by
  obtain ⟨a, pending, late, -⟩ := sends
  obtain ⟨d, waits, before⟩ := hears.2 a pending
  -- What is due after `u` is sent now at the earliest, and the wait is longer than that.
  have next : s.scenario.step ∣ u := (Nat.dvd_add_left (Nat.dvd_refl _)).mp (hu ▸ h.whole)
  have apart := Scenario.add_step_le next Scenario.dvd_nextStep
    (Nat.lt_of_lt_of_le late (Scenario.le_nextStep h.reliable.step_pos))
  rw [due_iff waits]
  omega

theorem Hears.round (hears : s.Hears r q) (runs : r ∈ s.nodes.keys) : s.round.Hears r q := by
  have unheard := hears.not_due h sends hu
  by_cases due : s.Due q (.send r)
  · exact hears_of_due h hq hr running runs due
  · obtain ⟨a, pending, -, -⟩ := sends
    obtain ⟨d, waits, before⟩ := hears.2 a pending
    constructor
    · rw [h.mem_own_round hr runs hq]
      rintro ⟨suspects | silence, -⟩
      · exact hears.1 suspects
      · exact unheard silence
    · intro a' pending'
      have later : s.now < a := Nat.lt_of_not_le fun le => due ((due_iff pending).mpr le)
      have still := h.pending_still (k := .send r) hq running hr pending later
        fun ⟨_, hx, _⟩ => TimerKey.noConfusion hx
      obtain rfl := still.unique pending'
      rw [scenario_round]
      refine ⟨d, h.pending_still (k := .receive q) hr runs hq waits ?_ ?_, before⟩
      · exact Nat.lt_of_not_le fun late => unheard ((due_iff waits).mpr late)
      · rintro ⟨x, hx, beat⟩
        cases hx
        exact due beat

end Round

/-! ### Over the events of a step -/

theorem Sends.undisturbed (sends : s.Sends u q r) (same : Undisturbed s s' q) (hr : r ∈ s'.group)
    (hne : r ≠ q) (now : s.now ≤ s'.now) (scenario : s'.scenario = s.scenario) :
    s'.Sends u q r := by
  obtain ⟨a, pending, late, soon⟩ := sends
  refine ⟨a, (same.pending (.send r) a hr hne).mpr pending, late, ?_⟩
  rw [scenario]
  exact Nat.le_trans soon (Nat.add_le_add_right now _)

theorem Starts.sends (h : s.Starts q) (hr : r ∈ s.group) (hne : r ≠ q) (hu : u ≤ s.now)
    (pos : 1 ≤ s.scenario.heartbeatInterval) : s.Sends u q r :=
  ⟨_, h.pending (.send r) hr hne, Nat.lt_of_le_of_lt hu (Nat.lt_add_of_pos_right pos),
    Nat.le_refl _⟩

theorem Hears.undisturbed (hears : s.Hears r q) (same : Undisturbed s s' r)
    (same' : Undisturbed s s' q) (hr : r ∈ s'.group) (hq : q ∈ s'.group) (hne : r ≠ q)
    (scenario : s'.scenario = s.scenario) : s'.Hears r q := by
  refine ⟨fun suspects => hears.1 ((same.report r hr q hq).mp suspects), fun a pending => ?_⟩
  obtain ⟨d, waits, before⟩ := hears.2 a ((same'.pending (.send r) a hr hne).mp pending)
  rw [scenario]
  exact ⟨d, (same.pending (.receive q) d hq hne.symm).mpr waits, before⟩

/-- Whoever starts waits longer for the heartbeat of another than until it comes. -/
theorem Starts.hears (h : s.Starts r) (hr : r ∈ s.group) (hq : q ∈ s.group) (hne : r ≠ q)
    (sends : s.Sends u q r) (reliable : s.scenario.Reliable) (whole : s.scenario.step ∣ s.now) :
    s.Hears r q := by
  refine ⟨h.report r hr q hq, fun a pending => ⟨_, h.pending (.receive q) hq hne.symm, ?_⟩⟩
  obtain ⟨a', pending', -, soon⟩ := sends
  obtain rfl := pending.unique pending'
  have next := Scenario.nextStep_le_beat reliable.step_pos whole soon
  exact Nat.lt_of_le_of_lt next (Nat.add_lt_add_left reliable.beat_lt _)

section Struck

variable (h : s.Steady) (small : s.struck.Fits) (hq : q ∈ s.struck.group)
  (hr : r ∈ s.struck.group) (hne : r ≠ q)
include h small

/-- Nothing has happened to an instance that was running and has not crashed. -/
theorem undisturbed_of_spared (hq : q ∈ s.struck.group) (running : q ∈ s.nodes.keys)
    (spared : ∀ e ∈ s.due, ¬ e.Crashes q) : Undisturbed s s.struck q := by
  rcases struck_cases h small (mem_keys_struck running spared) hq with ⟨same, -⟩ | ⟨-, crashed, -⟩
  · exact same
  · obtain ⟨e, he, hc⟩ := crashed running
    exact absurd hc (spared e he)

include hq hr hne

theorem Sends.struck (before : q ∈ s.nodes.keys → s.Sends u q r)
    (running : q ∈ s.struck.nodes.keys) (hu : u ≤ s.now)
    (pos : 1 ≤ s.scenario.heartbeatInterval) : s.struck.Sends u q r := by
  have now : s.now ≤ s.struck.now := by
    rw [now_struck]
    exact Nat.le_add_right _ _
  rcases struck_cases h small running hq with ⟨same, -⟩ | ⟨starts, -⟩
  · exact (before same.running).undisturbed same hr hne now s.scenario_struck
  · exact starts.sends hr hne (Nat.le_trans hu now) (s.scenario_struck ▸ pos)

theorem Hears.struck (before : r ∈ s.nodes.keys → s.Hears r q) (same' : Undisturbed s s.struck q)
    (runs : r ∈ s.struck.nodes.keys) (sends : s.struck.Sends u q r)
    (ready : s.struck.Ready) : s.struck.Hears r q := by
  rcases struck_cases h small runs hr with ⟨same, -⟩ | ⟨starts, -⟩
  · exact (before same.running).undisturbed same same' hr hq hne s.scenario_struck
  · exact starts.hears hr hq hne sends ready.reliable ready.whole

end Struck

end Simulation
end Vigil
