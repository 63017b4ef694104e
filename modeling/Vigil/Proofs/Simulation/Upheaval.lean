import Vigil.Proofs.Simulation.Beats
import Vigil.Proofs.Simulation.Course

/-!
What the events of a step do to a member that is running after them. Either nothing has happened to
it, and then it runs on, suspects whom it suspected and waits as it did (`Undisturbed`), or it has
just started, suspects nobody and waits anew for everybody (`Starts`). At the beginning of a
simulation all members have just started.
-/

namespace Vigil

def ScheduledEvent.Crashes (e : ScheduledEvent) (r : InstanceId) : Prop :=
  e.action = .crash ∧ e.subject = r

namespace Simulation

variable {γ : Type} {s s' s'' : Simulation γ} {r o q x y : InstanceId} {n : Node} {k : TimerKey}
  {d : Nat} {e : ScheduledEvent} {l : List ScheduledEvent}

/-- From one state to the other `r` runs on, and nothing changes about what it knows of those who
are still members and about how long it waits for them. -/
structure Undisturbed (s s' : Simulation γ) (r : InstanceId) : Prop where
  running : r ∈ s.nodes.keys
  report : ∀ q ∈ s'.group, ∀ y ∈ s'.group, (y ∈ s'.reportAt r q ↔ y ∈ s.reportAt r q)
  pending : ∀ k d, k.peer ∈ s'.group → k.peer ≠ r → (s'.Pending r k d ↔ s.Pending r k d)

/-- It is now that `r` has started. -/
structure Starts (s : Simulation γ) (r : InstanceId) : Prop where
  report : ∀ q ∈ s.group, ∀ y ∈ s.group, y ∉ s.reportAt r q
  pending : ∀ k, k.peer ∈ s.group → k.peer ≠ r → s.Pending r k (s.now + s.scenario.wait k)

/-- No timer that is set now runs beyond the last instant. -/
def Fits (s : Simulation γ) : Prop :=
  ∀ k, s.now + s.scenario.wait k ≤ LogicalTimers.lastInstant

theorem Undisturbed.refl (hr : r ∈ s.nodes.keys) : Undisturbed s s r :=
  ⟨hr, fun _ _ _ _ => .rfl, fun _ _ _ _ => .rfl⟩

theorem Undisturbed.trans (h : Undisturbed s s' r) (h' : Undisturbed s' s'' r)
    (fewer : ∀ x ∈ s''.group, x ∈ s'.group) : Undisturbed s s'' r where
  running := h.running
  report q hq y hy := (h'.report q hq y hy).trans (h.report q (fewer q hq) y (fewer y hy))
  pending k d hk hne := (h'.pending k d hk hne).trans (h.pending k d (fewer _ hk) hne)

theorem Starts.undisturbed (h : s.Starts r) (h' : Undisturbed s s' r)
    (fewer : ∀ x ∈ s'.group, x ∈ s.group) (frame : s'.frame = s.frame) : s'.Starts r where
  report q hq y hy hmem := h.report q (fewer q hq) y (fewer y hy) ((h'.report q hq y hy).mp hmem)
  pending k hk hne := by
    have now : s'.now = s.now := congrArg Prod.snd frame
    have scenario : s'.scenario = s.scenario := congrArg Prod.fst frame
    rw [now, scenario]
    exact (h'.pending k _ hk hne).mpr (h.pending k (fewer _ hk) hne)

theorem Fits.of_frame (h : s.Fits) (frame : s'.frame = s.frame) : s'.Fits := by
  have now : s'.now = s.now := congrArg Prod.snd frame
  have scenario : s'.scenario = s.scenario := congrArg Prod.fst frame
  intro k
  rw [now, scenario]
  exact h k

/-- A node that has just been started for the members of now. -/
theorem starts_of_get? {members : List InstanceId} (small : s.Fits)
    (same : ∀ x, x ∈ members ↔ x ∈ s.group)
    (hn : s.nodes.get? r = some (Node.start r members s.scenario.timing s.now).join.node) :
    s.Starts r := by
  constructor
  · intro q _ y _
    rw [reportAt_eq hn, Node.reportOf_join]
    exact SortedSet.not_mem_empty y
  · intro k hk hne
    have wait : s.scenario.timing.wait k = .ofMillis (s.scenario.wait k) := by cases k <;> rfl
    have deadline := Node.deadline?_join r members s.scenario.timing s.now ((same _).mpr hk) hne
    rw [wait, LogicalTimers.deadlineAfter_ofMillis (small k)] at deadline
    exact ⟨_, hn, deadline⟩

/-! ### One event -/

theorem mem_keys_happen (hr : r ∈ s.nodes.keys) (spared : ¬ e.Crashes r) :
    r ∈ (s.happen e).nodes.keys := by
  rw [SortedMap.mem_keys_iff] at hr ⊢
  obtain ⟨n, hn⟩ := hr
  cases he : e.action with
  | crash =>
      have hne : r ≠ e.subject := fun h => spared ⟨he, h.symm⟩
      exact ⟨n, by rw [get?_crash he, if_neg hne, hn]⟩
  | restart =>
      rw [happen_restart he]
      split
      · rw [get?_startNode]
        split
        · exact ⟨_, rfl⟩
        · exact ⟨n, hn⟩
      · exact ⟨n, hn⟩
  | leave => exact ⟨_, by rw [get?_leave he, hn, Option.map_some]⟩

theorem happen_cases (h : s.Steady) (small : s.Fits) (hr : r ∈ (s.happen e).nodes.keys)
    (hg : r ∈ (s.happen e).group) :
    Undisturbed s (s.happen e) r ∧ ¬ e.Crashes r ∨
      (s.happen e).Starts r ∧ r ∉ s.nodes.keys ∧ e.action = .restart := by
  obtain ⟨n', hn'⟩ := SortedMap.mem_keys_iff.mp hr
  cases origin_of_happen hn' with
  | spared hn _ alive =>
      have same := hn'.trans hn.symm
      refine .inl ⟨⟨SortedMap.mem_keys_iff.mpr ⟨n', hn⟩, fun q _ y _ => ?_, fun k d _ _ => ?_⟩,
        fun hc => alive hc.1 hc.2.symm⟩
      · rw [reportAt, reportAt, same]
      · rw [Pending, Pending, same]
  | started restart _ absent _ =>
      have node : (s.happen e).nodes.get? r = some
          (Node.start r s.members (s.happen e).scenario.timing (s.happen e).now).join.node := by
        rw [scenario_happen, now_happen]
        exact hn'
      have same (x : InstanceId) : x ∈ s.members ↔ x ∈ (s.happen e).group := by
        rw [group_happen (by simp [restart]), mem_group]
      exact .inr ⟨starts_of_get? (small.of_frame (s.frame_happen e)) same node, absent, restart⟩
  | @parted n he hn =>
      have hr' := mem_group_of_happen hg
      have stays {x : InstanceId} (hx : x ∈ (s.happen e).group) : x ≠ e.subject :=
        ((mem_group_leave he).mp hx).2
      refine .inl ⟨⟨SortedMap.mem_keys_iff.mpr ⟨n, hn⟩, fun q hq y hy => ?_, fun k d hk _ => ?_⟩,
        fun hc => Action.noConfusion (he.symm.trans hc.1)⟩
      · rw [mem_reportAt_leave h he hr' (stays hg)]
        exact and_iff_left ⟨stays hq, stays hy⟩
      · exact pending_leave h he hr' (stays hg) (stays hk)

/-! ### Several events -/

theorem mem_group_of_foldl_happen (h : x ∈ (l.foldl happen s).group) : x ∈ s.group := by
  induction l generalizing s with
  | nil => exact h
  | cons e l ih => exact mem_group_of_happen (ih h)

theorem mem_keys_foldl_happen (hr : r ∈ s.nodes.keys) (spared : ∀ e ∈ l, ¬ e.Crashes r) :
    r ∈ (l.foldl happen s).nodes.keys := by
  induction l generalizing s with
  | nil => exact hr
  | cons e l ih =>
      rw [List.forall_mem_cons] at spared
      exact ih (mem_keys_happen hr spared.1) spared.2

theorem foldl_happen_cases (h : s.Steady) (small : s.Fits)
    (hr : r ∈ (l.foldl happen s).nodes.keys) (hg : r ∈ (l.foldl happen s).group) :
    Undisturbed s (l.foldl happen s) r ∧ (∀ e ∈ l, ¬ e.Crashes r) ∨
      (l.foldl happen s).Starts r ∧ (r ∈ s.nodes.keys → ∃ e ∈ l, e.Crashes r) ∧
        ∃ e ∈ l, e.action = .restart := by
  induction l generalizing s with
  | nil => exact .inl ⟨.refl hr, fun _ he => absurd he List.not_mem_nil⟩
  | cons e l ih =>
      have fewer {x : InstanceId} (hx : x ∈ (l.foldl happen (s.happen e)).group) :
          x ∈ (s.happen e).group := mem_group_of_foldl_happen hx
      have frame := (foldl_happen_fields l (s.happen e)).2.2
      -- The last start decides: what happens after it leaves `r` as it has started.
      rcases ih (h.happen e) (small.of_frame (s.frame_happen e)) hr hg with
        ⟨later, spared⟩ | ⟨starts, crashed, e', he', restart⟩
      · rcases happen_cases h small later.running (fewer hg) with
          ⟨first, hc⟩ | ⟨starts, absent, restart⟩
        · exact .inl ⟨first.trans later fun _ => fewer, List.forall_mem_cons.mpr ⟨hc, spared⟩⟩
        · exact .inr ⟨starts.undisturbed later (fun _ => fewer) frame,
            fun hr => absurd hr absent, e, List.mem_cons_self .., restart⟩
      · refine .inr ⟨starts, fun hr => ?_, e', List.mem_cons_of_mem e he', restart⟩
        by_cases hc : e.Crashes r
        · exact ⟨e, List.mem_cons_self .., hc⟩
        · obtain ⟨e'', he'', hc⟩ := crashed (mem_keys_happen hr hc)
          exact ⟨e'', List.mem_cons_of_mem e he'', hc⟩

/-! ### The events of a step -/

theorem mem_group_of_struck (h : x ∈ s.struck.group) : x ∈ s.group :=
  mem_group_of_foldl_happen (s := s.begun) h

theorem mem_keys_struck (hr : r ∈ s.nodes.keys) (spared : ∀ e ∈ s.due, ¬ e.Crashes r) :
    r ∈ s.struck.nodes.keys :=
  mem_keys_foldl_happen (s := s.begun) hr spared

theorem struck_cases (h : s.Steady) (small : s.struck.Fits) (hr : r ∈ s.struck.nodes.keys)
    (hg : r ∈ s.struck.group) :
    Undisturbed s s.struck r ∧ (∀ e ∈ s.due, ¬ e.Crashes r) ∨
      s.struck.Starts r ∧ (r ∈ s.nodes.keys → ∃ e ∈ s.due, e.Crashes r) ∧
        ∃ e ∈ s.due, e.action = .restart := by
  have frame : s.begun.frame = s.struck.frame := (foldl_happen_fields s.due s.begun).2.2.symm
  rcases foldl_happen_cases h.begun (small.of_frame frame) hr hg with ⟨same, spared⟩ | starts
  · exact .inl ⟨⟨same.running, same.report, same.pending⟩, spared⟩
  · exact .inr starts

theorem starts_start (draws : γ) (sc : Scenario)
    (small : ∀ k, sc.wait k ≤ LogicalTimers.lastInstant) (hr : r ∈ sc.members) :
    (start draws sc).Starts r := by
  obtain ⟨members, -, -, frame, get⟩ := start_fields draws sc
  have now : (start draws sc).now = 0 := congrArg Prod.snd frame
  have scenario : (start draws sc).scenario = sc := congrArg Prod.fst frame
  have node : (start draws sc).nodes.get? r = some (Node.start r sc.members
      (start draws sc).scenario.timing (start draws sc).now).join.node := by
    rw [get, if_pos hr, now, scenario]
  refine starts_of_get? (fun k => ?_) (fun x => ?_) node
  · rw [now, scenario, Nat.zero_add]
    exact small k
  · rw [group, members, Cluster.mem_seen]

theorem trusted_start (draws : γ) (sc : Scenario) (o : InstanceId) :
    (start draws sc).Trusted o := by
  have started {r : InstanceId} {n : Node} (hn : (start draws sc).nodes.get? r = some n) :
      n = (Node.start r sc.members sc.timing 0).join.node := by
    rw [(start_fields draws sc).2.2.2.2] at hn
    split at hn
    · exact (Option.some.inj hn).symm
    · cases hn
  refine ⟨fun r _ n hn q hq => ?_, fun r n hn e he => ?_⟩
  · rw [started hn, Node.reportOf_join] at hq
    exact SortedSet.not_mem_empty o hq
  · exact absurd he ((steady_start draws sc).quiet.handled r n hn e)

theorem Trusted.struck (ht : s.Trusted o) (h : s.Steady) : s.struck.Trusted o :=
  (struck_induction (P := (·.Trusted o)) h ⟨ht.trusts, ht.spares⟩
    fun _ steady trusted e _ => trusted.happen steady e).2

end Simulation
end Vigil
