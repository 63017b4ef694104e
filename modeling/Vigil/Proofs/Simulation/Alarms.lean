import Vigil.Proofs.Simulation.Views

/-!
Timers are neither lost nor left over. A timer that has run out travels through the mailbox before it
is armed anew, so in the middle of a step it may be missing; between two steps every running member
has both timers of every other member pending (`Vigilant`), and nobody has any other (`exact_timers`).
-/

namespace Vigil

namespace TimerKey

/-- The keys of both timers of a peer. -/
def both (peer : InstanceId) : List TimerKey := [.receive peer, .send peer]

theorem mem_both {k : TimerKey} {p : InstanceId} : k ∈ both p ↔ k.peer = p := by
  cases k <;> simp [both, peer]

/-- The keys of both timers of several peers. -/
def ofPeers (peers : List InstanceId) : List TimerKey := peers.flatMap both

theorem mem_ofPeers {k : TimerKey} {peers : List InstanceId} :
    k ∈ ofPeers peers ↔ k.peer ∈ peers := by
  simp [ofPeers, mem_both]

theorem nodup_ofPeers {peers : List InstanceId} (h : peers.Nodup) : (ofPeers peers).Nodup := by
  refine List.nodup_flatMap.mpr ⟨fun p _ => by simp [both], h.imp fun {p q} hne => ?_⟩
  intro k hp hq
  exact hne ((mem_both.mp hp).symm.trans (mem_both.mp hq))

end TimerKey

namespace Simulation

variable {γ : Type} {s : Simulation γ} {r : InstanceId} {n : Node} {e : ScheduledEvent}
  {k : TimerKey} {d : Nat}

/-- Every running member has all timers of all other members pending. -/
def Vigilant (s : Simulation γ) : Prop :=
  ∀ r ∈ s.group, r ∈ s.nodes.keys → ∀ k : TimerKey, k.peer ∈ s.group → k.peer ≠ r →
    ∃ d, s.Pending r k d

theorem Vigilant.happen (vigilant : s.Vigilant) (h : s.Steady) (e : ScheduledEvent) :
    (s.happen e).Vigilant := by
  intro r hr running k hk hne
  obtain ⟨n', hn'⟩ := SortedMap.mem_keys_iff.mp running
  have before {n : Node} (hn : s.nodes.get? r = some n) : ∃ d, s.Pending r k d :=
    vigilant r (mem_group_of_happen hr) (SortedMap.mem_keys_iff.mpr ⟨n, hn⟩) k
      (mem_group_of_happen hk) hne
  cases origin_of_happen hn' with
  | spared hn =>
      obtain ⟨d, m, hm, pending⟩ := before hn
      obtain rfl := Option.some.inj (hm.symm.trans hn)
      exact ⟨d, m, hn', pending⟩
  | started =>
      have member : k.peer ∈ s.members := mem_group.mp (mem_group_of_happen hk)
      exact ⟨_, _, hn', Node.deadline?_join r s.members s.scenario.timing s.now member hne⟩
  | parted he hn =>
      obtain ⟨d, pending⟩ := before hn
      have stays {x : InstanceId} (hx : x ∈ (s.happen e).group) : x ≠ e.subject :=
        ((mem_group_leave he).mp hx).2
      exact ⟨d, (pending_leave h he (mem_group_of_happen hr) (stays hr) (stays hk)).mpr pending⟩

theorem Vigilant.struck (vigilant : s.Vigilant) (h : s.Steady) : s.struck.Vigilant :=
  (struck_induction (P := Vigilant) h vigilant
    fun _ steady vigilant e _ => vigilant.happen steady e).2

/-- A timer that was pending is so after the tick, or its message waits to be handled. -/
theorem pending_or_ranOut_tickNodes (h : s.Steady) (hr : r ∈ s.group) (pending : s.Pending r k d) :
    s.tickNodes.Pending r k d ∨ s.tickNodes.RanOut r k := by
  by_cases late : d ≤ s.now
  · exact .inr ((ranOut_tickNodes h.order h.quiet h.clock hr).mpr ⟨d, pending, late⟩)
  · obtain ⟨n, hn, hd⟩ := pending
    refine .inl ⟨n.tick s.now, ?_, ?_⟩
    · rw [get?_tickNodes, hn]
      rfl
    · have distinct := (h.order.attends r n hn hr).watches.distinct
      refine (distinct.deadline?_expire s.now k).trans ?_
      rw [hd, Nat.max_eq_right (h.clock r n hn).1]
      simp [Option.filter, late]

theorem mem_keys_of_happen (running : r ∈ (s.happen e).nodes.keys) :
    r ∈ s.nodes.keys ∨ r ∈ s.members := by
  obtain ⟨n', hn'⟩ := SortedMap.mem_keys_iff.mp running
  cases origin_of_happen hn' with
  | spared hn => exact .inl (SortedMap.mem_keys_iff.mpr ⟨n', hn⟩)
  | started _ _ _ member => exact .inr member
  | parted _ hn => exact .inl (SortedMap.mem_keys_iff.mpr ⟨_, hn⟩)

theorem mem_keys_of_foldl_happen {l : List ScheduledEvent}
    (running : r ∈ (l.foldl happen s).nodes.keys) : r ∈ s.nodes.keys ∨ r ∈ s.members := by
  induction l generalizing s with
  | nil => exact .inl running
  | cons e l ih =>
      rcases ih running with before | member
      · exact mem_keys_of_happen before
      · exact .inr (mem_members_happen.mp member).1

variable [DrawSource γ]

/-- Handling the message of a timer arms it anew, and no message cancels any. -/
theorem pending_passed (h : s.InOrder) (clock : s.OnTime) (hr : r ∈ s.group)
    (armed : (∃ d, s.Pending r k d) ∨ s.RanOut r k) : ∃ d, s.passed.Pending r k d := by
  obtain ⟨kept, -, -, get⟩ := get?_passed h
  have running : ∃ n, s.nodes.get? r = some n := by
    rcases armed with ⟨d, n, hn, -⟩ | ⟨n, hn, -⟩ <;> exact ⟨n, hn⟩
  obtain ⟨n, hn⟩ := running
  have deadline := Node.deadline?_after (k := k) (h.attends r n hn hr) (h.awaited r n hn)
    (clock r n hn).2
  have set : ∃ d, (n.after n.inbox.toList).detector.timers.deadline? k = some d := by
    rw [deadline]
    split
    · exact ⟨_, rfl⟩
    · rename_i unread
      rcases armed with ⟨d, n', hn', hd⟩ | ranOut
      · obtain rfl := Option.some.inj (hn'.symm.trans hn)
        exact ⟨d, hd⟩
      · obtain ⟨e, he, content⟩ := (ranOut_iff hn).mp ranOut
        exact absurd ⟨e, he, content ▸ Detector.rearmed?_signal k⟩ unread
  obtain ⟨d, hd⟩ := set
  exact ⟨d, _, (get r).trans (congrArg _ hn), hd⟩

theorem Vigilant.round (vigilant : s.Vigilant) (h : s.Steady) : s.round.Vigilant := by
  intro r hr running k hk hne
  rw [group_round h.order h.quiet] at hr hk
  rw [mem_keys_round h.order h.quiet] at running
  obtain ⟨d, pending⟩ := vigilant r hr running k hk hne
  have order := h.order.tickNodes h.quiet
  have clock := h.clock.tickNodes
  have hr₁ : r ∈ s.tickNodes.passed.group := s.tickNodes.group_passed.symm ▸ hr
  have hr₂ : r ∈ s.tickNodes.passed.passed.group := s.tickNodes.passed.group_passed.symm ▸ hr₁
  -- A timer that has run out is armed by the first pass, and the others leave it armed.
  have first := pending_passed order clock hr
    ((pending_or_ranOut_tickNodes h hr pending).imp_left fun pending => ⟨d, pending⟩)
  have second := pending_passed order.passed (clock.passed order) hr₁ (.inl first)
  rw [round_eq h.order h.quiet]
  exact pending_passed order.passed.passed ((clock.passed order).passed order.passed) hr₂
    (.inl second)

section Start

variable (draws : γ) (sc : Scenario)

theorem vigilant_after (k : Nat) : (after draws sc k).Vigilant := by
  induction k with
  | zero =>
      intro r hr running k hk hne
      obtain ⟨members, -, -, -, get⟩ := start_fields draws sc
      have group : (after draws sc 0).group = Cluster.seen sc.members := congrArg _ members
      rw [group, Cluster.mem_seen] at hr hk
      have node := get r
      rw [if_pos hr] at node
      exact ⟨_, _, node, Node.deadline?_join r sc.members sc.timing 0 hk hne⟩
  | succ k ih =>
      have steady := steady_after draws sc k
      rw [after_succ, advance_eq_round]
      exact (ih.struck steady).round steady.struck

theorem mem_members_of_running {k : Nat} (running : r ∈ (after draws sc k).nodes.keys) :
    r ∈ sc.members := by
  induction k with
  | zero =>
      obtain ⟨n, hn⟩ := SortedMap.mem_keys_iff.mp running
      have node := ((start_fields draws sc).2.2.2.2 r).symm.trans hn
      split at node
      · assumption
      · cases node
  | succ k ih =>
      rw [after_succ, mem_keys_advance (steady_after draws sc k)] at running
      rcases mem_keys_of_foldl_happen running with before | member
      · exact ih before
      · exact ((mem_members_after draws sc).mp member).1

/-- The pending timers of a running instance that has not left are those for the next heartbeat from
and to each other member, one each; one that has left has none. -/
theorem exact_timers {k : Nat} (hn : (after draws sc k).nodes.get? r = some n) :
    (¬ HasLeft draws sc k r → n.phase = .heartbeat ∧
      (n.detector.timers.pending.map Armed.key).Perm
        (TimerKey.ofPeers ((after draws sc k).members.eraseDups.filter (· != r))) ∧
      ∀ a ∈ n.detector.timers.pending, a.message.content = a.key.signal) ∧
    (HasLeft draws sc k r → n.phase = .start ∧ n.detector.timers.pending = []) := by
  have order := (steady_after draws sc k).order
  have running := SortedMap.mem_keys_iff.mpr ⟨n, hn⟩
  constructor
  · intro stayed
    have member := (mem_members_after draws sc).mpr ⟨mem_members_of_running draws sc running, stayed⟩
    have hr := mem_group.mpr member
    have attends := order.attends r n hn hr
    refine ⟨attends.phase_eq, ?_, fun a ha => (attends.watches.armed a ha).1⟩
    rw [← Cluster.seen_eq_eraseDups]
    have distinct := TimerKey.nodup_ofPeers
      ((nodup_group (s := after draws sc k)).filter (· != r))
    refine (List.perm_ext_iff_of_nodup attends.watches.distinct distinct).mpr fun key => ?_
    rw [TimerKey.mem_ofPeers, List.mem_filter, bne_iff_ne]
    constructor
    · intro hkey
      obtain ⟨a, ha, rfl⟩ := List.mem_map.mp hkey
      exact (attends.watches.armed a ha).2
    · rintro ⟨peer, hne⟩
      obtain ⟨d, n', hn', hd⟩ := vigilant_after draws sc k r hr running key peer hne
      obtain rfl := Option.some.inj (hn'.symm.trans hn)
      obtain ⟨a, ha, -⟩ := Option.map_eq_some_iff.mp hd
      exact List.mem_map.mpr ⟨a, LogicalTimers.mem_of_find? ha, LogicalTimers.find?_key ha⟩
  · intro left
    have outside : r ∉ (after draws sc k).group := fun hr =>
      ((mem_members_after draws sc).mp (mem_group.mp hr)).2 left
    have retired := order.retired r n hn outside
    exact ⟨retired.phase_eq, retired.unarmed⟩

end Start

/-- The second, which has just been restarted, has timers for the first, which is the only other
member left. -/
theorem second_armed_after_restart :
    ∃ n, (after (CipherDraws.ofSeed 0) lossyDeparture 3).nodes.get? 2 = some n ∧
      n.phase = .heartbeat ∧
      (n.detector.timers.pending.map Armed.key).Perm [.receive 1, .send 1] := by
  have state : 2 ∈ (after (CipherDraws.ofSeed 0) lossyDeparture 3).nodes.keys ∧
      (after (CipherDraws.ofSeed 0) lossyDeparture 3).members = [1, 2, 2] := by
    decide +kernel
  obtain ⟨running, members⟩ := state
  obtain ⟨n, hn⟩ := SortedMap.mem_keys_iff.mp running
  have stayed : ¬ HasLeft (CipherDraws.ofSeed 0) lossyDeparture 3 2 := by
    refine ((mem_members_after (CipherDraws.ofSeed 0) lossyDeparture).mp ?_).2
    simp [members]
  obtain ⟨phase, keys, -⟩ := (exact_timers (CipherDraws.ofSeed 0) lossyDeparture hn).1 stayed
  have others : TimerKey.ofPeers (([1, 2, 2] : List InstanceId).eraseDups.filter (· != 2)) =
      [.receive 1, .send 1] := by
    decide +kernel
  rw [members, others] at keys
  exact ⟨n, hn, phase, keys⟩

end Simulation
end Vigil
