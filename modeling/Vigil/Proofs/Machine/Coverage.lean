import Vigil.Proofs.Machine.Agreement
import Vigil.Proofs.Node.Lifecycle

/-!
Which peers a machine keeps timers for. A timer of a peer that fires is armed again when its
message is handled, and until then the message is still to come (`Machine.Covers`). The machine
arms the timers of all peers when it joins and of none when a member joins later, so members that
came while it was exchanging heartbeats are left out (`Machine.newcomers`).
-/

namespace Vigil

namespace LogicalTimers

variable {κ μ : Type} [DecidableEq κ] {t : LogicalTimers κ μ} {k l : κ} {time : Nat}

theorem isPending_iff : t.isPending k = true ↔ ∃ a ∈ t.pending, a.key = k := by
  simp [isPending, find?, List.find?_isSome]

@[simp] theorem isPending_without :
    (t.without k).isPending l = (decide (l ≠ k) && t.isPending l) := by
  by_cases h : l = k <;> simp [isPending, h]

@[simp] theorem isPending_set [HasKind μ] (m : μ) :
    (t.set k m).isPending l = (decide (l = k) || t.isPending l) := by
  by_cases h : l = k <;> simp [isPending, h]

theorem isPending_expire (h : t.isPending k = true) (time : Nat) :
    (t.expire time).1.isPending k = true ∨ ∃ a ∈ (t.expire time).2, a.key = k := by
  obtain ⟨a, pending, rfl⟩ := isPending_iff.mp h
  by_cases late : a.deadline ≤ max t.now time
  · exact .inr ⟨a, mem_expired.mpr ⟨pending, late⟩, rfl⟩
  · exact .inl (isPending_iff.mpr ⟨a, List.mem_filter.mpr ⟨pending, by simpa using late⟩, rfl⟩)

theorem isPending_of_expire (h : (t.expire time).1.isPending k = true) : t.isPending k = true := by
  obtain ⟨a, pending, key⟩ := isPending_iff.mp h
  exact isPending_iff.mpr ⟨a, (List.mem_filter.mp pending).1, key⟩

end LogicalTimers

namespace Detector

variable {d : Detector} {e : Envelope Signal} {k : TimerKey} {id : InstanceId}

/-- Every timer delivers the signal of its key. -/
def Apt (d : Detector) : Prop := ∀ a ∈ d.timers.pending, a.message.content = a.key.signal

theorem apt_of_sublist {d' : Detector} (h : d.Apt)
    (kept : d'.timers.pending.Sublist d.timers.pending) : d'.Apt :=
  fun a ha => h a (kept.subset ha)

theorem isPending_armTimers :
    (d.armTimers e).timers.isPending k =
      (decide (k.peer ∈ d.cluster.peers) || d.timers.isPending k) := by
  rw [timers_armTimers]
  generalize d.cluster.peers = l, d.timers = t
  induction l generalizing t with
  | nil => simp
  | cons p l ih =>
      rw [List.foldl_cons, ih]
      cases k <;> simp [armBoth, TimerKey.peer] <;> grind

/-- Handling a message arms again the timer that has delivered it, and leaves the timers of the
other peers. -/
theorem isPending_respondInHeartbeat (peer : k.peer ∈ d.cluster.peers)
    (covered : d.timers.isPending k = true ∨ e.content = k.signal)
    (phase : (d.respondInHeartbeat e).phase = .heartbeat) :
    (d.respondInHeartbeat e).detector.timers.isPending k = true := by
  have stays : e.content ≠ .leave := fun leave => by
    rw [phase_eq_start_iff.mpr leave] at phase
    cases phase
  rw [timers_respondInHeartbeat]
  cases arms : d.arms? e.content with
  | none =>
      have pending := covered.resolve_right fun delivered => by
        simp [delivered, arms?_signal peer] at arms
      obtain ⟨a, armed, rfl⟩ := LogicalTimers.isPending_iff.mp pending
      exact LogicalTimers.isPending_iff.mpr ⟨a, mem_leftOver stays peer armed, rfl⟩
  | some l =>
      rw [Option.elim_some, LogicalTimers.isPending_set, Bool.or_eq_true, decide_eq_true_eq]
      refine covered.symm.imp_left fun delivered => ?_
      rw [delivered, arms?_signal peer] at arms
      exact Option.some.inj arms

/-- A message makes the instance wait for heartbeats of members only. -/
theorem watched_respondInHeartbeat
    (h : (d.respondInHeartbeat e).detector.timers.isPending (.receive id) = true) :
    d.timers.isPending (.receive id) = true ∨ id ∈ d.cluster.members := by
  rw [timers_respondInHeartbeat] at h
  cases arms : d.arms? e.content with
  | none =>
      rw [arms] at h
      obtain ⟨a, left, key⟩ := LogicalTimers.isPending_iff.mp h
      exact .inl (LogicalTimers.isPending_iff.mpr ⟨a, mem_of_mem_leftOver left, key⟩)
  | some k =>
      rw [arms, Option.elim_some, LogicalTimers.isPending_set, Bool.or_eq_true,
        decide_eq_true_eq] at h
      rcases h with rfl | pending
      · exact .inr (mem_of_arms?_eq_receive arms)
      · exact .inl pending

/-- What a message arms delivers the signal of its key in the conversation of the message. -/
theorem timeout_of_mem_respondInHeartbeat {a : Armed TimerKey (Envelope Signal)}
    (ha : a ∈ (d.respondInHeartbeat e).detector.timers.pending) :
    a ∈ d.timers.pending ∨ a.message = .timeout a.key.signal e := by
  rw [timers_respondInHeartbeat] at ha
  cases arms : d.arms? e.content with
  | none =>
      rw [arms] at ha
      exact .inl (mem_of_mem_leftOver ha)
  | some k =>
      rw [arms] at ha
      rcases LogicalTimers.mem_pending_set ha with old | rfl
      · exact .inl old
      · exact .inr rfl

end Detector

namespace Machine

variable {m : Machine} {outlet : Outlet} {e : Envelope Signal} {n : List InstanceId}
  {due es : List (Envelope Signal)} {k : TimerKey} {id : InstanceId}

theorem timeout_of_mem_handle {a : Armed TimerKey (Envelope Signal)}
    (ha : a ∈ (m.handle outlet e).1.detector.timers.pending) :
    a ∈ m.detector.timers.pending ∨ a.message = .timeout a.key.signal e := by
  rw [← m.detector.timers_checkMembers]
  change a ∈ (m.respond e).detector.timers.pending at ha
  rcases m.respond_cases e with ⟨-, -, respond⟩ | ⟨-, -, respond⟩ | ⟨-, respond⟩ <;>
    rw [respond] at ha
  · exact .inl ha
  · exact (Detector.timeout_of_mem_armTimers ha).imp_right And.left
  · exact Detector.timeout_of_mem_respondInHeartbeat ha

theorem apt_handle (outlet : Outlet) (h : m.detector.Apt) : (m.handle outlet e).1.detector.Apt := by
  intro a ha
  rcases timeout_of_mem_handle ha with old | message
  · exact h a old
  · rw [message]
    exact Envelope.content_timeout _ _

/-- While the machine exchanges heartbeats, both timers of every peer but the newcomers are
pending, or what they deliver is among the messages due. -/
def Covers (m : Machine) (newcomers : List InstanceId) (due : List (Envelope Signal)) : Prop :=
  m.phase = .heartbeat → ∀ k : TimerKey, k.peer ∈ m.detector.cluster.peers → k.peer ∉ newcomers →
    m.detector.timers.isPending k = true ∨ ∃ e ∈ due, e.content = k.signal

/-- The newcomers that are left after messages. Whoever takes no part knows no newcomers, since
joining arms the timers of all peers. -/
def newcomers (outlet : Outlet) (m : Machine) (n : List InstanceId) :
    List (Envelope Signal) → List InstanceId
  | [] => n
  | e :: es =>
    (m.handle outlet e).1.newcomers outlet (if m.phase = .start then [] else n) es

theorem covers_handle (outlet : Outlet) (h : m.Covers n (e :: due)) :
    (m.handle outlet e).1.Covers (if m.phase = .start then [] else n) due := by
  intro phase k peer veteran
  rw [m.cluster_handle outlet e] at peer
  have same : m.detector.checkMembers.1.cluster = m.detector.cluster :=
    m.detector.cluster_checkMembers
  have timers : m.detector.checkMembers.1.timers = m.detector.timers :=
    m.detector.timers_checkMembers
  change (m.respond e).phase = .heartbeat at phase
  change (m.respond e).detector.timers.isPending k = true ∨ _
  rcases m.respond_cases e with
    ⟨-, -, respond⟩ | ⟨-, -, respond⟩ | ⟨before, respond⟩ <;> rw [respond] at phase ⊢
  · cases phase
  · refine .inl ?_
    simp [Detector.isPending_armTimers, peer]
  · have rearmed (covered : m.detector.checkMembers.1.timers.isPending k = true ∨
        e.content = k.signal) :=
      Detector.isPending_respondInHeartbeat (same ▸ peer) covered phase
    rw [if_neg fun start => absurd (before.symm.trans start) (by decide)] at veteran
    rcases h before k peer veteran with pending | ⟨e', he', content⟩
    · exact .inl (rearmed (.inl (timers ▸ pending)))
    · rcases List.mem_cons.mp he' with rfl | later
      · exact .inl (rearmed (.inr content))
      · exact .inr ⟨e', later, content⟩

theorem watched_handle (outlet : Outlet)
    (h : (m.handle outlet e).1.detector.timers.isPending (.receive id) = true) :
    m.detector.timers.isPending (.receive id) = true ∨ id ∈ m.detector.cluster.members := by
  change (m.respond e).detector.timers.isPending _ = true at h
  rcases m.respond_cases e with
    ⟨-, -, respond⟩ | ⟨-, -, respond⟩ | ⟨-, respond⟩ <;> rw [respond] at h
  · exact .inl (by simpa using h)
  · rw [Detector.isPending_armTimers, Bool.or_eq_true, decide_eq_true_eq, Detector.mem_peers] at h
    exact h.symm.imp (by simp [Detector.forgetFailures]) fun peer => by
      simpa [TimerKey.peer] using peer.1
  · simpa using Detector.watched_respondInHeartbeat h

theorem Covers.mono {due' : List (Envelope Signal)} (h : m.Covers n due)
    (more : ∀ e ∈ due, e ∈ due') : m.Covers n due' := fun phase k peer veteran =>
  (h phase k peer veteran).imp_right fun ⟨e, he, content⟩ => ⟨e, more e he, content⟩

/-- Once all messages that are due have been handled, whatever others came between, nothing is
left to wait for. -/
theorem covers_handleEach (arrive : due.Sublist es) (h : m.Covers n due) :
    (m.handleEach outlet es).1.Covers (m.newcomers outlet n es) [] := by
  induction arrive generalizing m n with
  | slnil => exact h
  | cons e _ ih => exact ih (covers_handle outlet (h.mono fun _ => List.mem_cons_of_mem e))
  | cons_cons e _ ih => exact ih (covers_handle outlet h)

theorem apt_handleEach (h : m.detector.Apt) : (m.handleEach outlet es).1.detector.Apt := by
  induction es generalizing m with
  | nil => exact h
  | cons e es ih => exact ih (apt_handle outlet h)

theorem watched_handleEach
    (h : (m.handleEach outlet es).1.detector.timers.isPending (.receive id) = true) :
    m.detector.timers.isPending (.receive id) = true ∨ id ∈ m.detector.cluster.members := by
  induction es generalizing m with
  | nil => exact .inl h
  | cons e es ih =>
      rcases ih h with pending | member
      · exact watched_handle outlet pending
      · exact .inr (m.cluster_handle outlet e ▸ member)

end Machine
end Vigil
