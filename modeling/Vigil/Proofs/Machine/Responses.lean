import Vigil.Proofs.Detector.Arming
import Vigil.Proofs.Machine.Run

/-!
What a message does to an instance that exchanges heartbeats, whatever the message says and whatever
the instance knows: which timer it arms (`Detector.arms?`) and which timers it leaves
(`Detector.leftOver`), what becomes of every report, and how many heartbeats it makes the instance
send to a peer. Mostly the message is ordinary (`Detector.Ordinary`), and then it is simple what it
does to timers and to the own report.
-/

namespace Vigil
namespace Detector

variable {d d' : Detector} {e : Envelope Signal} {k : TimerKey} {id p r x : InstanceId} {s : Signal}

@[simp] theorem reportOf_expectHeartbeat (d : Detector) (p : InstanceId) (cause : Envelope Signal)
    (q : InstanceId) : (d.expectHeartbeat p cause).reportOf q = d.reportOf q := rfl

@[simp] theorem reportOf_scheduleHeartbeat (d : Detector) (p : InstanceId)
    (cause : Envelope Signal) (q : InstanceId) :
    (d.scheduleHeartbeat p cause).reportOf q = d.reportOf q := rfl

theorem mem_members : id ∈ d.cluster.members ↔ d.isMember id = true := List.contains_iff_mem.symm

theorem eq_me : id = d.me ↔ d.isMe id = true := by
  rw [isMe, Cluster.isMe, beq_iff_eq]
  exact eq_comm

theorem not_mem_peers : id ∉ d.cluster.peers ↔ (d.isMe id || !d.isMember id) = true := by
  rw [mem_peers, Bool.or_eq_true, ← eq_me, Bool.not_eq_true', ← Bool.not_eq_true, ← mem_members]
  tauto

theorem phase_eq_start_iff : (d.respondInHeartbeat e).phase = .start ↔ e.content = .leave := by
  unfold respondInHeartbeat
  split <;> rename_i h <;> rw [h]
  · simp
  · simp
  all_goals split <;> simp

/-! ### Timers -/

/-- The timer that a signal makes an instance arm. -/
def arms? (d : Detector) : Signal → Option TimerKey
  | .iAmAlive id => if id ∈ d.cluster.peers then some (.receive id) else none
  | .timedOut id => if id ∈ d.cluster.members then some (.receive id) else none
  | .sendHeartbeat id => if id ∈ d.cluster.peers then some (.send id) else none
  | .resetSendHeartbeat id => if id = d.me then none else some (.send id)
  | .join | .leave | .suspicions _ => none

/-- The timers that are left after a signal that arms none. -/
def leftOver (d : Detector) : Signal → HeartbeatTimers
  | .leave => d.disarmTimers.timers
  | .timedOut id => if id ∈ d.cluster.members then d.timers else (d.cancelTimers id).timers
  | _ => d.timers

theorem timers_respondInHeartbeat (d : Detector) (e : Envelope Signal) :
    (d.respondInHeartbeat e).detector.timers =
      (d.arms? e.content).elim (d.leftOver e.content) fun k =>
        d.timers.set k (.timeout k.signal e) := by
  unfold respondInHeartbeat
  split <;> rename_i h <;> rw [h]
  · rfl
  · rfl
  · split <;> rename_i outside <;> rw [← not_mem_peers] at outside
    · simp [arms?, leftOver, outside]
    · simp [arms?, not_not.mp outside, expectHeartbeat, setTimer, TimerKey.signal]
  · split <;> rename_i member <;> rw [← mem_members] at member
    · simp [arms?, member, expectHeartbeat, setTimer, TimerKey.signal]
    · simp [arms?, leftOver, member, cancelTimers]
  · split <;> rename_i outside <;> rw [← not_mem_peers] at outside
    · simp [arms?, leftOver, outside]
    · simp [arms?, not_not.mp outside, scheduleHeartbeat, setTimer, TimerKey.signal]
  · split <;> rename_i self <;> rw [← eq_me] at self
    · simp [arms?, leftOver, self]
    · simp [arms?, self, scheduleHeartbeat, setTimer, cancelTimer, TimerKey.signal,
        LogicalTimers.set_without]
  · split
    · exact timers_receiveReport ..
    · rfl

theorem arms?_congr (h : d'.cluster = d.cluster) : d'.arms? s = d.arms? s := by
  unfold arms? me
  rw [h]

theorem arms?_signal (peer : k.peer ∈ d.cluster.peers) : d.arms? k.signal = some k := by
  cases k with
  | receive p => exact if_pos (mem_peers.mp peer).1
  | send p => exact if_pos peer

theorem arms?_eq_receive (peer : p ∈ d.cluster.peers) :
    d.arms? s = some (.receive p) ↔ s = .iAmAlive p ∨ s = .timedOut p := by
  have member := (mem_peers.mp peer).1
  cases s <;> simp [arms?] <;> grind

theorem mem_of_arms?_eq_receive (h : d.arms? s = some (.receive p)) : p ∈ d.cluster.members := by
  cases s <;> simp [arms?, mem_peers] at h <;> grind

theorem mem_of_mem_leftOver {a : Armed TimerKey (Envelope Signal)}
    (h : a ∈ (d.leftOver s).pending) : a ∈ d.timers.pending := by
  unfold leftOver at h
  split at h
  · exact (mem_pending_disarmTimers.mp h).1
  · split at h
    · exact h
    · exact (mem_pending_cancelTimers.mp h).1
  · exact h

/-- Unless the instance leaves, it keeps the timers of its peers. -/
theorem mem_leftOver {a : Armed TimerKey (Envelope Signal)} (stays : s ≠ .leave)
    (peer : a.key.peer ∈ d.cluster.peers) (h : a ∈ d.timers.pending) :
    a ∈ (d.leftOver s).pending := by
  unfold leftOver
  split
  · exact absurd rfl stays
  · split
    · exact h
    · rename_i outsider
      refine mem_pending_cancelTimers.mpr ⟨h, fun same => outsider ?_⟩
      exact same ▸ (mem_peers.mp peer).1
  · exact h

/-! ### Reports -/

theorem mem_reportOf_respondInHeartbeat_iff : x ∈ (d.respondInHeartbeat e).detector.reportOf r ↔
    match e.content with
    | .iAmAlive id => x ∈ d.reportOf r ∧ ¬(id ∈ d.cluster.peers ∧ r = d.me ∧ x = id)
    | .timedOut id =>
      if id ∈ d.cluster.members then x ∈ d.reportOf r ∨ id ≠ d.me ∧ r = d.me ∧ x = id
      else x ∈ d.reportOf r ∧ r ≠ id ∧ x ≠ id
    | .suspicions suspects =>
      if e.sender = .ok r then x ∈ suspects ∧ x ≠ d.me else x ∈ d.reportOf r
    | _ => x ∈ d.reportOf r := by
  unfold respondInHeartbeat
  split <;> rename_i h <;> rw [h]
  · obtain ⟨t, ht⟩ := d.sameButTimers_disarmTimers
    rw [ht]
    rfl
  · split <;> rename_i outside <;> rw [← not_mem_peers] at outside
    · simp [outside]
    · simpa [not_not.mp outside] using mem_reportOf_heardFrom
  · rename_i server
    split <;> rename_i member <;> rw [← mem_members] at member
    · simp only [member, if_true, reportOf_expectHeartbeat]
      by_cases self : server = d.me
      · simp [suspect_eq, self]
      · simpa [self] using mem_reportOf_suspect self
    · simpa [member] using mem_reportOf_depart
  · split <;> rfl
  · split <;> rfl
  · split
    · rename_i sender named
      rw [mem_reportOf_receiveReport, named]
      simp [eq_comm]
    · rename_i unnamed
      simp [unnamed]

/-- The message makes `q` a suspecter of `x`. -/
def Accuses (d : Detector) (e : Envelope Signal) (q x : InstanceId) : Prop :=
  x ≠ d.me ∧
    ((e.content = .timedOut x ∧ x ∈ d.cluster.members ∧ q = d.me) ∨
      ∃ s, e.content = .suspicions s ∧ x ∈ s ∧ e.sender = .ok q)

theorem mem_reportOf_respondInHeartbeat (h : x ∈ (d.respondInHeartbeat e).detector.reportOf r) :
    x ∈ d.reportOf r ∨ d.Accuses e r x := by
  rw [mem_reportOf_respondInHeartbeat_iff] at h
  split at h <;> rename_i content
  · exact .inl h.1
  · split at h
    · rename_i member
      refine h.imp_right ?_
      rintro ⟨other, rfl, rfl⟩
      exact ⟨other, .inl ⟨content, member, rfl⟩⟩
    · exact .inl h.1
  · split at h
    · rename_i named
      exact .inr ⟨h.2, .inr ⟨_, content, h.1, named⟩⟩
    · exact .inl h
  · exact .inl h

/-! ### Heartbeats -/

theorem heartbeats_respondInHeartbeat :
    (d.respondInHeartbeat e).letters.countP (fun l => decide (l = ⟨id, .iAmAlive d.me⟩)) =
      if e.content = .sendHeartbeat id ∧ id ∈ d.cluster.peers then 1 else 0 := by
  have reports (d' : Detector) (me : InstanceId) :
      d'.reportLetters.countP (fun l => decide (l = ⟨id, .iAmAlive me⟩)) = 0 := by
    refine List.countP_eq_zero.mpr fun l hl => ?_
    obtain ⟨peer, -, rfl⟩ := List.mem_map.mp hl
    simp
  unfold respondInHeartbeat
  split <;> rename_i h <;> rw [h]
  · simp
  · simp
  · split
    · simp
    · dsimp only
      split <;> simp [reports]
  · split <;> simp [reports]
  · split <;> rename_i outside <;> rw [← not_mem_peers] at outside
    · have other : ∀ server ∉ d.cluster.peers, ¬ (server = id ∧ id ∈ d.cluster.peers) :=
        fun _ absent same => absent (same.1 ▸ same.2)
      simp [other _ outside]
    · rename_i server
      by_cases same : server = id
      · subst same
        simp [not_not.mp outside]
      · simp [same]
  · split <;> simp
  · split <;> simp

/-! ### Ordinary messages -/

/-- A message of a timer of a peer, a heartbeat, or suspicions that are not in the own name. -/
inductive Ordinary (d : Detector) (e : Envelope Signal) : Prop
  | due (k : TimerKey) : e.content = k.signal → k.peer ∈ d.cluster.peers → Ordinary d e
  | heartbeat (id : InstanceId) : e.content = .iAmAlive id → Ordinary d e
  | report (suspects : InstanceSet) : e.content = .suspicions suspects → e.sender ≠ .ok d.me →
      Ordinary d e

namespace Ordinary

theorem congr (h : d.Ordinary e) (cluster : d'.cluster = d.cluster) : d'.Ordinary e := by
  cases h with
  | due k content peer => exact .due k content (cluster ▸ peer)
  | heartbeat id content => exact .heartbeat id content
  | report suspects content other =>
      refine .report suspects content ?_
      rwa [me, cluster]

theorem leftOver (h : d.Ordinary e) : d.leftOver e.content = d.timers := by
  cases h with
  | due k content peer =>
      have member := (mem_peers.mp peer).1
      rw [content]
      cases k with
      | receive p => exact if_pos member
      | send p => rfl
  | heartbeat id content => rw [content]; rfl
  | report suspects content _ => rw [content]; rfl

theorem arms?_eq_send (h : d.Ordinary e) :
    d.arms? e.content = some (.send p) ↔ e.content = .sendHeartbeat p := by
  cases h with
  | due k content due =>
      rw [content]
      cases k with
      | receive q => simp [arms?, TimerKey.signal]
      | send q => simp [arms?, TimerKey.signal, show q ∈ d.cluster.peers from due]
  | heartbeat id content => simp [content, arms?]
  | report suspects content _ => simp [content, arms?]

/-- The own report holds whoever was timed out last and not heard from since. -/
theorem mem_own (h : d.Ordinary e) : x ∈ (d.respondInHeartbeat e).detector.reportOf d.me ↔
    (x ∈ d.reportOf d.me ∨ e.content = .timedOut x) ∧
      ¬(e.content = .iAmAlive x ∧ x ∈ d.cluster.peers) := by
  rw [mem_reportOf_respondInHeartbeat_iff]
  cases h with
  | due k content due =>
      obtain ⟨member, other⟩ := mem_peers.mp due
      rw [content]
      cases k with
      | receive q => simp_all [TimerKey.signal, TimerKey.peer, eq_comm]
      | send q => simp [TimerKey.signal]
  | heartbeat id content =>
      rw [content]
      by_cases same : id = x
      · simp [same]
      · simp [same, Ne.symm same]
  | report suspects content named => simp [content, named]

end Ordinary

end Detector
end Vigil
