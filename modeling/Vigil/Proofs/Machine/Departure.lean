import Vigil.Proofs.Machine.Coverage

/-!
A machine that leaves. Until it joins again it hands nothing on and changes no report; of the timers
that were pending those are left that are not of a peer (`Machine.leaving_ends_participation`).
There are none of these as long as nothing has happened that leaves a timer behind or sets one for
an outsider (`Machine.Untidies`).
-/

namespace Vigil

/-- Whoever takes no part still takes none after it, and no instance is forgotten. -/
def Stimulus.Idle : Stimulus → Prop
  | .handle _ e => e.content ≠ .join
  | .depart _ => False
  | .expire _ | .change _ | .sync => True

/-- The timers that time leaves. -/
def Stimulus.timersLeft (t : HeartbeatTimers) : Stimulus → HeartbeatTimers
  | .expire time => (t.expire time).1
  | _ => t

namespace Detector

variable {d : Detector} {s : Signal}

/-- The signal makes an instance arm a timer that is not of a peer: its own, or an outsider's. -/
def Misleads (d : Detector) (s : Signal) : Prop :=
  s = .timedOut d.me ∧ d.me ∈ d.cluster.members ∨
    ∃ id, s = .resetSendHeartbeat id ∧ id ≠ d.me ∧ id ∉ d.cluster.members

theorem misleads_iff : d.Misleads s ↔ ∃ k, d.arms? s = some k ∧ k.peer ∉ d.cluster.peers := by
  cases s <;> simp [Misleads, arms?, mem_peers, TimerKey.peer]
  all_goals grind

end Detector

namespace Machine

variable {m : Machine} {outlet : Outlet} {e : Envelope Signal} {s : Stimulus}
  {history later : List Stimulus} {a : Armed TimerKey (Envelope Signal)}

/-! ### Tidiness -/

/-- All pending timers are timers of peers. -/
def Tidy (m : Machine) : Prop :=
  ∀ a ∈ m.detector.timers.pending, a.key.peer ∈ m.detector.cluster.peers

/-- What a tidy machine is not tidy after. -/
def Untidies (m : Machine) : Stimulus → Prop
  | .handle _ e => m.phase = .heartbeat ∧ m.detector.Misleads e.content
  | .change (.leave id) => ∃ a ∈ m.detector.timers.pending, a.key.peer = id
  | _ => False

theorem Tidy.of_subset {m' : Machine} (tidy : m.Tidy)
    (peers : m'.detector.cluster.peers = m.detector.cluster.peers)
    (kept : ∀ a ∈ m'.detector.timers.pending, a ∈ m.detector.timers.pending) : m'.Tidy :=
  fun a ha => peers ▸ tidy a (kept a ha)

theorem tidy_handle_iff (outlet : Outlet) (tidy : m.Tidy) :
    (m.handle outlet e).1.Tidy ↔ ¬ m.Untidies (.handle outlet e) := by
  have peers := congrArg Cluster.peers (m.cluster_handle outlet e)
  have checked : m.detector.checkMembers.1.cluster = m.detector.cluster :=
    m.detector.cluster_checkMembers
  have timers : (m.handle outlet e).1.detector.timers = (m.respond e).detector.timers := rfl
  rcases m.respond_cases e with
    ⟨phase, -, respond⟩ | ⟨phase, -, respond⟩ | ⟨phase, respond⟩ <;> rw [respond] at timers
  · refine iff_of_true (tidy.of_subset peers fun a ha => ?_) fun untidies => ?_
    · exact m.detector.timers_checkMembers ▸ timers ▸ ha
    · exact absurd (phase.symm.trans untidies.1) (by decide)
  · refine iff_of_true (fun a ha => ?_) fun untidies => ?_
    · rw [timers] at ha
      rw [peers]
      rcases Detector.mem_pending_armTimers ha with old | ⟨-, peer⟩
      · exact tidy a (m.detector.timers_checkMembers ▸ old)
      · exact checked ▸ peer
    · exact absurd (phase.symm.trans untidies.1) (by decide)
  · -- what is armed is the only timer that can be new
    simp only [Detector.timers_respondInHeartbeat, Detector.arms?_congr checked,
      Detector.timers_checkMembers] at timers
    simp only [Untidies, Detector.misleads_iff, phase, true_and]
    cases arms : m.detector.arms? e.content with
    | none =>
        rw [arms] at timers
        refine iff_of_true (tidy.of_subset peers fun a ha => ?_) (by simp)
        have left := Detector.mem_of_mem_leftOver (timers ▸ ha)
        exact m.detector.timers_checkMembers ▸ left
    | some k =>
        rw [arms, Option.elim_some] at timers
        simp only [Option.some.injEq, exists_eq_left', not_not]
        constructor
        · intro still
          have pending : (m.handle outlet e).1.detector.timers.isPending k = true := by
            simp [timers]
          obtain ⟨a, armed, rfl⟩ := LogicalTimers.isPending_iff.mp pending
          exact peers ▸ still a armed
        · intro peer a ha
          rw [peers]
          rcases LogicalTimers.mem_pending_set (timers ▸ ha) with old | rfl
          · exact tidy a old
          · exact peer

theorem tidy_leave_iff (tidy : m.Tidy) (id : InstanceId) :
    (m.undergo (.change (.leave id))).Tidy ↔ ¬ m.Untidies (.change (.leave id)) := by
  have peers : ∀ x, x ∈ (m.undergo (.change (.leave id))).detector.cluster.peers ↔
      x ∈ m.detector.cluster.peers ∧ x ≠ id := by
    intro x
    have members : (m.undergo (.change (.leave id))).detector.cluster.members =
        m.detector.cluster.members.filter (· != id) := rfl
    have me : (m.undergo (.change (.leave id))).detector.me = m.detector.me := rfl
    rw [Detector.mem_peers, Detector.mem_peers, members, me]
    simp [and_right_comm]
  simp only [Tidy, Untidies, not_exists, not_and]
  refine forall₂_congr fun a ha => ?_
  rw [peers]
  exact and_iff_right (tidy a ha)

/-- Exactly what untidies a tidy machine leaves it untidy. -/
theorem tidy_undergo_iff (tidy : m.Tidy) : (m.undergo s).Tidy ↔ ¬ m.Untidies s := by
  have untouched {m' : Machine} (peers : m'.detector.cluster.peers = m.detector.cluster.peers)
      (kept : ∀ a ∈ m'.detector.timers.pending, a ∈ m.detector.timers.pending) :
      m'.Tidy ↔ ¬ False := iff_of_true (tidy.of_subset peers kept) not_false
  cases s with
  | handle outlet e => exact tidy_handle_iff outlet tidy
  | expire time => exact untouched rfl fun a ha => (List.mem_filter.mp ha).1
  | change c =>
      cases c with
      | join id =>
          refine iff_of_true (fun a ha => ?_) not_false
          obtain ⟨member, other⟩ := Detector.mem_peers.mp (tidy a ha)
          have members : (m.undergo (.change (.join id))).detector.cluster.members =
              (m.detector.cluster.join id).1.members := rfl
          refine Detector.mem_peers.mpr ⟨?_, ?_⟩
          · rw [members, Cluster.members_join]
            split
            · exact member
            · exact List.mem_append_left _ member
          · exact fun same => other (same.trans (Cluster.me_join _ id))
      | leave id => exact tidy_leave_iff tidy id
      | elect _ _ | unelect _ => exact untouched rfl fun _ ha => ha
  | sync =>
      refine untouched (congrArg Cluster.peers m.detector.cluster_syncMembers) fun a ha => ?_
      exact m.detector.timers_syncMembers ▸ ha
  | depart id =>
      refine untouched (congrArg Cluster.peers (m.detector.cluster_depart id)) fun a ha => ?_
      have kept : a ∈ (m.detector.depart id).timers.pending := ha
      rw [Detector.timers_depart] at kept
      exact (List.mem_filter.mp (List.mem_filter.mp kept).1).1

theorem tidy_undergoAll (tidy : m.Tidy)
    (kept : ∀ past s, past ++ [s] <+: history → ¬ (m.undergoAll past).Untidies s) :
    (m.undergoAll history).Tidy := by
  induction history using List.reverseRecOn with
  | nil => exact tidy
  | append_singleton past s ih =>
      rw [undergoAll_append]
      refine (tidy_undergo_iff (ih fun before s' hp => ?_)).mpr (kept past s (List.prefix_refl _))
      exact kept before s' (hp.trans (List.prefix_append past [s]))

/-! ### Taking no part -/

/-- Leaving hands nothing on and changes no report; timers that are not of a peer stay pending. -/
structure Leaves (m l : Machine) : Prop where
  phase : l.phase = .start
  reports : l.detector.reports = m.detector.reports
  now : l.detector.timers.now = m.detector.timers.now
  pending : ∀ a, a ∈ l.detector.timers.pending ↔
    a ∈ m.detector.timers.pending ∧ a.key.peer ∉ m.detector.cluster.peers

theorem leaves_handle (outlet : Outlet) (phase : m.phase = .heartbeat)
    (leave : e.content = .leave) :
    m.handedOn (.handle outlet e) = [] ∧ m.Leaves (m.handle outlet e).1 := by
  have respond : m.respond e = ⟨.start, m.detector.checkMembers.1.disarmTimers, [], []⟩ := by
    simp only [Machine.respond, phase, Detector.respondInHeartbeat, leave]
  have handed : m.handedOn (.handle outlet e) =
      hand outlet m.me m.sentCount (m.respond e).letters := rfl
  have machine : (m.handle outlet e).1.phase = (m.respond e).phase ∧
      (m.handle outlet e).1.detector.reports = (m.respond e).detector.reports ∧
      (m.handle outlet e).1.detector.timers = (m.respond e).detector.timers := ⟨rfl, rfl, rfl⟩
  obtain ⟨phase', reports, timers⟩ := machine
  rw [respond] at phase' reports timers
  rw [handed, respond]
  refine ⟨rfl, phase', ?_, ?_, fun a => ?_⟩
  · rw [reports, m.detector.checkMembers.1.sameButTimers_disarmTimers.reports_eq,
      Detector.reports_checkMembers]
  · rw [timers, (Detector.clock_disarmTimers _).1, Detector.timers_checkMembers]
  · rw [timers, Detector.mem_pending_disarmTimers, Detector.timers_checkMembers,
      Detector.cluster_checkMembers]

/-- Whoever takes no part stays out of it, and only time takes timers from it. -/
structure Idles (m : Machine) (s : Stimulus) : Prop where
  phase : (m.undergo s).phase = .start
  handed : m.handedOn s = []
  reports : (m.undergo s).detector.reports = m.detector.reports
  timers : (m.undergo s).detector.timers = s.timersLeft m.detector.timers

theorem idles_undergo (phase : m.phase = .start) (idle : s.Idle) : m.Idles s := by
  cases s with
  | handle outlet e =>
      have respond : m.respond e = ⟨.start, m.detector.checkMembers.1, [], []⟩ := by
        simp only [respond, phase, Detector.respondAtStart_of_ne_join idle]
      refine ⟨?_, ?_, ?_, ?_⟩
      · change (m.respond e).phase = .start
        rw [respond]
      · change hand outlet m.me m.sentCount (m.respond e).letters = []
        rw [respond]
        rfl
      · change (m.respond e).detector.reports = m.detector.reports
        rw [respond, Detector.reports_checkMembers]
      · change (m.respond e).detector.timers = m.detector.timers
        rw [respond, Detector.timers_checkMembers]
  | expire time | change c => exact ⟨phase, rfl, rfl, rfl⟩
  | sync =>
      exact ⟨phase, rfl, m.detector.reports_syncMembers, m.detector.timers_syncMembers⟩
  | depart id => exact idle.elim

/-- A machine that takes no part, later: of `m` it has the reports, and what timers have not
expired. -/
structure Rests (m : Machine) (later : List Stimulus) (m' : Machine) : Prop where
  phase : m'.phase = .start
  reports : m'.detector.reports = m.detector.reports
  pending : ∀ a, a ∈ m'.detector.timers.pending ↔ a ∈ m.detector.timers.pending ∧
    ∀ time, .expire time ∈ later → max m.detector.timers.now time < a.deadline

theorem rests_undergoAll (phase : m.phase = .start) (idle : ∀ s ∈ later, s.Idle) :
    m.handedAll later = [] ∧ m.Rests later (m.undergoAll later) := by
  induction later generalizing m with
  | nil => exact ⟨rfl, phase, rfl, fun a => by simp [undergoAll]⟩
  | cons s later ih =>
      rw [List.forall_mem_cons] at idle
      have first := idles_undergo phase idle.1
      obtain ⟨silent, rest⟩ := ih first.phase idle.2
      refine ⟨?_, rest.phase, rest.reports.trans first.reports, fun a => ?_⟩
      · rw [handedAll, first.handed, silent, List.append_nil]
      · change a ∈ ((m.undergo s).undergoAll later).detector.timers.pending ↔ _
        rw [rest.pending, first.timers]
        cases s with
        | expire time =>
            have taken : a ∈ (m.detector.timers.expire time).1.pending ↔
                a ∈ m.detector.timers.pending ∧ max m.detector.timers.now time < a.deadline := by
              simp [LogicalTimers.expire]
            have now : (m.detector.timers.expire time).1.now = max m.detector.timers.now time := rfl
            simp only [Stimulus.timersLeft, taken, now, List.mem_cons, Stimulus.expire.injEq,
              forall_eq_or_imp, and_assoc]
            refine and_congr_right fun _ => and_congr_right fun late => ?_
            exact forall₂_congr fun time' _ => by omega
        | handle _ _ | change _ | sync | depart _ => simp [Stimulus.timersLeft]

/-- Once a machine has left it hands nothing on and changes no report until it joins again, and
whatever is pending is not of a peer and was pending before it left. Where nothing has untidied the
machine so far, nothing is pending. -/
theorem leaving_ends_participation (cluster : Cluster) (delay : Delay) (history : List Stimulus)
    (outlet : Outlet) {e : Envelope Signal} (leave : e.content = .leave) {later : List Stimulus}
    (idle : ∀ s ∈ later, s.Idle) :
    let run := (fresh cluster (.start delay)).undergoAll
    let m := run history
    let n := (m.undergo (.handle outlet e)).undergoAll later
    m.phase = .heartbeat →
      n.phase = .start ∧ m.handedAll (.handle outlet e :: later) = [] ∧
        n.detector.reports = m.detector.reports ∧
        (∀ a, a ∈ n.detector.timers.pending ↔
          a ∈ m.detector.timers.pending ∧ a.key.peer ∉ m.detector.cluster.peers ∧
            ∀ time, .expire time ∈ later → max m.detector.timers.now time < a.deadline) ∧
        ((∀ past s, past ++ [s] <+: history → ¬ (run past).Untidies s) →
          n.detector.timers.pending = []) := by
  intro run m n phase
  obtain ⟨silent, left⟩ := leaves_handle outlet phase leave
  obtain ⟨idles, rests⟩ := rests_undergoAll left.phase idle
  have pending (a : Armed TimerKey (Envelope Signal)) : a ∈ n.detector.timers.pending ↔
      a ∈ m.detector.timers.pending ∧ a.key.peer ∉ m.detector.cluster.peers ∧
        ∀ time, .expire time ∈ later → max m.detector.timers.now time < a.deadline := by
    refine (rests.pending a).trans ?_
    rw [left.pending, left.now, and_assoc]
  refine ⟨rests.phase, ?_, rests.reports.trans left.reports, pending, fun orderly => ?_⟩
  · rw [handedAll, silent]
    exact idles
  · have tidy : m.Tidy := tidy_undergoAll (fun a ha => absurd ha List.not_mem_nil) orderly
    refine List.eq_nil_iff_forall_not_mem.mpr fun a ha => ?_
    obtain ⟨before, outsider, -⟩ := (pending a).mp ha
    exact outsider (tidy a before)

def oneTick : List Stimulus := [.handle .taking (.internal .join), .expire 1000]

/-- What comes to it after it has left: messages of its timers, a peer and a new member. -/
def afterwards : List Stimulus :=
  [.handle .taking (.internal (.sendHeartbeat 2)), .handle .taking (.internal (.iAmAlive 3)),
    .change (.join 4), .sync, .expire 9000, .handle .taking (.internal (.timedOut 3))]

theorem nothing_pending_afterwards :
    let run := (fresh (.ofMembers 1 [1, 2, 3])
      (.start (HeartbeatTiming.ofMillis 1000 3000).delay)).undergoAll
    let n := ((run oneTick).undergo (.handle .taking (.internal .leave))).undergoAll afterwards
    (run oneTick).handedAll (.handle .taking (.internal .leave) :: afterwards) = [] ∧
      n.detector.timers.pending = [] := by
  intro run n
  have idle : ∀ s ∈ afterwards, s.Idle := by
    simp [afterwards, Stimulus.Idle, Envelope.internal]
  have phase : (run oneTick).phase = .heartbeat := by decide +kernel
  have orderly : ∀ past s, past ++ [s] <+: oneTick → ¬ (run past).Untidies s := by
    rintro (_ | ⟨first, _ | ⟨second, past⟩⟩) s hp
    · obtain ⟨rfl, -⟩ := List.cons_prefix_cons.mp hp
      exact fun untidies => absurd untidies.1 (by decide)
    · obtain ⟨-, hp⟩ := List.cons_prefix_cons.mp hp
      obtain ⟨rfl, -⟩ := List.cons_prefix_cons.mp hp
      exact not_false
    · have short := hp.length_le
      simp [oneTick] at short
  have left := leaving_ends_participation (.ofMembers 1 [1, 2, 3])
    (HeartbeatTiming.ofMillis 1000 3000).delay oneTick .taking (e := .internal .leave) rfl idle
    phase
  -- with the names written out, the two runs agree as they stand and neither is evaluated
  dsimp only [run, n]
  exact ⟨left.2.1, left.2.2.2.2 orderly⟩

def deserted : List Stimulus := [.handle .taking (.internal .join), .change (.leave 3)]

/-- The third instance has left the cluster, and nobody has told the machine that it is gone for
good. -/
theorem timers_of_third_outlive_leave :
    let m := (fresh (.ofMembers 1 [1, 2, 3])
      (.start (HeartbeatTiming.ofMillis 1000 3000).delay)).undergoAll deserted
    m.phase = .heartbeat ∧
      ¬ (m.undergo (.handle .taking (.internal .leave))).detector.timers.pending = [] := by
  decide +kernel

end Machine
end Vigil
