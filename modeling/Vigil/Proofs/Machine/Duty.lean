import Vigil.Proofs.Machine.Announcements
import Vigil.Proofs.Machine.Departure

/-!
A machine on duty: it exchanges heartbeats in a cluster that does not change. Of the messages that
come to it then, those of its own timers, heartbeats and the suspicions of others
(`Detector.Ordinary`) keep it on duty, and for each peer it is known what they do to the own report,
to the deadlines and to the count of heartbeats, for one message and, by induction on them, for many.
On a tick these are the messages of the timers whose deadline has come.
-/

namespace Vigil

namespace LogicalTimers

variable {κ μ : Type} [DecidableEq κ] {t : LogicalTimers κ μ} {k : κ} {time : Nat}

/-- The deadline of a timer has come by `time`. -/
def DueBy (t : LogicalTimers κ μ) (k : κ) (time : Nat) : Prop :=
  ∃ d, t.deadline? k = some d ∧ d ≤ time

instance (t : LogicalTimers κ μ) (k : κ) (time : Nat) : Decidable (t.DueBy k time) :=
  match h : t.deadline? k with
  | none => isFalse fun ⟨_, hd, _⟩ => by simp [h] at hd
  | some d => decidable_of_iff (d ≤ time) (by simp [DueBy, h])

theorem dueBy_iff_of_deadline? {d : Nat} (h : t.deadline? k = some d) :
    t.DueBy k time ↔ d ≤ time := by
  simp [DueBy, h]

theorem Distinct.deadline?_expire_of_not_dueBy (h : t.Distinct)
    (later : ¬ t.DueBy k (max t.now time)) : (t.expire time).1.deadline? k = t.deadline? k := by
  rw [h.deadline?_expire]
  cases found : t.deadline? k with
  | none => rfl
  | some d =>
      rw [dueBy_iff_of_deadline? found] at later
      exact Option.filter_some_pos (by rw [decide_eq_false later]; rfl)

theorem Distinct.dueBy_iff (h : t.Distinct) :
    t.DueBy k (max t.now time) ↔ k ∈ (t.expire time).2.map Armed.key := by
  simp only [DueBy, deadline?, Option.map_eq_some_iff, List.mem_map, mem_expired]
  constructor
  · rintro ⟨_, ⟨a, found, rfl⟩, late⟩
    exact ⟨a, ⟨mem_of_find? found, late⟩, find?_key found⟩
  · rintro ⟨a, ⟨pending, late⟩, rfl⟩
    exact ⟨a.deadline, ⟨a, h.find?_eq_some pending, rfl⟩, late⟩

omit [DecidableEq κ] in
theorem Distinct.nodup_expired (h : t.Distinct) (time : Nat) :
    ((t.expire time).2.map Armed.key).Nodup := by
  refine ((orderBy_perm _ _).map Armed.key).nodup_iff.mpr ?_
  exact h.sublist (List.filter_sublist.map Armed.key)

end LogicalTimers

namespace Detector

variable {d : Detector} {e : Envelope Signal} {k : TimerKey} {p : InstanceId} {s : Signal}

theorem Ordinary.not_misleads (h : d.Ordinary e) : ¬ d.Misleads e.content := by
  rw [Misleads]
  cases h with
  | due k content peer =>
      have other := (mem_peers.mp peer).2
      rw [content]
      cases k <;> simp_all [TimerKey.signal, TimerKey.peer]
  | heartbeat id content => simp [content]
  | report suspects content _ => simp [content]

end Detector

namespace Machine

/-- The machine exchanges heartbeats and knows its members; its timers are those of `timing`, one at
most for a key, each with the signal of its key and each of a peer. -/
structure OnDuty (timing : HeartbeatTiming) (m : Machine) : Prop where
  phase : m.phase = .heartbeat
  known : m.detector.known = m.detector.cluster.members
  delay : m.detector.timers.delay = timing.delay
  distinct : m.detector.timers.Distinct
  apt : m.detector.Apt
  tidy : m.Tidy

variable {timing : HeartbeatTiming} {m : Machine} {outlet : Outlet} {e : Envelope Signal}
  {es : List (Envelope Signal)} {k : TimerKey} {p : InstanceId} {time : Nat}

def isBeat (m : Machine) (p : InstanceId) (h : Handed) : Bool :=
  h.envelope.isFor p && decide (h.envelope.content = .iAmAlive m.me)

/-! ### One message -/

theorem countP_isBeat_hand (count : Nat) (letters : List Letter) :
    (hand outlet m.me count letters).countP (m.isBeat p) =
      letters.countP fun l => decide (l = ⟨p, .iAmAlive m.me⟩) := by
  induction letters generalizing count with
  | nil => rfl
  | cons l letters ih =>
      have same : m.isBeat p ⟨l.seal m.me (count + 1), outlet (count + 1)⟩ =
          decide (l = ⟨p, .iAmAlive m.me⟩) := by
        obtain ⟨recipient, signal⟩ := l
        rw [isBeat, Letter.isFor_seal, Letter.content_seal, ← Bool.decide_and]
        simp only [Letter.mk.injEq]
      rw [hand, List.countP_cons, List.countP_cons, ih, same]

namespace OnDuty

variable (duty : m.OnDuty timing)
include duty

theorem respond : m.respond e = m.detector.respondInHeartbeat e := by
  have known : m.detector.checkMembers.1 = m.detector := by
    simp [Detector.checkMembers, duty.known]
  simp only [Machine.respond, duty.phase, known]

theorem expire (time : Nat) : (m.expire time).1.OnDuty timing where
  phase := duty.phase
  known := duty.known
  delay := duty.delay
  distinct := duty.distinct.expire time
  apt := Detector.apt_of_sublist duty.apt List.filter_sublist
  tidy := duty.tidy.of_subset rfl fun _ ha => (List.mem_filter.mp ha).1

theorem beats_handle (outlet : Outlet) (peer : p ∈ m.detector.cluster.peers) :
    (m.handle outlet e).2.handed.countP (m.isBeat p) =
      if e.content = .sendHeartbeat p then 1 else 0 := by
  have handed : (m.handle outlet e).2.handed =
      hand outlet m.me m.sentCount (m.respond e).letters := rfl
  rw [handed, countP_isBeat_hand, duty.respond]
  refine Detector.heartbeats_respondInHeartbeat.trans ?_
  simp [peer]

theorem signal_due (h : e ∈ (m.expire time).2) :
    ∃ k : TimerKey, e.content = k.signal ∧ k.peer ∈ m.detector.cluster.peers := by
  obtain ⟨a, ha, rfl⟩ := List.mem_map.mp h
  have pending := (LogicalTimers.mem_expired.mp ha).1
  exact ⟨a.key, duty.apt a pending, duty.tidy a pending⟩

theorem ordinary_due (h : e ∈ (m.expire time).2) : m.detector.Ordinary e := by
  obtain ⟨k, content, peer⟩ := duty.signal_due h
  exact .due k content peer

variable (ordinary : m.detector.Ordinary e)
include ordinary

theorem timers_handle (outlet : Outlet) :
    (m.handle outlet e).1.detector.timers =
      (m.detector.arms? e.content).elim m.detector.timers fun k =>
        m.detector.timers.set k (.timeout k.signal e) := by
  change (m.respond e).detector.timers = _
  rw [duty.respond, Detector.timers_respondInHeartbeat, ordinary.leftOver]

theorem now_handle (outlet : Outlet) :
    (m.handle outlet e).1.detector.timers.now = m.detector.timers.now := by
  rw [duty.timers_handle ordinary]
  cases m.detector.arms? e.content <;> rfl

theorem handle (outlet : Outlet) : (m.handle outlet e).1.OnDuty timing where
  phase := by
    change (m.respond e).phase = .heartbeat
    rw [duty.respond]
    cases h : (m.detector.respondInHeartbeat e).phase with
    | heartbeat => rfl
    | start =>
        have leave := Detector.phase_eq_start_iff.mp h
        cases ordinary with
        | due k content _ => cases k <;> simp [content, TimerKey.signal] at leave
        | heartbeat _ content | report _ content _ => simp [content] at leave
  known := by rw [m.known_handle, m.cluster_handle]
  delay := by
    rw [duty.timers_handle ordinary, ← duty.delay]
    cases m.detector.arms? e.content <;> rfl
  distinct := by
    rw [duty.timers_handle ordinary]
    cases m.detector.arms? e.content with
    | none => exact duty.distinct
    | some k => exact duty.distinct.set k _
  apt := apt_handle outlet duty.apt
  tidy := (tidy_handle_iff outlet duty.tidy).mpr fun untidies => ordinary.not_misleads untidies.2

theorem mem_own_handle (outlet : Outlet) (peer : p ∈ m.detector.cluster.peers) :
    p ∈ (m.handle outlet e).1.detector.reportOf m.me ↔
      (p ∈ m.detector.reportOf m.me ∨ e.content = .timedOut p) ∧ e.content ≠ .iAmAlive p := by
  change p ∈ (m.respond e).detector.reportOf m.detector.me ↔ _
  have own := ordinary.mem_own (x := p)
  rw [and_iff_left peer] at own
  rw [duty.respond]
  exact own

theorem deadline?_handle (outlet : Outlet) :
    (m.handle outlet e).1.detector.timers.deadline? k =
      if m.detector.arms? e.content = some k then
        some (LogicalTimers.deadlineAfter m.detector.timers.now (timing.wait k))
      else m.detector.timers.deadline? k := by
  rw [duty.timers_handle ordinary]
  cases arms : m.detector.arms? e.content with
  | none => simp
  | some l =>
      have wait : timing.delay.of (Envelope.timeout l.signal e) = timing.wait l :=
        timing.delay_of (Envelope.content_timeout _ _)
      rw [Option.elim_some, LogicalTimers.deadline?_set, duty.delay, wait]
      by_cases same : k = l
      · simp [same]
      · simp [same, Ne.symm same]

end OnDuty

/-! ### Many messages -/

/-- What ordinary messages leave of a machine on duty, and what they make it hand on. -/
structure WorksOff (timing : HeartbeatTiming) (p : InstanceId) (m : Machine)
    (es : List (Envelope Signal)) (m' : Machine) (handed : List Handed) : Prop where
  duty : m'.OnDuty timing
  cluster : m'.detector.cluster = m.detector.cluster
  now : m'.detector.timers.now = m.detector.timers.now
  deadline : ∀ k, m'.detector.timers.deadline? k =
    if ∃ e ∈ es, m.detector.arms? e.content = some k then
      some (LogicalTimers.deadlineAfter m.detector.timers.now (timing.wait k))
    else m.detector.timers.deadline? k
  own : (∀ e ∈ es, e.content ≠ .iAmAlive p) →
    (p ∈ m'.detector.reportOf m.me ↔
      p ∈ m.detector.reportOf m.me ∨ ∃ e ∈ es, e.content = .timedOut p)
  beats : handed.countP (m.isBeat p) = es.countP fun e => decide (e.content = .sendHeartbeat p)

theorem OnDuty.worksOff (duty : m.OnDuty timing) (peer : p ∈ m.detector.cluster.peers)
    (outlet : Outlet) (ordinary : ∀ e ∈ es, m.detector.Ordinary e) :
    m.WorksOff timing p es (m.undergoAll (inTurn outlet es)) (m.handedAll (inTurn outlet es)) := by
  induction es generalizing m with
  | nil => exact ⟨duty, rfl, rfl, fun k => by simp [undergoAll, inTurn],
      by simp [undergoAll, inTurn], rfl⟩
  | cons e es ih =>
      rw [List.forall_mem_cons] at ordinary
      obtain ⟨first, rest⟩ := ordinary
      have cluster := m.cluster_handle outlet e
      have me : (m.handle outlet e).1.me = m.me := congrArg Cluster.me cluster
      have later := ih (duty.handle first outlet) (cluster ▸ peer) fun e' he' =>
        (rest e' he').congr cluster
      refine ⟨later.duty, later.cluster.trans cluster,
        later.now.trans (duty.now_handle first outlet), fun k => ?_, fun unheard => ?_, ?_⟩
      · -- a timer that is armed twice has the same deadline, since no time passes
        have arms (s : Signal) := Detector.arms?_congr (s := s) cluster
        refine (later.deadline k).trans ?_
        simp only [arms, duty.now_handle first, duty.deadline?_handle first]
        by_cases rearmed : ∃ e' ∈ es, m.detector.arms? e'.content = some k
        · simp [rearmed]
        · simp [rearmed]
      · rw [List.forall_mem_cons] at unheard
        have own := later.own unheard.2
        rw [me] at own
        refine own.trans ?_
        rw [duty.mem_own_handle first outlet peer, and_iff_left unheard.1, or_assoc,
          List.exists_mem_cons_iff]
      · have rest := later.beats
        have same : (m.handle outlet e).1.isBeat p = m.isBeat p := by
          unfold isBeat
          rw [me]
        rw [same] at rest
        rw [inTurn, List.map_cons, handedAll, List.countP_append, List.countP_cons]
        refine (congrArg₂ (· + ·) (duty.beats_handle outlet peer) rest).trans ?_
        rw [Nat.add_comm]
        simp

/-! ### A tick -/

/-- A tick brings the message of a timer whose deadline has come, and brings it once. -/
theorem OnDuty.countP_due (duty : m.OnDuty timing) (k : TimerKey) (time : Nat) :
    (m.expire time).2.countP (fun e => decide (e.content = k.signal)) =
      if m.detector.timers.DueBy k (max m.detector.timers.now time) then 1 else 0 := by
  have named : ∀ a ∈ (m.detector.timers.expire time).2,
      decide (a.message.content = k.signal) = true ↔ (a.key == k) = true := fun a ha => by
    rw [duty.apt a (LogicalTimers.mem_expired.mp ha).1, decide_eq_true_eq, TimerKey.signal_inj,
      beq_iff_eq]
  have keys : (m.expire time).2.countP (fun e => decide (e.content = k.signal)) =
      ((m.detector.timers.expire time).2.map Armed.key).count k := by
    rw [List.count, List.countP_map, Machine.expire, List.countP_map]
    exact List.countP_congr named
  rw [keys, (duty.distinct.nodup_expired time).count]
  simp only [duty.distinct.dueBy_iff]

theorem OnDuty.due_iff (duty : m.OnDuty timing) (k : TimerKey) (time : Nat) :
    (∃ e ∈ (m.expire time).2, e.content = k.signal) ↔
      m.detector.timers.DueBy k (max m.detector.timers.now time) := by
  have found : (∃ e ∈ (m.expire time).2, e.content = k.signal) ↔
      0 < (m.expire time).2.countP fun e => decide (e.content = k.signal) := by
    simp [List.countP_pos_iff]
  rw [found, duty.countP_due]
  split <;> simp [*]

/-- A timer that runs out is armed again. -/
theorem OnDuty.arms_due_iff (duty : m.OnDuty timing) (k : TimerKey) (time : Nat) :
    (∃ e ∈ (m.expire time).2, (m.expire time).1.detector.arms? e.content = some k) ↔
      m.detector.timers.DueBy k (max m.detector.timers.now time) := by
  rw [← duty.due_iff]
  refine exists_congr fun e => and_congr_right fun he => ?_
  obtain ⟨l, content, peer⟩ := duty.signal_due he
  have arms : (m.expire time).1.detector.arms? l.signal = some l := Detector.arms?_signal peer
  rw [content, arms, Option.some.injEq, TimerKey.signal_inj]

end Machine
end Vigil
