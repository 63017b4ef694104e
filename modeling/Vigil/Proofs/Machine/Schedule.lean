import Mathlib.Data.List.DropRight
import Vigil.Proofs.Machine.Duty

/-!
A machine keeps its schedule. It joins, and after that its clock is set, heartbeats come, and others
report what they suspect. At every moment it suspects a peer exactly if some tick since it last
heard from the peer has come to the timeout (`Machine.Overdue`), and on a tick it sends the peer a
heartbeat exactly if the interval since the last one is over. `Machine.OnTime` is what holds of the
timers of the peer between two moments.
-/

namespace Vigil

inductive Moment where
  | tick (time : Nat)
  | message (e : Envelope Signal)

namespace Moment

def hears (p : InstanceId) : Moment → Bool
  | tick _ => false
  | message e => decide (e.content = .iAmAlive p)

/-- The time afterwards. The clock does not go back. -/
def clock (now : Nat) : Moment → Nat
  | tick time => max now time
  | message _ => now

/-- A tick after which the time is `limit` or later. -/
def reaches (now limit : Nat) : Moment → Bool
  | tick time => decide (limit ≤ max now time)
  | message _ => false

/-- Messages are heartbeats of anybody, or suspicions that do not come in the name of `me`. -/
def Proper (me : InstanceId) : Moment → Prop
  | tick _ => True
  | message e =>
    (∃ id, e.content = .iAmAlive id) ∨ (∃ suspects, e.content = .suspicions suspects) ∧
      e.sender ≠ .ok me

/-- On a tick the messages of the timers that expire are handled one after the other. -/
def stimuli (outlet : Outlet) (m : Machine) : Moment → List Stimulus
  | tick time => .expire time :: Machine.inTurn outlet (m.expire time).2
  | message e => [.handle outlet e]

end Moment

namespace Machine

open LogicalTimers (lastInstant deadlineAfter_ofMillis)

/-! ### The schedule -/

def timeAfter (start : Nat) (moments : List Moment) : Nat := moments.foldl Moment.clock start

/-- When `p` was heard from last, or else the start. -/
def heardAt (p : InstanceId) (start : Nat) (moments : List Moment) : Nat :=
  timeAfter start (moments.rdropWhile fun x => !x.hears p)

/-- Since `p` was heard from last, a tick has come to its timeout. -/
def Overdue (timeout : Nat) (p : InstanceId) (start : Nat) (moments : List Moment) : Prop :=
  ∃ before x after, moments = before ++ x :: after ∧
    x.reaches (timeAfter start before) (heardAt p start before + timeout) = true ∧
      ∀ y ∈ after, y.hears p = false

def live (outlet : Outlet) (m : Machine) (x : Moment) : Machine := m.undergoAll (x.stimuli outlet m)

def liveAll (outlet : Outlet) (m : Machine) (moments : List Moment) : Machine :=
  moments.foldl (live outlet) m

/-- How many heartbeats the machine hands on for `p` at a moment. -/
def beats (outlet : Outlet) (p : InstanceId) (m : Machine) (x : Moment) : Nat :=
  (m.handedAll (x.stimuli outlet m)).countP (m.isBeat p)

/-- When a heartbeat for `p` was handed on last, or else `since`. -/
def sentAt (outlet : Outlet) (p : InstanceId) (m : Machine) (now since : Nat) : List Moment → Nat
  | [] => since
  | x :: xs =>
    sentAt outlet p (m.live outlet x) (x.clock now)
      (if m.beats outlet p x = 0 then since else x.clock now) xs

variable {interval timeout start now heard sent time : Nat} {me p : InstanceId} {m : Machine}
  {outlet : Outlet} {x : Moment} {xs : List Moment} {e : Envelope Signal} {overdue : Prop}

theorem timeAfter_concat : timeAfter start (xs ++ [x]) = x.clock (timeAfter start xs) := by
  simp [timeAfter]

theorem liveAll_concat : m.liveAll outlet (xs ++ [x]) = (m.liveAll outlet xs).live outlet x := by
  simp [liveAll]

theorem heardAt_concat :
    heardAt p start (xs ++ [x]) = if x.hears p then timeAfter start xs else heardAt p start xs := by
  unfold heardAt
  cases x with
  | tick time => simp [Moment.hears]
  | message e =>
      by_cases h : e.content = .iAmAlive p
      · simp [Moment.hears, h, timeAfter_concat, Moment.clock]
      · simp [Moment.hears, h]

theorem overdue_concat : Overdue timeout p start (xs ++ [x]) ↔
    x.reaches (timeAfter start xs) (heardAt p start xs + timeout) = true ∨
      x.hears p = false ∧ Overdue timeout p start xs := by
  constructor
  · rintro ⟨before, y, after, split, reached, unheard⟩
    -- the tick in question is the last moment, or one before it
    rcases List.eq_nil_or_concat after with rfl | ⟨after, z, rfl⟩
    · obtain ⟨rfl, ends⟩ := List.append_inj' split rfl
      cases ends
      exact .inl reached
    · have longer : xs ++ [x] = (before ++ y :: after) ++ [z] := by simpa using split
      obtain ⟨rfl, ends⟩ := List.append_inj' longer rfl
      cases ends
      rw [List.concat_eq_append, List.forall_mem_append, List.forall_mem_singleton] at unheard
      exact .inr ⟨unheard.2, before, y, after, rfl, reached, unheard.1⟩
  · rintro (reached | ⟨unheard, before, y, after, rfl, reached, rest⟩)
    · exact ⟨xs, x, [], rfl, reached, by simp⟩
    · refine ⟨before, y, after ++ [x], by simp, reached, ?_⟩
      exact List.forall_mem_append.mpr ⟨rest, List.forall_mem_singleton.mpr unheard⟩

theorem sentAt_concat : m.sentAt outlet p now sent (xs ++ [x]) =
    if (m.liveAll outlet xs).beats outlet p x = 0 then m.sentAt outlet p now sent xs
    else x.clock (timeAfter now xs) := by
  induction xs generalizing m now sent with
  | nil => rfl
  | cons y xs ih => exact ih

theorem timeAfter_add_le {wait limit : Nat} (first : start + wait ≤ limit)
    (ticks : ∀ time, .tick time ∈ xs → time + wait ≤ limit) :
    timeAfter start xs + wait ≤ limit := by
  induction xs generalizing start with
  | nil => exact first
  | cons y xs ih =>
      refine ih ?_ fun time h => ticks time (List.mem_cons_of_mem y h)
      cases y with
      | tick time =>
          have here := ticks time List.mem_cons_self
          simp only [Moment.clock]
          omega
      | message e => exact first

/-! ### A peer between two moments -/

/-- What holds of a peer that was heard from last at `heard` and was sent a heartbeat last at
`sent`. -/
structure OnTime (interval timeout : Nat) (me p : InstanceId) (m : Machine) (now heard sent : Nat)
    (overdue : Prop) : Prop where
  duty : m.OnDuty (.ofMillis interval timeout)
  me_eq : m.me = me
  peer : p ∈ m.detector.cluster.peers
  now_eq : m.detector.timers.now = now
  own : p ∈ m.detector.reportOf me ↔ overdue
  receive : ¬ overdue → m.detector.timers.deadline? (.receive p) = some (heard + timeout)
  send : m.detector.timers.deadline? (.send p) = some (sent + interval)

namespace OnTime

variable (h : OnTime interval timeout me p m now heard sent overdue)
include h

theorem send_dueBy : m.detector.timers.DueBy (.send p) time ↔ sent + interval ≤ time :=
  LogicalTimers.dueBy_iff_of_deadline? h.send

theorem overdue_or_dueBy : overdue ∨ m.detector.timers.DueBy (.receive p) time ↔
    overdue ∨ heard + timeout ≤ time := by
  by_cases late : overdue
  · exact iff_of_true (.inl late) (.inl late)
  · rw [LogicalTimers.dueBy_iff_of_deadline? (h.receive late)]

theorem worksOff_due (outlet : Outlet) (time : Nat) :
    (m.expire time).1.WorksOff (.ofMillis interval timeout) p (m.expire time).2
      (m.live outlet (.tick time)) (m.handedAll (Moment.stimuli outlet m (.tick time))) :=
  (h.duty.expire time).worksOff h.peer outlet fun _ he => (h.duty.ordinary_due he).congr rfl

theorem beats_tick (outlet : Outlet) (time : Nat) :
    m.beats outlet p (.tick time) = if sent + interval ≤ max now time then 1 else 0 := by
  have beats : m.beats outlet p (.tick time) = _ := (h.worksOff_due outlet time).beats
  have due := h.duty.countP_due (.send p) time
  rw [h.now_eq] at due
  rw [beats, ← if_congr h.send_dueBy rfl rfl, ← due]
  rfl

theorem beats_message (outlet : Outlet) (proper : (Moment.message e).Proper me) :
    m.beats outlet p (.message e) = 0 := by
  have handed : m.beats outlet p (.message e) =
      (m.handle outlet e).2.handed.countP (m.isBeat p) := by
    simp [beats, Moment.stimuli, handedAll, handedOn]
  rw [handed, h.duty.beats_handle outlet h.peer, if_neg]
  rcases proper with ⟨id, content⟩ | ⟨⟨suspects, content⟩, -⟩ <;> simp [content]

theorem tick (outlet : Outlet) (time : Nat)
    (early : max now time + interval ≤ lastInstant ∧ max now time + timeout ≤ lastInstant) :
    OnTime interval timeout me p (m.live outlet (.tick time)) (max now time) heard
      (if sent + interval ≤ max now time then max now time else sent)
      (overdue ∨ heard + timeout ≤ max now time) := by
  have works := h.worksOff_due outlet time
  have clock : (m.expire time).1.detector.timers.now = max now time := by
    rw [← h.now_eq]
    rfl
  have deadline (k : TimerKey) : (m.live outlet (.tick time)).detector.timers.deadline? k =
      if m.detector.timers.DueBy k (max now time) then
        some (LogicalTimers.deadlineAfter (max now time)
          ((HeartbeatTiming.ofMillis interval timeout).wait k))
      else m.detector.timers.deadline? k := by
    rw [works.deadline, clock, ← h.now_eq]
    by_cases due : m.detector.timers.DueBy k (max m.detector.timers.now time)
    · rw [if_pos due, if_pos ((h.duty.arms_due_iff k time).mpr due)]
    · rw [if_neg due, if_neg fun armed => due ((h.duty.arms_due_iff k time).mp armed)]
      exact h.duty.distinct.deadline?_expire_of_not_dueBy due
  have unheard : ∀ e ∈ (m.expire time).2, e.content ≠ .iAmAlive p := fun e he => by
    obtain ⟨k, content, -⟩ := h.duty.signal_due he
    cases k <;> simp [content, TimerKey.signal]
  have same : (m.live outlet (.tick time)).me = m.me := congrArg Cluster.me works.cluster
  refine ⟨works.duty, same.trans h.me_eq, ?_, works.now.trans clock, ?_, fun punctual => ?_, ?_⟩
  · rw [works.cluster]
    exact h.peer
  · have own := works.own unheard
    have timedOut : (∃ e ∈ (m.expire time).2, e.content = .timedOut p) ↔
        m.detector.timers.DueBy (.receive p) (max now time) := by
      rw [← h.now_eq]
      exact h.duty.due_iff (.receive p) time
    rw [show (m.expire time).1.me = me from h.me_eq] at own
    refine own.trans ?_
    rw [timedOut, ← h.overdue_or_dueBy]
    exact or_congr_left h.own
  · obtain ⟨unsuspected, later⟩ := not_or.mp punctual
    have found := h.receive unsuspected
    rw [deadline, if_neg ((LogicalTimers.dueBy_iff_of_deadline? found).not.mpr later), found]
  · rw [deadline, h.send]
    by_cases due : sent + interval ≤ max now time
    · rw [if_pos (h.send_dueBy.mpr due), if_pos due]
      exact congrArg some (deadlineAfter_ofMillis early.1)
    · rw [if_neg (h.send_dueBy.not.mpr due), if_neg due]

theorem message (outlet : Outlet) (proper : (Moment.message e).Proper me)
    (early : now + timeout ≤ lastInstant) :
    OnTime interval timeout me p (m.live outlet (.message e)) now
      (if (Moment.message e).hears p then now else heard) sent
      ((Moment.message e).hears p = false ∧ overdue) := by
  have ordinary : m.detector.Ordinary e := by
    rcases proper with ⟨id, content⟩ | ⟨⟨suspects, content⟩, other⟩
    · exact .heartbeat id content
    · exact .report suspects content fun same => other (same.trans (congrArg Except.ok h.me_eq))
  have timed : e.content ≠ .timedOut p ∧ e.content ≠ .sendHeartbeat p := by
    rcases proper with ⟨id, content⟩ | ⟨⟨suspects, content⟩, -⟩ <;> simp [content]
  have machine : m.live outlet (.message e) = (m.handle outlet e).1 := rfl
  have same : (m.handle outlet e).1.me = m.me := congrArg Cluster.me (m.cluster_handle outlet e)
  have clock := (h.duty.now_handle ordinary outlet).trans h.now_eq
  have arms := Detector.arms?_eq_receive (s := e.content) h.peer
  rw [machine]
  refine ⟨h.duty.handle ordinary outlet, same.trans h.me_eq, ?_, clock, ?_, fun punctual => ?_, ?_⟩
  · rw [m.cluster_handle]
    exact h.peer
  · rw [← h.me_eq, h.duty.mem_own_handle ordinary outlet h.peer, h.me_eq, h.own]
    simp [timed.1, Moment.hears, and_comm]
  · rw [h.duty.deadline?_handle ordinary, h.now_eq]
    by_cases hears : e.content = .iAmAlive p
    · rw [if_pos (arms.mpr (.inl hears)), if_pos (by simpa [Moment.hears])]
      exact congrArg some (deadlineAfter_ofMillis early)
    · have unheard : (Moment.message e).hears p = false := by simpa [Moment.hears]
      have unarmed := arms.not.mpr (not_or.mpr ⟨hears, timed.1⟩)
      rw [if_neg unarmed, unheard, h.receive fun late => punctual ⟨unheard, late⟩]
      rfl
  · rw [h.duty.deadline?_handle ordinary, if_neg, h.send]
    exact fun armed => timed.2 (ordinary.arms?_eq_send.mp armed)

theorem beats_eq (outlet : Outlet) (proper : x.Proper me) :
    m.beats outlet p x = if x.reaches now (sent + interval) then 1 else 0 := by
  cases x with
  | tick time => simpa [Moment.reaches] using h.beats_tick outlet time
  | message e => exact h.beats_message outlet proper

theorem live (outlet : Outlet) (proper : x.Proper me)
    (early : x.clock now + interval ≤ lastInstant ∧ x.clock now + timeout ≤ lastInstant) :
    OnTime interval timeout me p (m.live outlet x) (x.clock now)
      (if x.hears p then now else heard) (if m.beats outlet p x = 0 then sent else x.clock now)
      (x.reaches now (heard + timeout) = true ∨ x.hears p = false ∧ overdue) := by
  cases x with
  | tick time =>
      have next := h.tick outlet time early
      rw [h.beats_tick]
      by_cases due : sent + interval ≤ max now time <;>
        simpa [Moment.clock, Moment.hears, Moment.reaches, due, or_comm] using next
  | message e =>
      rw [h.beats_message outlet proper]
      simpa [Moment.clock, Moment.reaches] using h.message outlet proper early.2

end OnTime

theorem OnTime.liveAll (h : OnTime interval timeout me p m start start start False)
    (outlet : Outlet) (proper : ∀ x ∈ xs, x.Proper me)
    (early : ∀ now, now = start ∨ .tick now ∈ xs →
      now + interval ≤ lastInstant ∧ now + timeout ≤ lastInstant) :
    OnTime interval timeout me p (m.liveAll outlet xs) (timeAfter start xs) (heardAt p start xs)
      (m.sentAt outlet p start start xs) (Overdue timeout p start xs) := by
  -- the schedule says of every moment what was before it, so the run is read from its end
  induction xs using List.reverseRecOn with
  | nil =>
      have never : ¬ Overdue timeout p start [] := by
        rintro ⟨before, x, after, split, -⟩
        simp at split
      rwa [eq_false never]
  | append_singleton xs x ih =>
      rw [List.forall_mem_append, List.forall_mem_singleton] at proper
      have before := ih proper.1 fun now h => early now (h.imp_right (List.mem_append_left _))
      have within : (x.clock (timeAfter start xs) + interval ≤ lastInstant) ∧
          x.clock (timeAfter start xs) + timeout ≤ lastInstant := by
        rw [← timeAfter_concat]
        exact ⟨timeAfter_add_le (early start (.inl rfl)).1 fun time h => (early time (.inr h)).1,
          timeAfter_add_le (early start (.inl rfl)).2 fun time h => (early time (.inr h)).2⟩
      rw [liveAll_concat, timeAfter_concat, heardAt_concat, sentAt_concat, overdue_concat]
      exact before.live outlet proper.2 within

/-! ### From the join on -/

section Join

variable (cluster : Cluster) (interval timeout start : Nat)

/-- A new machine at the time `start`. -/
def idleAt : Machine :=
  ((fresh cluster (.start (HeartbeatTiming.ofMillis interval timeout).delay)).expire start).1

variable {cluster interval timeout start} {join : Envelope Signal}

theorem respond_join (joins : join.content = .join) :
    (idleAt cluster interval timeout start).respond join =
      ⟨.heartbeat, (idleAt cluster interval timeout start).detector.forgetFailures.armTimers join,
        [], []⟩ := by
  have known : (idleAt cluster interval timeout start).detector.checkMembers.1 =
      (idleAt cluster interval timeout start).detector :=
    congrArg Prod.fst (if_pos rfl)
  have phase : (idleAt cluster interval timeout start).phase = .start := rfl
  simp only [respond, phase, known, Detector.respondAtStart_join joins]

theorem onTime_join (joins : join.content = .join) (outlet : Outlet) (peer : p ∈ cluster.peers)
    (early : start + interval ≤ lastInstant ∧ start + timeout ≤ lastInstant) :
    OnTime interval timeout cluster.me p
      ((idleAt cluster interval timeout start).handle outlet join).1 start start start False := by
  let timing := HeartbeatTiming.ofMillis interval timeout
  let m := idleAt cluster interval timeout start
  have now : m.detector.timers.now = start := Nat.zero_max start
  have unarmed : ∀ a, a ∉ m.detector.timers.pending := fun _ => List.not_mem_nil
  have cluster_eq := m.cluster_handle outlet join
  have detector : (m.handle outlet join).1.detector =
      (m.detector.forgetFailures.armTimers join).takePending.1 := by
    change (m.respond join).detector.takePending.1 = _
    rw [respond_join joins]
  have deadline (k : TimerKey) (own : k.peer = p) :
      (m.handle outlet join).1.detector.timers.deadline? k =
        some (LogicalTimers.deadlineAfter start (timing.wait k)) := by
    rw [detector]
    have delay : m.detector.forgetFailures.timers.delay = timing.delay := rfl
    refine (Detector.deadline?_armTimers delay).trans ?_
    rw [← now]
    exact if_pos (own ▸ peer)
  have clock := m.detector.forgetFailures.clock_armTimers join
  refine ⟨⟨?_, ?_, ?_, ?_, ?_, ?_⟩, congrArg Cluster.me cluster_eq, ?_, ?_, ?_, fun _ => ?_, ?_⟩
  · change (m.respond join).phase = .heartbeat
    rw [respond_join joins]
  · rw [m.known_handle, m.cluster_handle]
  · rw [detector]
    exact clock.2
  · rw [detector]
    exact Detector.distinct_armTimers (d := m.detector.forgetFailures) List.nodup_nil
  · exact apt_handle outlet fun a ha => absurd ha (unarmed a)
  · refine (tidy_handle_iff outlet fun a ha => absurd ha (unarmed a)).mpr fun untidies => ?_
    have phase : m.phase = .start := rfl
    exact absurd (phase.symm.trans untidies.1) (by decide)
  · exact cluster_eq ▸ peer
  · rw [detector]
    exact clock.1.trans now
  · have report : (m.handle outlet join).1.detector.reportOf cluster.me = ∅ := by
      rw [detector]
      exact Detector.reportOf_armTimers _ join _
    rw [report]
    simp
  · rw [deadline _ rfl]
    exact congrArg some (deadlineAfter_ofMillis early.2)
  · rw [deadline _ rfl]
    exact congrArg some (deadlineAfter_ofMillis early.1)

/-- A machine that joins at `start` and is not told of suspicions in its own name keeps its schedule
with every peer, whatever its outlet refuses. It suspects the peer while the peer is overdue, and it
sends the peer one heartbeat on a tick that reaches the interval since the last one, and none at any
other moment. -/
theorem on_schedule (joins : join.content = .join) (outlet : Outlet) (peer : p ∈ cluster.peers)
    (proper : ∀ x ∈ xs, x.Proper cluster.me)
    (early : ∀ now, now = start ∨ .tick now ∈ xs →
      now + interval ≤ lastInstant ∧ now + timeout ≤ lastInstant) :
    let joined := (idleAt cluster interval timeout start).handle outlet join
    let m := joined.1.liveAll outlet xs
    joined.2.handed = [] ∧
      (p ∈ m.detector.reportOf cluster.me ↔ Overdue timeout p start xs) ∧
      ∀ x : Moment, x.Proper cluster.me → m.beats outlet p x =
        if x.reaches (timeAfter start xs) (joined.1.sentAt outlet p start start xs + interval)
        then 1 else 0 := by
  intro joined m
  have first := onTime_join joins outlet peer (early start (.inl rfl))
  have onTime := first.liveAll outlet proper early
  have handed : joined.2.handed = hand outlet _ _
      ((idleAt cluster interval timeout start).respond join).letters := rfl
  refine ⟨?_, onTime.own, fun x properly => onTime.beats_eq outlet properly⟩
  rw [handed, respond_join joins]
  rfl

end Join

end Machine
end Vigil
