import Vigil.Proofs.Machine.Schedule
import Vigil.Proofs.Participant.Sending

/-!
A participant whose listeners do not call keeps the schedule of its machine: at every moment the
machine takes up the messages of the moment and no others, so what listeners are told leaves no
trace in it, nor in what is sent.
-/

namespace Vigil

def Moment.affair : Moment → Affair
  | tick time => .tick time
  | message e => .message e

namespace Participant

open LogicalTimers (lastInstant)
open Machine (idleAt Overdue timeAfter)

variable {p : Participant} {interval timeout start : Nat} {cluster : Cluster} {peer : InstanceId}
  {join : Envelope Signal} {xs : List Moment}

theorem machine_undergo_moment (silent : p.calls = 0) (x : Moment) :
    (p.undergo x.affair).1.machine = p.machine.live p.outlet x := by
  rw [(p.machine_undergo _).1, taken_undergo_of_silent silent, Machine.handleEach_eq_undergoAll]
  cases x <;> rfl

theorem sent_undergo_moment (silent : p.calls = 0) (x : Moment) :
    sent (p.undergo x.affair).2 =
      accepted (p.machine.handedAll (x.stimuli p.outlet p.machine)) := by
  rw [sent_undergo, taken_undergo_of_silent silent]
  cases x <;> rfl

theorem undergoAll_moments (silent : p.calls = 0) (xs : List Moment) :
    let q := (p.undergoAll (xs.map Moment.affair)).1
    q.calls = 0 ∧ q.outlet = p.outlet ∧ q.machine = p.machine.liveAll p.outlet xs := by
  induction xs generalizing p with
  | nil => exact ⟨silent, rfl, rfl⟩
  | cons x xs ih =>
      have still : (p.undergo x.affair).1.calls = 0 :=
        Nat.eq_zero_of_le_zero (silent ▸ p.calls_undergo_le _)
      have outlet := (p.undergo_conducts x.affair).outlet_eq
      obtain ⟨quiet, same, machine⟩ := ih still
      rw [machine_undergo_moment silent, outlet] at machine
      exact ⟨quiet, same.trans outlet, machine⟩

/-- A participant that joins at `start` and is not told of suspicions in its own name keeps its
schedule with every peer, as long as its listeners do not call. It suspects the peer while the peer
is overdue. What it sends at a moment is what its machine hands on and the outlet does not refuse,
and the machine hands on one heartbeat for the peer on a tick that reaches the interval since the
last one, and none at any other moment. -/
theorem keeps_schedule (begun : p.machine = idleAt cluster interval timeout start)
    (silent : p.calls = 0) (joins : join.content = .join) (member : peer ∈ cluster.peers)
    (proper : ∀ x ∈ xs, x.Proper cluster.me)
    (early : ∀ now, now = start ∨ .tick now ∈ xs →
      now + interval ≤ lastInstant ∧ now + timeout ≤ lastInstant) :
    let joined := p.machine.handle p.outlet join
    let q := ((p.undergo (.message join)).1.undergoAll (xs.map Moment.affair)).1
    joined.2.handed = [] ∧
      (peer ∈ q.machine.detector.reportOf cluster.me ↔ Overdue timeout peer start xs) ∧
      ∀ x : Moment, x.Proper cluster.me →
        sent (q.undergo x.affair).2 =
            accepted (q.machine.handedAll (x.stimuli p.outlet q.machine)) ∧
          q.machine.beats p.outlet peer x =
            if x.reaches (timeAfter start xs)
              (joined.1.sentAt p.outlet peer start start xs + interval) then 1 else 0 := by
  intro joined q
  obtain ⟨quiet, outlet, same⟩ := undergoAll_moments silent (.message join :: xs)
  have machine : q.machine = joined.1.liveAll p.outlet xs := same
  obtain ⟨handed, suspected, beats⟩ :=
    Machine.on_schedule joins p.outlet member proper early
  rw [← begun] at handed suspected beats
  refine ⟨handed, ?_, fun x properly => ⟨?_, ?_⟩⟩
  · rw [machine]
    exact suspected
  · exact outlet ▸ sent_undergo_moment quiet x
  · rw [machine]
    exact beats x properly

def three : Cluster := .ofMembers 1 [1, 2, 3]

/-- The first of three, at half a second. A listener asks it about the transitions. -/
def firstOfThree : Participant where
  machine := idleAt three 1000 3000 500
  outlet := .taking
  registry := ⟨["watch"]⟩
  watchers := .ofList [("watch", ⟨none, .query⟩)]

/-- The second instance is heard from once, at one and a half seconds; the third suspects it too. -/
def fallenSilent : List Moment :=
  [.tick 1500, .message (.internal (.iAmAlive 2)), .tick 4000,
    .message ((Envelope.internal (.suspicions (.ofList [2]))).setHeader Header.sender "3"),
    .tick 4500]

theorem second_suspected_and_sent_to :
    let m := ((firstOfThree.undergo (.message (.internal .join))).1.undergoAll
      (fallenSilent.map Moment.affair)).1.machine
    2 ∈ m.detector.reportOf three.me ∧ m.beats firstOfThree.outlet 2 (.tick 6000) = 1 := by
  intro m
  have silent : firstOfThree.calls = 0 := by decide +kernel
  have member : 2 ∈ three.peers := by decide +kernel
  have proper : ∀ x ∈ fallenSilent, x.Proper three.me := by
    have other : ((Envelope.internal (Signal.suspicions (.ofList [2]))).setHeader Header.sender
        "3").sender ≠ .ok three.me := by decide +kernel
    simp only [fallenSilent, List.forall_mem_cons]
    exact ⟨trivial, .inl ⟨2, rfl⟩, trivial, .inr ⟨⟨_, rfl⟩, other⟩, trivial, by simp⟩
  have inTime : ∀ now, now = 500 ∨ .tick now ∈ fallenSilent →
      now + 1000 ≤ lastInstant ∧ now + 3000 ≤ lastInstant := by
    have last : 1000000 ≤ lastInstant := by decide
    intro now h
    have soon : now ≤ 4500 := by
      rcases h with rfl | h
      · decide
      · simp [fallenSilent] at h
        omega
    omega
  have begun : firstOfThree.machine = idleAt three 1000 3000 500 := rfl
  have joins : (Envelope.internal Signal.join).content = .join := rfl
  have schedule := keeps_schedule begun silent joins member proper inTime
  have overdue : Overdue 3000 2 500 fallenSilent :=
    ⟨fallenSilent.take 4, .tick 4500, [], rfl, by decide +kernel, by simp⟩
  have beats := (schedule.2.2 (.tick 6000) trivial).2
  exact ⟨schedule.2.1.mpr overdue, beats.trans (by decide +kernel)⟩

end Participant
end Vigil
