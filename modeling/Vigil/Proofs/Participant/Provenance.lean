import Vigil.Proofs.Machine.Provenance
import Vigil.Proofs.Participant.Affairs

/-!
A run of a participant is a history of its machine, as long as nothing but messages, ticks, changes
of the cluster and news of its members come from outside (`Participant.machine_undergoAll`). So what
is pending after a run is known by its key: it delivers the signal of the key, stays inside, and
continues the conversation in which it was armed (`Participant.timers_continue_conversations`).
-/

namespace Vigil

/-- What an operation is to the machine, if it changes the cluster or tells of its members. -/
def DetectorOperation.stimulus? : DetectorOperation → Option Stimulus
  | .changeCluster c => some (.change c)
  | .syncMembers => some .sync
  | .depart id => some (.depart id)
  | _ => none

/-- What an affair is to the machine, which takes up `messages` in the course of it. -/
def Affair.stimuli (outlet : Outlet) (messages : List (Envelope Signal)) : Affair → List Stimulus
  | tick time => .expire time :: Machine.inTurn outlet messages
  | operate op => op.stimulus?.toList ++ Machine.inTurn outlet messages
  | message _ | enlist _ | dismiss _ => Machine.inTurn outlet messages

/-- The affair is a message or a tick, changes the cluster or tells of its members, or concerns the
listeners. -/
def Affair.Public : Affair → Prop
  | operate op => op.stimulus?.isSome = true
  | message _ | tick _ | enlist _ | dismiss _ => True

namespace Machine

variable {m : Machine} {outlet : Outlet}

theorem pending_handleEach (taken : m.detector.pending = []) (outlet : Outlet)
    (es : List (Envelope Signal)) : (m.handleEach outlet es).1.detector.pending = [] := by
  induction es generalizing m with
  | nil => exact taken
  | cons e es ih => exact ih rfl

/-- The machine takes up an affair as a stimulus. Changes of the cluster leave queued transitions
where they are, so there have to be none. -/
theorem handleEach_opening {a : Affair} (known : a.Public) (taken : m.detector.pending = [])
    (es : List (Envelope Signal)) :
    ((a.opening m).1.handleEach outlet es).1 = m.undergoAll (a.stimuli outlet es) := by
  rw [handleEach_eq_undergoAll]
  cases a with
  | message _ | enlist _ | dismiss _ => rfl
  | tick time => rfl
  | operate op =>
      rw [Affair.stimuli, undergoAll_append]
      cases op with
      | syncMembers | depart id => rfl
      | changeCluster c =>
          have still : (Affair.opening m (.operate (.changeCluster c))).1 =
              m.undergo (.change c) := by
            obtain ⟨phase, ⟨cluster, timers, reports, failed, known, pending⟩, count⟩ := m
            cases taken
            rfl
          rw [still]
          rfl
      | _ => exact absurd known (by simp [Affair.Public, DetectorOperation.stimulus?])

end Machine

namespace Participant

open Machine (ArmedBy)

variable {p : Participant} {a : Affair} {run : List Affair}

/-- What a run is to the machine. -/
def stimuli (p : Participant) : List Affair → List Stimulus
  | [] => []
  | a :: as => a.stimuli p.outlet (taken (p.undergo a).2) ++ (p.undergo a).1.stimuli as

theorem pending_undergo (taken : p.machine.detector.pending = []) (a : Affair) :
    (p.undergo a).1.machine.detector.pending = [] := by
  rw [(p.machine_undergo a).1]
  refine Machine.pending_handleEach ?_ _ _
  cases a with
  | message _ | tick _ | enlist _ | dismiss _ => exact taken
  | operate op => rfl

theorem machine_undergoAll (taken : p.machine.detector.pending = [])
    (known : ∀ a ∈ run, a.Public) :
    (p.undergoAll run).1.machine = p.machine.undergoAll (p.stimuli run) := by
  induction run generalizing p with
  | nil => rfl
  | cons a run ih =>
      obtain ⟨first, known⟩ := List.forall_mem_cons.mp known
      rw [undergoAll_cons, stimuli, Machine.undergoAll_append, ih (pending_undergo taken a) known,
        (p.machine_undergo a).1, Machine.handleEach_opening first taken]

/-- Whatever happens to a participant that begins without timers, each of its timers delivers the
signal of its key to itself. It was armed while the machine handled a message of the run and has
been pending since then, and it has the headers of the conversation of that message. -/
theorem timers_continue_conversations (unarmed : p.machine.detector.timers.pending = [])
    (taken : p.machine.detector.pending = []) (known : ∀ a ∈ run, a.Public) :
    (p.undergoAll run).1.machine = p.machine.undergoAll (p.stimuli run) ∧
    ∀ a ∈ (p.undergoAll run).1.machine.detector.timers.pending,
      (∀ peer, a.key = .receive peer → a.message.content = .timedOut peer) ∧
      (∀ peer, a.key = .send peer → a.message.content = .sendHeartbeat peer) ∧
      a.message.isInternal = true ∧
      (∃ e, p.machine.ArmedBy (p.stimuli run) a e) ∧
      ∀ e, p.machine.ArmedBy (p.stimuli run) a e → ∀ name, a.message.header? name =
        if name ∈ Envelope.conversationHeaders then e.header? name else none := by
  have same := machine_undergoAll taken known
  refine ⟨same, fun a ha => ?_⟩
  obtain ⟨e, armed, message⟩ := Machine.exists_armedBy unarmed (same ▸ ha)
  have content : a.message.content = a.key.signal := message ▸ Envelope.content_timeout _ _
  refine ⟨fun peer key => ?_, fun peer key => ?_, ?_, ⟨e, armed⟩, fun e' armed' name => ?_⟩
  · rw [content, key]
    rfl
  · rw [content, key]
    rfl
  · rw [message]
    exact Envelope.isInternal_timeout _ _
  · rw [message, armed'.unique armed]
    exact Envelope.header?_timeout _ _ _

def firstOfPair : Participant where
  machine :=
    .start (.start (.ofMembers 1 [1, 2]) (.start (HeartbeatTiming.ofMillis 1000 3000).delay))
  outlet := .taking
  registry := ⟨[]⟩
  watchers := ∅

/-- A join that is addressed, a heartbeat in a conversation of its own, and a tick at which the
heartbeat for the second instance is due. -/
def addressedStart : List Affair :=
  [.message ((Envelope.sendTo .join "1").setHeader Header.conversation "9/1"),
    .message ((Envelope.internal (.iAmAlive 2)).setHeader Header.conversation "2/7"), .tick 1000]

theorem second_awaited_in_conversation :
    ∃ a ∈ (firstOfPair.undergoAll addressedStart).1.machine.detector.timers.pending,
      a.key = .receive 2 ∧ a.message.content = .timedOut 2 ∧ a.message.isInternal = true ∧
      ∃ e, firstOfPair.machine.ArmedBy (firstOfPair.stimuli addressedStart) a e ∧
        a.message.header? Header.conversation = e.header? Header.conversation ∧
        a.message.header? Header.sender = none := by
  have known : ∀ a ∈ addressedStart, a.Public := by
    simp [addressedStart, Affair.Public]
  have timers := (timers_continue_conversations (p := firstOfPair) rfl rfl known).2
  have pending : ∃ a ∈ (firstOfPair.undergoAll addressedStart).1.machine.detector.timers.pending,
      a.key = .receive 2 := by decide +kernel
  obtain ⟨a, ha, key⟩ := pending
  obtain ⟨receive, -, inside, ⟨e, armed⟩, headers⟩ := timers a ha
  refine ⟨a, ha, key, receive 2 key, inside, e, armed, ?_, ?_⟩
  · exact (headers e armed _).trans (if_pos (by decide))
  · exact (headers e armed _).trans (if_neg (by decide))

end Participant
end Vigil
