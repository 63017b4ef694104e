import Vigil.Participant
import Vigil.Proofs.Detector.Chronicle
import Vigil.Proofs.Machine.Agreement
import Vigil.Proofs.Machine.Responses

/-!
What the transitions of a machine say of its failed instances. As long as nobody leaves, a message
announces every change of the failed instances, and so the last announcement about an instance tells
whether it is failed.
-/

namespace Vigil

namespace Recounts

variable {s s' : InstanceSet} {ts : List Transition} {id : InstanceId}

/-- Each failure is outweighed by a return but for the last one of whoever is failed in the end. -/
theorem count_failed (h : Recounts s (ts.map .announced) s') (id : InstanceId) :
    ts.count (.failed id) + (if id ∈ s then 1 else 0) =
      ts.count (.alive id) + (if id ∈ s' then 1 else 0) := by
  induction ts generalizing s with
  | nil => cases h; rfl
  | cons t ts ih =>
      cases h with
      | cons fits rest =>
          have later := ih rest
          cases t with
          | failed other =>
              by_cases same : other = id
              · subst same
                have absent : other ∉ s := fits
                simp [Turn.act, absent] at later ⊢
                omega
              · simp [Turn.act, same, Ne.symm same] at later ⊢
                exact later
          | alive other =>
              by_cases same : other = id
              · subst same
                have present : other ∈ s := fits
                simp [Turn.act, present] at later ⊢
                omega
              · simp [Turn.act, same, Ne.symm same] at later ⊢
                exact later

/-- Whether an instance is failed in the end the last announcement about it tells, or where there is
none the beginning. -/
theorem mem_iff_last (h : Recounts s (ts.map .announced) s') (id : InstanceId) :
    id ∈ s' ↔ ((ts.filter (·.subject == id)).getLast?.elim (id ∈ s) (· = .failed id)) := by
  induction ts generalizing s with
  | nil => cases h; rfl
  | cons t ts ih =>
      cases h with
      | cons fits rest =>
          rw [ih rest]
          by_cases about : t.subject = id
          · have now : id ∈ (Turn.announced t).act s ↔ t = .failed id := by
              cases t <;> cases about <;> simp [Turn.act, Transition.subject]
            rw [List.filter_cons_of_pos (by simpa using about), List.getLast?_cons]
            cases (ts.filter (·.subject == id)).getLast? <;> simp [now]
          · have unchanged : id ∈ (Turn.announced t).act s ↔ id ∈ s := by
              cases t with
              | failed other | alive other =>
                  have different : id ≠ other := fun h => about h.symm
                  simp [Turn.act, different]
            rw [List.filter_cons_of_neg (by simpa using about)]
            cases (ts.filter (·.subject == id)).getLast? <;> simp [unchanged]

end Recounts

/-- The message lets nobody go: neither this instance nor one that is no member. -/
def Envelope.Retains (members : List InstanceId) (e : Envelope Signal) : Prop :=
  match e.content with
  | .leave => False
  | .timedOut id => id ∈ members
  | _ => True

instance (members : List InstanceId) : (e : Envelope Signal) → Decidable (e.Retains members)
  | ⟨.leave, _⟩ => inferInstanceAs (Decidable False)
  | ⟨.timedOut id, _⟩ => inferInstanceAs (Decidable (id ∈ members))
  | ⟨.join, _⟩ | ⟨.iAmAlive _, _⟩ | ⟨.sendHeartbeat _, _⟩ | ⟨.resetSendHeartbeat _, _⟩
  | ⟨.suspicions _, _⟩ => inferInstanceAs (Decidable True)

namespace Detector

variable {d : Detector} {e : Envelope Signal}

/-- While taking part, a message announces every change of the failed instances unless it is the
time-out of an instance that is no member. -/
theorem announces_respondInHeartbeat (retains : e.Retains d.cluster.members) :
    Announces d (d.respondInHeartbeat e).detector := by
  unfold respondInHeartbeat
  split
  · exact .refl d
  · exact d.sameButTimers_disarmTimers.announces
  · split
    · exact .refl d
    · exact (d.announces_heardFrom _).trans (.refl _)
  · rename_i id h
    rw [Envelope.Retains, h] at retains
    have member : d.isMember id = true := List.contains_iff_mem.mpr retains
    rw [if_pos member]
    exact (d.announces_suspect id).trans (.refl _)
  · split <;> exact .refl _
  · split <;> exact .refl _
  · split
    · exact d.announces_receiveReport _ _
    · exact .refl d

theorem failed_syncMembers_of_unreported (reports : d.reports = ∅) : d.syncMembers.failed = ∅ := by
  ext x
  have votes : d.syncMembers.votes x = 0 := by
    rw [votes, reports_syncMembers, reports]
    rfl
  rw [d.agrees_syncMembers x, votes]
  simp

theorem failed_checkMembers_of_unreported (reports : d.reports = ∅) (failed : d.failed = ∅) :
    d.checkMembers.1.failed = ∅ := by
  unfold checkMembers
  split
  · exact failed
  · exact failed_syncMembers_of_unreported reports

end Detector

namespace Machine

variable {m : Machine} {d : Detector} {outlet : Outlet} {e : Envelope Signal}

/-- All transitions have been handed out, and while the machine takes no part there has been no
report of anybody. -/
structure Current (m : Machine) : Prop where
  pending : m.detector.pending = []
  unreported : m.phase = .start → m.detector.reports = ∅ ∧ m.detector.failed = ∅

theorem Current.start (cluster : Cluster) (timers : HeartbeatTimers) :
    (Machine.start (.start cluster timers)).Current :=
  ⟨rfl, fun _ => ⟨rfl, rfl⟩⟩

/-- What is announced from a current machine on recounts what becomes of the failed instances. -/
theorem recounts_of_announces (h : m.Current) (announces : m.detector.Announces d) :
    Recounts m.detector.failed (d.takePending.2.map .announced) d.takePending.1.failed := by
  obtain ⟨l, pending, recounts⟩ := announces
  rw [h.pending, List.nil_append] at pending
  rw [Detector.takePending, pending]
  exact recounts

theorem announces_respond (h : m.Current) (retains : e.Retains m.detector.cluster.members) :
    m.detector.Announces (m.respond e).detector := by
  have checked := m.detector.announces_checkMembers
  rcases m.respond_cases e with
    ⟨-, -, respond⟩ | ⟨phase, -, respond⟩ | ⟨-, respond⟩ <;> rw [respond]
  · exact checked
  · obtain ⟨reports, failed⟩ := h.unreported phase
    have nobody := Detector.failed_checkMembers_of_unreported reports failed
    have forgotten : m.detector.checkMembers.1.Announces
        m.detector.checkMembers.1.forgetFailures :=
      ⟨[], by simp [Detector.forgetFailures], by
        rw [nobody]
        exact .nil _⟩
    exact (checked.trans forgotten).trans (Detector.sameButTimers_armTimers _ e).announces
  · exact checked.trans (Detector.announces_respondInHeartbeat (by simpa using retains))

theorem recounts_handle (outlet : Outlet) (h : m.Current)
    (retains : e.Retains m.detector.cluster.members) :
    Recounts m.detector.failed ((m.handle outlet e).2.transitions.map .announced)
      (m.handle outlet e).1.detector.failed :=
  recounts_of_announces h (announces_respond h retains)

theorem Current.handle (outlet : Outlet) (h : m.Current)
    (retains : e.Retains m.detector.cluster.members) :
    (m.handle outlet e).1.Current := by
  refine ⟨rfl, ?_⟩
  change (m.respond e).phase = .start →
    (m.respond e).detector.reports = ∅ ∧ (m.respond e).detector.failed = ∅
  rcases m.respond_cases e with
    ⟨phase, -, respond⟩ | ⟨-, -, respond⟩ | ⟨-, respond⟩ <;> rw [respond]
  · obtain ⟨reports, failed⟩ := h.unreported phase
    exact fun _ => ⟨m.detector.reports_checkMembers.trans reports,
      Detector.failed_checkMembers_of_unreported reports failed⟩
  · exact fun joined => by cases joined
  · intro left
    rw [Envelope.Retains, Detector.phase_eq_start_iff.mp left] at retains
    exact retains.elim

theorem Current.sync (h : m.Current) :
    (m.withDetector fun d => (d.syncMembers, ())).1.Current := by
  refine ⟨rfl, fun phase => ?_⟩
  have reports := (h.unreported phase).1
  exact ⟨m.detector.reports_syncMembers.trans reports,
    Detector.failed_syncMembers_of_unreported reports⟩

end Machine
end Vigil
