import Mathlib.Data.List.Induction
import Vigil.Proofs.Machine.Run

/-!
Whether the failed instances of a machine are those that are failed by quorum. One way always
holds: nobody is failed without a quorum. The other way a machine loses only by joining while
reports from before give somebody a quorum, since joining forgets the failures and keeps the
reports; `consistent_iff_joins_clean` says that it holds whenever a message has been handled
exactly if no join finds such reports.
-/

namespace Vigil

/-- The failed instances are those that are failed by quorum, so that every member is either among
the alive members or failed, and never both. -/
def Detector.Consistent (d : Detector) : Prop :=
  (∀ id, id ∈ d.failed ↔ d.isFailed id = true) ∧
    ∀ id ∈ d.cluster.members, id ∈ d.aliveMembers ↔ id ∉ d.failed

theorem Detector.consistent_iff_agrees {d : Detector} :
    d.Consistent ↔ d.Agrees d.cluster.members.length := by
  rw [agrees_members_iff]
  refine ⟨And.left, fun h => ⟨h, fun id hid => ?_⟩⟩
  rw [h id]
  simp [aliveMembers, hid]

namespace Machine

variable {m : Machine} {outlet : Outlet} {e : Envelope Signal}

/-- Nobody is failed by quorum when a message makes the machine join. -/
def JoinsClean (m : Machine) (e : Envelope Signal) : Prop :=
  m.phase = .start → e.content = .join → ∀ id, m.detector.isFailed id = false

/-- A message changes no member, and the members are known afterwards. -/
theorem members_respond (m : Machine) (e : Envelope Signal) :
    (m.respond e).detector.cluster = m.detector.cluster ∧
      (m.respond e).detector.known = m.detector.cluster.members := by
  rcases m.respond_cases e with ⟨-, -, respond⟩ | ⟨-, -, respond⟩ | ⟨-, respond⟩
  · simp [respond]
  · simp [respond]
  · have h := m.detector.checkMembers.1.known_respondInHeartbeat e (by simp)
    exact ⟨by simp [respond, Detector.cluster_respondInHeartbeat], by simpa [respond] using h⟩

theorem cluster_handle (m : Machine) (outlet : Outlet) (e : Envelope Signal) :
    (m.handle outlet e).1.detector.cluster = m.detector.cluster :=
  (m.members_respond e).1

theorem cluster_handleEach {es : List (Envelope Signal)} :
    (m.handleEach outlet es).1.detector.cluster = m.detector.cluster := by
  induction es generalizing m with
  | nil => rfl
  | cons e es ih => exact ih.trans (m.cluster_handle outlet e)

theorem known_handle (m : Machine) (outlet : Outlet) (e : Envelope Signal) :
    (m.handle outlet e).1.detector.known = m.detector.cluster.members :=
  (m.members_respond e).2

/-- From agreement with the known members, handling a message leads to agreement with the present
ones, unless it makes the machine join where somebody is failed by quorum. -/
theorem agrees_handle_iff (h : m.detector.Agrees m.detector.known.length) :
    (m.handle outlet e).1.detector.Agrees m.detector.cluster.members.length ↔ m.JoinsClean e := by
  have checked := Detector.agrees_checkMembers h
  change (m.respond e).detector.Agrees _ ↔ _
  unfold JoinsClean
  rcases m.respond_cases e with
    ⟨-, other, respond⟩ | ⟨phase, join, respond⟩ | ⟨phase, respond⟩ <;> rw [respond]
  · exact iff_of_true checked fun _ join => absurd join other
  · have arm := m.detector.checkMembers.1.forgetFailures.sameButTimers_armTimers e
    simp only [arm.agrees_iff, Detector.agrees_forgetFailures_iff, Detector.votes_checkMembers,
      phase, join, forall_const]
    exact forall_congr' fun x => by rw [← Detector.isFailed_iff, Bool.not_eq_true]
  · refine iff_of_true ?_ fun start => absurd (phase.symm.trans start) (by decide)
    have cluster := m.detector.cluster_checkMembers
    rcases m.detector.checkMembers.1.reevaluates_respondInHeartbeat e with hr | ha
    · exact checked.reevaluated (cluster ▸ hr)
    · exact cluster ▸ ha

theorem sound_handle (h : m.detector.Sound m.detector.known.length) :
    (m.handle outlet e).1.detector.Sound m.detector.cluster.members.length := by
  have checked := Detector.sound_checkMembers h
  change (m.respond e).detector.Sound _
  rcases m.respond_cases e with ⟨-, -, respond⟩ | ⟨-, -, respond⟩ | ⟨-, respond⟩ <;> rw [respond]
  · exact checked
  · have arm := m.detector.checkMembers.1.forgetFailures.sameButTimers_armTimers e
    exact arm.sound_iff.mpr (Detector.sound_forgetFailures _ _)
  · have cluster := m.detector.cluster_checkMembers
    rcases m.detector.checkMembers.1.reevaluates_respondInHeartbeat e with hr | ha
    · exact checked.reevaluated (cluster ▸ hr)
    · exact cluster ▸ ha.sound

theorem agrees_withDetector (f : Detector → Detector)
    (hk : (f m.detector).known = m.detector.cluster.members)
    (h : (f m.detector).Agrees m.detector.cluster.members.length) :
    let d := (m.withDetector fun d => (f d, ())).1.detector
    d.Agrees d.known.length := by
  change (f m.detector).Agrees (f m.detector).known.length
  rwa [hk]

/-- What is not a message leaves failures, reports and known members alone, or works the failures
out anew. -/
theorem agrees_undergo (h : m.detector.Agrees m.detector.known.length) {s : Stimulus}
    (handled : ∀ outlet e, s = .handle outlet e →
      (m.undergo s).detector.Agrees m.detector.cluster.members.length) :
    (m.undergo s).detector.Agrees (m.undergo s).detector.known.length := by
  cases s with
  | handle outlet e =>
      rw [undergo, known_handle]
      exact handled outlet e rfl
  | expire _ | change _ => exact h
  | sync => exact agrees_withDetector _ (by simp) (m.detector.agrees_syncMembers)
  | depart id => exact agrees_withDetector _ (by simp) (m.detector.agrees_depart id)

theorem sound_undergo (h : m.detector.Sound m.detector.known.length) (s : Stimulus) :
    (m.undergo s).detector.Sound (m.undergo s).detector.known.length := by
  cases s with
  | handle outlet e =>
      rw [undergo, known_handle]
      exact sound_handle h
  | expire _ | change _ => exact h
  | sync => exact (agrees_withDetector _ (by simp) (m.detector.agrees_syncMembers)).sound
  | depart id => exact (agrees_withDetector _ (by simp) (m.detector.agrees_depart id)).sound

section Start

variable (cluster : Cluster) (timers : HeartbeatTimers)

/-- A machine about which nothing has happened yet. -/
def fresh : Machine := .start (.start cluster timers)

theorem agrees_fresh :
    (fresh cluster timers).detector.Agrees (fresh cluster timers).detector.known.length :=
  Detector.agrees_start cluster timers _

theorem sound_undergoAll (history : List Stimulus) :
    let d := ((fresh cluster timers).undergoAll history).detector
    d.Sound d.known.length :=
  undergoAll_induction (P := fun m => m.detector.Sound m.detector.known.length)
    (agrees_fresh cluster timers).sound (fun _ s sound => sound_undergo sound s) history

/-- Agreement after every message so far is agreement at any time, with the known members. -/
theorem agrees_undergoAll {history : List Stimulus}
    (handled : ∀ past outlet e, past ++ [.handle outlet e] <+: history →
      ((fresh cluster timers).undergoAll past).detector.Agrees
          ((fresh cluster timers).undergoAll past).detector.known.length →
        ((fresh cluster timers).undergoAll (past ++ [.handle outlet e])).detector.Agrees
          ((fresh cluster timers).undergoAll past).detector.cluster.members.length)
    {past : List Stimulus} (hp : past <+: history) :
    let d := ((fresh cluster timers).undergoAll past).detector
    d.Agrees d.known.length := by
  induction past using List.reverseRecOn with
  | nil => exact agrees_fresh cluster timers
  | append_singleton past s ih =>
      have before := ih ((List.prefix_append past [s]).trans hp)
      rw [undergoAll_append]
      refine agrees_undergo before ?_
      rintro outlet e rfl
      have h := handled past outlet e hp before
      rwa [undergoAll_append] at h

/-- Whenever a message has been handled the failed instances are those that are failed by quorum,
if and only if every join finds nobody failed by quorum. In any case nobody is failed without a
quorum. -/
theorem consistent_iff_joins_clean (history : List Stimulus) :
    ((∀ past outlet e, past ++ [.handle outlet e] <+: history →
        ((fresh cluster timers).undergoAll (past ++ [.handle outlet e])).detector.Consistent) ↔
      ∀ past outlet e, past ++ [.handle outlet e] <+: history →
        ((fresh cluster timers).undergoAll past).JoinsClean e) ∧
    ∀ past outlet e, past ++ [.handle outlet e] <+: history →
      let d := ((fresh cluster timers).undergoAll (past ++ [.handle outlet e])).detector
      ∀ id ∈ d.failed, d.isFailed id = true := by
  have cluster_return (past : List Stimulus) (outlet : Outlet) (e : Envelope Signal) :
      ((fresh cluster timers).undergoAll (past ++ [.handle outlet e])).detector.cluster =
        ((fresh cluster timers).undergoAll past).detector.cluster := by
    rw [undergoAll_append]
    exact cluster_handle _ outlet e
  refine ⟨⟨fun consistent past outlet e hp => ?_, fun clean past outlet e hp => ?_⟩,
    fun past outlet e hp => ?_⟩
  · have returned : ∀ past outlet e, past ++ [.handle outlet e] <+: history →
        ((fresh cluster timers).undergoAll (past ++ [.handle outlet e])).detector.Agrees
          ((fresh cluster timers).undergoAll past).detector.cluster.members.length := by
      intro past outlet e hp
      rw [← cluster_return past outlet e]
      exact Detector.consistent_iff_agrees.mp (consistent past outlet e hp)
    have before := agrees_undergoAll cluster timers
      (fun past outlet e hp _ => returned past outlet e hp)
      ((List.prefix_append past _).trans hp)
    have after := returned past outlet e hp
    rw [undergoAll_append] at after
    exact (agrees_handle_iff before).mp after
  · have returned : ∀ past outlet e, past ++ [.handle outlet e] <+: history →
        ((fresh cluster timers).undergoAll past).detector.Agrees
            ((fresh cluster timers).undergoAll past).detector.known.length →
          ((fresh cluster timers).undergoAll (past ++ [.handle outlet e])).detector.Agrees
            ((fresh cluster timers).undergoAll past).detector.cluster.members.length := by
      intro past outlet e hp before
      rw [undergoAll_append]
      exact (agrees_handle_iff before).mpr (clean past outlet e hp)
    have before := agrees_undergoAll cluster timers returned ((List.prefix_append past _).trans hp)
    rw [Detector.consistent_iff_agrees, cluster_return]
    exact returned past outlet e hp before
  · intro d id hid
    have known : d.known = d.cluster.members := by
      simp only [d, undergoAll_append]
      exact (known_handle _ outlet e).trans
        (congrArg Cluster.members (cluster_handle _ outlet e).symm)
    have sound := sound_undergoAll cluster timers (past ++ [.handle outlet e]) id hid
    rw [Detector.isFailed_iff, ← known]
    exact sound

end Start

/-- An instance of three joins, stops hearing from the third, learns that the second does not hear
from it either, leaves and joins again. -/
def rejoining : List Stimulus :=
  [.internal .join, .internal (.timedOut 3),
    (Envelope.internal (.suspicions (.ofList [3]))).setHeader Header.sender "2",
    .internal .leave, .internal .join].map (.handle .taking)

/-- The reports from before still give the third instance a quorum, and it is not failed. -/
theorem not_consistent_after_rejoining :
    ¬ ((fresh (.ofMembers 1 [1, 2, 3]) (.start (.fixed (.ofMillis 1000)))).undergoAll
      rejoining).detector.Consistent := by
  intro h
  have quorum := (h.1 3).not
  revert quorum
  decide +kernel

end Machine
end Vigil
