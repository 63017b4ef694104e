import Mathlib.Data.List.Chain
import Vigil.Proofs.Detector.History

/-!
The transitions of a detector tell the whole history of its failed instances. A chronicle puts the
transitions, as they are handed out or queued, in line with the two removals that are not announced:
forgetting the failures takes everybody out, and a departure the departed. Every operation goes on
from where the chronicle has come (`recounts_perform`), so a replay of the chronicle gives the failed
instances at every moment, and each transition announces a change (`replay_chronicle`).
-/

namespace Vigil

/-- What happens to a set of failed instances. -/
inductive Turn where
  | announced (t : Transition)
  /-- Everybody is taken out without a transition. -/
  | cleared
  /-- One instance is taken out without a transition. -/
  | removed (id : InstanceId)
  deriving DecidableEq, Repr

namespace Turn

def act (s : InstanceSet) : Turn → InstanceSet
  | announced (.failed id) => s.insert id
  | announced (.alive id) => s.erase id
  | cleared => ∅
  | removed id => s.erase id

/-- Only who is not failed fails, and only who is failed comes alive. -/
def Fits (s : InstanceSet) : Turn → Prop
  | announced (.failed id) => id ∉ s
  | announced (.alive id) => id ∈ s
  | cleared | removed _ => True

def announcement? : Turn → Option Transition
  | announced t => some t
  | cleared | removed _ => none

def concerns (id : InstanceId) : Turn → Bool
  | announced (.failed other) | announced (.alive other) | removed other => id == other
  | cleared => true

/-- Among the turns that concern `id`, it fails only where it has not just failed, and comes alive
only where it has. -/
def MayFollow (id : InstanceId) (last next : Turn) : Prop :=
  (next = announced (.failed id) → last ≠ announced (.failed id)) ∧
    (next = announced (.alive id) → last = announced (.failed id))

variable {s : InstanceSet} {id : InstanceId}

theorem mem_act_of_concerns {turn : Turn} (h : turn.concerns id = true) :
    id ∈ turn.act s ↔ turn = announced (.failed id) := by
  cases turn with
  | announced t => cases t <;> simp_all [concerns, act]
  | cleared => simp [act]
  | removed other => simp_all [concerns, act]

theorem mem_act_of_not_concerns {turn : Turn} (h : ¬ turn.concerns id = true) :
    id ∈ turn.act s ↔ id ∈ s := by
  cases turn with
  | announced t => cases t <;> simp_all [concerns, act]
  | cleared => exact absurd rfl h
  | removed other => simp_all [concerns, act]

theorem Fits.mayFollow {last turn : Turn} (h : turn.Fits s)
    (hlast : id ∈ s ↔ last = announced (.failed id)) : MayFollow id last turn := by
  constructor
  · rintro rfl heq
    exact h (hlast.mpr heq)
  · rintro rfl
    exact hlast.mp h

end Turn

def replay (s : InstanceSet) (turns : List Turn) : InstanceSet := turns.foldl Turn.act s

/-- The turns lead from one set to another, and every announcement among them fits. -/
inductive Recounts : InstanceSet → List Turn → InstanceSet → Prop
  | nil (s : InstanceSet) : Recounts s [] s
  | cons {s s' : InstanceSet} {turn : Turn} {turns : List Turn} :
      turn.Fits s → Recounts (turn.act s) turns s' → Recounts s (turn :: turns) s'

namespace Recounts

variable {s s' s'' : InstanceSet} {turns later : List Turn}

theorem append (h : Recounts s turns s') (h' : Recounts s' later s'') :
    Recounts s (turns ++ later) s'' := by
  induction h with
  | nil s => exact h'
  | cons fits _ ih => exact .cons fits (ih h')

theorem replay_eq (h : Recounts s turns s') : replay s turns = s' := by
  induction h with
  | nil s => rfl
  | cons _ _ ih => exact ih

theorem fits {before after : List Turn} {turn : Turn}
    (h : Recounts s (before ++ turn :: after) s') : turn.Fits (replay s before) := by
  induction before generalizing s with
  | nil =>
      cases h with
      | cons fits _ => exact fits
  | cons first before ih =>
      cases h with
      | cons _ rest => exact ih rest

/-- The invariant is that an instance is in the set exactly if the last turn that concerns it was
its failure. -/
theorem isChain {id : InstanceId} (h : Recounts s turns s') {last : Turn}
    (hlast : id ∈ s ↔ last = .announced (.failed id)) :
    (last :: turns.filter (·.concerns id)).IsChain (Turn.MayFollow id) := by
  induction h generalizing last with
  | nil s => exact List.isChain_singleton last
  | @cons s s' turn turns fits _ ih =>
      by_cases hc : turn.concerns id = true
      · rw [List.filter_cons_of_pos hc, List.isChain_cons_cons]
        exact ⟨fits.mayFollow hlast, ih (Turn.mem_act_of_concerns hc)⟩
      · rw [List.filter_cons_of_neg hc]
        exact ih ((Turn.mem_act_of_not_concerns hc).trans hlast)

end Recounts

def DetectorAnswer.handedOut : DetectorAnswer → List Transition
  | .transitions l => l
  | _ => []

/-- What an operation does to the failed instances without a transition. -/
def DetectorOperation.unannounced : DetectorOperation → List Turn
  | .forgetFailures => [.cleared]
  | .depart id => [.removed id]
  | _ => []

namespace Detector

variable {d d' d'' : Detector}

/-! ### What is queued -/

/-- Every change of the failed instances on the way to `d'` is queued. -/
def Announces (d d' : Detector) : Prop :=
  ∃ l, d'.pending = d.pending ++ l ∧ Recounts d.failed (l.map .announced) d'.failed

theorem Announces.refl (d : Detector) : Announces d d := ⟨[], by simp, .nil _⟩

theorem Announces.trans (h : Announces d d') (h' : Announces d' d'') : Announces d d'' := by
  obtain ⟨l, hp, hr⟩ := h
  obtain ⟨l', hp', hr'⟩ := h'
  exact ⟨l ++ l', by rw [hp', hp, List.append_assoc], by
    rw [List.map_append]
    exact hr.append hr'⟩

theorem announces_markFailed (d : Detector) (id : InstanceId) : Announces d (d.markFailed id) := by
  unfold markFailed
  split
  · rename_i h
    exact ⟨[.failed id], rfl, .cons h.2 (.nil _)⟩
  · exact .refl d

theorem announces_clearFailed (d : Detector) (id : InstanceId) :
    Announces d (d.clearFailed id) := by
  unfold clearFailed
  split
  · rename_i h
    exact ⟨[.alive id], rfl, .cons h.1 (.nil _)⟩
  · exact .refl d

theorem announces_foldl {f : Detector → InstanceId → Detector}
    (h : ∀ d id, Announces d (f d id)) (l : List InstanceId) (d : Detector) :
    Announces d (l.foldl f d) := by
  induction l generalizing d with
  | nil => exact .refl d
  | cons id l ih => exact (h d id).trans (ih (f d id))

theorem announces_reconcile (d : Detector) : Announces d d.reconcile :=
  (announces_foldl announces_clearFailed _ d).trans (announces_foldl announces_markFailed _ _)

theorem announces_syncMembers (d : Detector) : Announces d d.syncMembers :=
  announces_reconcile { d with known := d.cluster.members }

theorem announces_checkMembers (d : Detector) : Announces d d.checkMembers.1 := by
  unfold checkMembers
  split
  · exact .refl d
  · exact d.announces_syncMembers

theorem announces_heardFrom (d : Detector) (id : InstanceId) :
    Announces d (d.heardFrom id).1 := by
  have same : Announces d (d.hear id) := by
    unfold hear
    split <;> exact .refl d
  rw [heardFrom_eq]
  exact same.trans (announces_clearFailed _ id)

theorem announces_suspect (d : Detector) (id : InstanceId) : Announces d (d.suspect id) := by
  rw [suspect_eq]
  split
  · exact .refl d
  · exact announces_markFailed (d.accuse id) id

theorem announces_receiveReport (d : Detector) (q : InstanceId) (s : InstanceSet) :
    Announces d (d.receiveReport q s) :=
  (announces_foldl announces_markFailed _ (d.setReport q (s.erase d.me))).trans
    (announces_foldl announces_clearFailed _ _)

theorem SameButTimers.announces (h : SameButTimers d d') : Announces d d' := by
  obtain ⟨t, rfl⟩ := h
  exact .refl d

/-! ### What is handed out -/

/-- Nothing is lost between the queue and what is handed out, and what an operation adds recounts
what it does to the failed instances. -/
theorem recounts_perform (d : Detector) (op : DetectorOperation) :
    ∃ l, (d.perform op).2.handedOut ++ (d.perform op).1.pending = d.pending ++ l ∧
      Recounts d.failed (op.unannounced ++ l.map .announced) (d.perform op).1.failed := by
  cases op with
  | forgetFailures => exact ⟨[], (List.append_nil _).symm, .cons trivial (.nil _)⟩
  | heardFrom id => exact d.announces_heardFrom id
  | suspect id => exact d.announces_suspect id
  | receiveReport q s => exact d.announces_receiveReport q s
  | depart id =>
      obtain ⟨l, hp, hr⟩ := (d.forget id).announces_syncMembers
      exact ⟨l, hp, .cons trivial hr⟩
  | syncMembers => exact d.announces_syncMembers
  | checkMembers => exact d.announces_checkMembers
  | takePending => exact ⟨[], rfl, .nil _⟩
  | armTimers cause => exact (d.sameButTimers_armTimers cause).announces
  | disarmTimers => exact d.sameButTimers_disarmTimers.announces
  | setTimer _ _ | cancelTimer _ | changeCluster _ => exact Announces.refl d

/-- The transitions that an operation adds to those queued before, whether it queues them or hands
them out. -/
def news (d : Detector) (op : DetectorOperation) : List Transition :=
  ((d.perform op).2.handedOut ++ (d.perform op).1.pending).drop d.pending.length

theorem pending_append_news (d : Detector) (op : DetectorOperation) :
    d.pending ++ d.news op = (d.perform op).2.handedOut ++ (d.perform op).1.pending := by
  obtain ⟨l, hl, -⟩ := d.recounts_perform op
  rw [news, hl, List.drop_left]

theorem recounts_news (d : Detector) (op : DetectorOperation) :
    Recounts d.failed (op.unannounced ++ (d.news op).map .announced) (d.perform op).1.failed := by
  obtain ⟨l, hl, hr⟩ := d.recounts_perform op
  rwa [news, hl, List.drop_left]

/-! ### Histories -/

def handedOut (d : Detector) : List DetectorOperation → List Transition
  | [] => []
  | op :: history => (d.perform op).2.handedOut ++ (d.perform op).1.handedOut history

/-- What happens to the failed instances in a history. -/
def chronicle (d : Detector) : List DetectorOperation → List Turn
  | [] => []
  | op :: history =>
    op.unannounced ++ (d.news op).map .announced ++ (d.perform op).1.chronicle history

theorem chronicle_append (d : Detector) (past future : List DetectorOperation) :
    d.chronicle (past ++ future) = d.chronicle past ++ (d.performAll past).chronicle future := by
  induction past generalizing d with
  | nil => rfl
  | cons op past ih => simp [chronicle, ih]

theorem recounts_chronicle (d : Detector) (history : List DetectorOperation) :
    Recounts d.failed (d.chronicle history) (d.performAll history).failed := by
  induction history generalizing d with
  | nil => exact .nil _
  | cons op history ih => exact (d.recounts_news op).append (ih _)

theorem announcements_unannounced (op : DetectorOperation) :
    op.unannounced.filterMap Turn.announcement? = [] := by
  cases op <;> rfl

theorem announcements_chronicle (d : Detector) (history : List DetectorOperation) :
    d.pending ++ (d.chronicle history).filterMap Turn.announcement? =
      d.handedOut history ++ (d.performAll history).pending := by
  induction history generalizing d with
  | nil => simp [chronicle, handedOut]
  | cons op history ih =>
      have told : ((d.news op).map .announced).filterMap Turn.announcement? = d.news op := by
        simp [List.filterMap_map, Function.comp_def, Turn.announcement?]
      calc d.pending ++ (d.chronicle (op :: history)).filterMap Turn.announcement?
          = d.pending ++ d.news op ++
              ((d.perform op).1.chronicle history).filterMap Turn.announcement? := by
            simp [chronicle, List.filterMap_append, announcements_unannounced, told]
        _ = (d.perform op).2.handedOut ++ ((d.perform op).1.pending ++
              ((d.perform op).1.chronicle history).filterMap Turn.announcement?) := by
            rw [pending_append_news, List.append_assoc]
        _ = d.handedOut (op :: history) ++ (d.performAll (op :: history)).pending := by
            rw [ih, handedOut, performAll_cons, List.append_assoc]

/-- The chronicle of a new detector holds the transitions handed out and then those still queued,
each once and in their order. At every moment a replay of it gives the failed instances, every
announcement in it fits, and failing and coming alive alternate but for the removals. -/
theorem replay_chronicle (cluster : Cluster) (timers : HeartbeatTimers)
    (history : List DetectorOperation) :
    let d := start cluster timers
    let turns := d.chronicle history
    turns.filterMap Turn.announcement? = d.handedOut history ++ (d.performAll history).pending ∧
    (∀ past, past <+: history →
      d.chronicle past <+: turns ∧ replay ∅ (d.chronicle past) = (d.performAll past).failed) ∧
    (∀ before turn after, turns = before ++ turn :: after → turn.Fits (replay ∅ before)) ∧
    ∀ id, (.cleared :: turns.filter (·.concerns id)).IsChain (Turn.MayFollow id) := by
  intro d turns
  have recounts : Recounts ∅ turns (d.performAll history).failed := d.recounts_chronicle history
  refine ⟨d.announcements_chronicle history, ?_, ?_, fun id => recounts.isChain (by simp)⟩
  · rintro past ⟨future, rfl⟩
    refine ⟨?_, (d.recounts_chronicle past).replay_eq⟩
    simp only [turns, chronicle_append]
    exact List.prefix_append _ _
  · intro before turn after heq
    exact (heq ▸ recounts).fits

end Detector
end Vigil
