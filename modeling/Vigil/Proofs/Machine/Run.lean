import Vigil.Machine
import Vigil.Proofs.Detector.Operations

/-!
Runs of one machine, the cases in which a message may find it (`Machine.respond_cases`), and what the
message does to the failed instances of its detector: it makes the detector look again at the
instances it concerns, or work out all failures anew; only a join before taking part forgets them.
-/

namespace Vigil

/-- What can happen to a machine from outside. A tick of its timers is `expire`, followed by
handling the messages of the timers that expired. -/
inductive Stimulus where
  | handle (outlet : Outlet) (message : Envelope Signal)
  | expire (time : Nat)
  | change (c : ClusterChange)
  /-- The machine is told that its members have changed. -/
  | sync
  /-- The machine is told that an instance has left for good. -/
  | depart (id : InstanceId)

namespace Detector

/-- Two detectors that differ in their timers only. -/
def SameButTimers (d d' : Detector) : Prop := ∃ t, d' = { d with timers := t }

theorem sameButTimers_foldl {α : Type} {f : Detector → α → Detector}
    (h : ∀ d a, SameButTimers d (f d a)) (l : List α) (d : Detector) :
    SameButTimers d (l.foldl f d) := by
  induction l generalizing d with
  | nil => exact ⟨d.timers, rfl⟩
  | cons a l ih =>
      obtain ⟨t, ht⟩ := h d a
      obtain ⟨t', ht'⟩ := ih (f d a)
      exact ⟨t', by rw [List.foldl_cons, ht', ht]⟩

theorem sameButTimers_armTimers (d : Detector) (cause : Envelope Signal) :
    SameButTimers d (d.armTimers cause) :=
  sameButTimers_foldl (fun _ _ => ⟨_, rfl⟩) _ d

theorem sameButTimers_disarmTimers (d : Detector) : SameButTimers d d.disarmTimers :=
  sameButTimers_foldl (fun _ _ => ⟨_, rfl⟩) _ d

variable {d d' : Detector} {n : Nat}

theorem SameButTimers.cluster_eq (h : SameButTimers d d') : d'.cluster = d.cluster := by
  obtain ⟨t, rfl⟩ := h
  rfl

theorem SameButTimers.known_eq (h : SameButTimers d d') : d'.known = d.known := by
  obtain ⟨t, rfl⟩ := h
  rfl

theorem SameButTimers.reports_eq (h : SameButTimers d d') : d'.reports = d.reports := by
  obtain ⟨t, rfl⟩ := h
  rfl

@[simp] theorem cluster_armTimers (d : Detector) (cause : Envelope Signal) :
    (d.armTimers cause).cluster = d.cluster :=
  (d.sameButTimers_armTimers cause).cluster_eq

@[simp] theorem known_armTimers (d : Detector) (cause : Envelope Signal) :
    (d.armTimers cause).known = d.known :=
  (d.sameButTimers_armTimers cause).known_eq

@[simp] theorem cluster_disarmTimers (d : Detector) : d.disarmTimers.cluster = d.cluster :=
  d.sameButTimers_disarmTimers.cluster_eq

@[simp] theorem known_disarmTimers (d : Detector) : d.disarmTimers.known = d.known :=
  d.sameButTimers_disarmTimers.known_eq

theorem SameButTimers.reevaluates (h : SameButTimers d d') : Reevaluates n d d' := by
  obtain ⟨t, rfl⟩ := h
  exact fun x => .inr (.inr ⟨rfl, Iff.rfl⟩)

theorem SameButTimers.agrees_iff (h : SameButTimers d d') : d'.Agrees n ↔ d.Agrees n := by
  obtain ⟨t, rfl⟩ := h
  rfl

theorem SameButTimers.sound_iff (h : SameButTimers d d') : d'.Sound n ↔ d.Sound n := by
  obtain ⟨t, rfl⟩ := h
  rfl

/-! ### One message -/

theorem cluster_respondInHeartbeat (d : Detector) (e : Envelope Signal) :
    (d.respondInHeartbeat e).detector.cluster = d.cluster := by
  unfold respondInHeartbeat
  split
  · rfl
  · exact d.cluster_disarmTimers
  · split
    · rfl
    · simp [expectHeartbeat, setTimer]
  · split
    · simp [expectHeartbeat, setTimer]
    · simp
  · split <;> rfl
  · split <;> rfl
  · split
    · simp
    · rfl

theorem known_respondInHeartbeat (e : Envelope Signal) (h : d.known = d.cluster.members) :
    (d.respondInHeartbeat e).detector.known = d.cluster.members := by
  unfold respondInHeartbeat
  split
  · exact h
  · simpa using h
  · split
    · exact h
    · simp [expectHeartbeat, setTimer, h]
  · split
    · simp [expectHeartbeat, setTimer, h]
    · simp
  · split <;> exact h
  · split <;> exact h
  · split
    · simp [h]
    · exact h

/-- While taking part, a message leads to another look at what it concerns, or at everything. -/
theorem reevaluates_respondInHeartbeat (d : Detector) (e : Envelope Signal) :
    Reevaluates d.cluster.members.length d (d.respondInHeartbeat e).detector ∨
      (d.respondInHeartbeat e).detector.Agrees d.cluster.members.length := by
  have same (d : Detector) (n : Nat) : Reevaluates n d d := fun _ => .inr (.inr ⟨rfl, Iff.rfl⟩)
  unfold respondInHeartbeat
  split
  · exact .inl (same d _)
  · exact .inl d.sameButTimers_disarmTimers.reevaluates
  · split
    · exact .inl (same d _)
    · exact .inl (d.reevaluates_heardFrom _)
  · split
    · exact .inl (d.reevaluates_suspect _)
    · exact .inr (d.agrees_depart _)
  · split
    · exact .inl (same d _)
    · exact .inl (same d _)
  · split
    · exact .inl (same d _)
    · exact .inl (same d _)
  · split
    · exact .inl (d.reevaluates_receiveReport _ _)
    · exact .inl (same d _)

theorem respondAtStart_of_ne_join {e : Envelope Signal} (h : e.content ≠ .join) :
    d.respondAtStart e = ⟨.start, d, [], []⟩ := by
  unfold respondAtStart
  split
  · rename_i hj
    exact absurd hj h
  · rfl

theorem respondAtStart_join {e : Envelope Signal} (h : e.content = .join) :
    d.respondAtStart e = ⟨.heartbeat, d.forgetFailures.armTimers e, [], []⟩ := by
  simp [respondAtStart, h]

theorem reportOf_armTimers (d : Detector) (cause : Envelope Signal) (r : InstanceId) :
    (d.armTimers cause).reportOf r = d.reportOf r := by
  obtain ⟨t, ht⟩ := d.sameButTimers_armTimers cause
  rw [ht]
  rfl

end Detector

namespace Machine

/-- A message comes to a machine that takes no part and goes on so, to one that joins, or to one
that exchanges heartbeats. -/
theorem respond_cases (m : Machine) (e : Envelope Signal) :
    m.phase = .start ∧ e.content ≠ .join ∧
        m.respond e = ⟨.start, m.detector.checkMembers.1, [], []⟩ ∨
      m.phase = .start ∧ e.content = .join ∧
        m.respond e =
          ⟨.heartbeat, m.detector.checkMembers.1.forgetFailures.armTimers e, [], []⟩ ∨
      m.phase = .heartbeat ∧ m.respond e = m.detector.checkMembers.1.respondInHeartbeat e := by
  unfold respond
  cases m.phase with
  | start =>
      by_cases join : e.content = .join
      · exact .inr (.inl ⟨rfl, join, Detector.respondAtStart_join join⟩)
      · exact .inl ⟨rfl, join, Detector.respondAtStart_of_ne_join join⟩
  | heartbeat => exact .inr (.inr ⟨rfl, rfl⟩)

def undergo (m : Machine) : Stimulus → Machine
  | .handle outlet e => (m.handle outlet e).1
  | .expire time => (m.expire time).1
  | .change c => { m with detector := (m.detector.changeCluster c).1 }
  | .sync => (m.withDetector fun d => (d.syncMembers, ())).1
  | .depart id => (m.withDetector fun d => (d.depart id, ())).1

/-- What becomes of a machine to which things happen one after the other. -/
def undergoAll (m : Machine) (history : List Stimulus) : Machine := history.foldl undergo m

@[simp] theorem undergoAll_append (m : Machine) (past future : List Stimulus) :
    m.undergoAll (past ++ future) = (m.undergoAll past).undergoAll future :=
  List.foldl_append

/-- What every single thing that happens keeps, a whole history keeps. -/
theorem undergoAll_induction {P : Machine → Prop} {m : Machine} (start : P m)
    (step : ∀ m s, P m → P (m.undergo s)) (history : List Stimulus) :
    P (m.undergoAll history) := by
  induction history generalizing m with
  | nil => exact start
  | cons s history ih => exact ih (step m s start)

def handedOn (m : Machine) : Stimulus → List Handed
  | .handle outlet e => (m.handle outlet e).2.handed
  | _ => []

/-- What the machine hands to its outlets while things happen one after the other. -/
def handedAll (m : Machine) : List Stimulus → List Handed
  | [] => []
  | s :: ss => m.handedOn s ++ (m.undergo s).handedAll ss

theorem handedAll_append (m : Machine) (past future : List Stimulus) :
    m.handedAll (past ++ future) = m.handedAll past ++ (m.undergoAll past).handedAll future := by
  induction past generalizing m with
  | nil => rfl
  | cons s past ih => simp [handedAll, undergoAll, ih]

/-- The stimuli of messages that come one after the other. -/
def inTurn (outlet : Outlet) (es : List (Envelope Signal)) : List Stimulus :=
  es.map (.handle outlet)

theorem inTurn_append (outlet : Outlet) (es es' : List (Envelope Signal)) :
    inTurn outlet (es ++ es') = inTurn outlet es ++ inTurn outlet es' :=
  List.map_append

/-- Handle messages one after the other; the answer lists the transitions. -/
def handleEach (outlet : Outlet) (m : Machine) : List (Envelope Signal) → Machine × List Transition
  | [] => (m, [])
  | e :: es =>
    let (m, o) := m.handle outlet e
    let (m, ts) := m.handleEach outlet es
    (m, o.transitions ++ ts)

theorem handleEach_append {outlet : Outlet} (m : Machine) (es es' : List (Envelope Signal)) :
    m.handleEach outlet (es ++ es') =
      (((m.handleEach outlet es).1.handleEach outlet es').1,
        (m.handleEach outlet es).2 ++ ((m.handleEach outlet es).1.handleEach outlet es').2) := by
  induction es generalizing m with
  | nil => rfl
  | cons e es ih => simp [handleEach, ih]

theorem handleEach_eq_undergoAll (m : Machine) (outlet : Outlet) (es : List (Envelope Signal)) :
    (m.handleEach outlet es).1 = m.undergoAll (inTurn outlet es) := by
  induction es generalizing m with
  | nil => rfl
  | cons e es ih => exact ih _

end Machine
end Vigil
