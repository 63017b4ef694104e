import Vigil.Proofs.Detector.Views
import Vigil.Proofs.Membership
import Vigil.Proofs.Node.Pump

/-!
How a node begins, what it forgets of a member that leaves, and how it ends. A node that has joined
attends, with all its timers armed and no report of anybody; it goes on attending when another
member leaves; and once it leaves itself it has retired.
-/

namespace Vigil

/-- A node that has left: it takes no part, waits for nothing and has nothing to say. -/
structure Node.Retired (n : Node) : Prop where
  phase_eq : n.phase = .start
  unarmed : n.detector.timers.pending = []
  unread : n.inbox = ∅
  unsent : n.outbox = ∅

namespace Node

variable {n : Node} {r x q y : InstanceId} {members : List InstanceId} {k : TimerKey}
  {timing : HeartbeatTiming} {now : Nat}

/-! ### Beginning -/

section Join

variable (x members timing now)

/-- The detector of a node about to join. -/
def newDetector : Detector :=
  .start (.ofMembers x members) { (LogicalTimers.start timing.delay : HeartbeatTimers) with now }

theorem respond_join :
    (Node.start x members timing now).machine.respond (.internal .join) =
      ⟨.heartbeat, (newDetector x members timing now).armTimers (.internal .join), [], []⟩ := by
  have known : (newDetector x members timing now).checkMembers.1 =
      newDetector x members timing now := by
    simp [Detector.checkMembers, newDetector, Detector.start]
  have machine : (Node.start x members timing now).machine =
      .start (newDetector x members timing now) := rfl
  rw [machine, Machine.respond]
  simp only [Machine.start, known]
  exact Detector.respondAtStart_join rfl

theorem detector_join :
    (Node.start x members timing now).join.node.detector =
      ((newDetector x members timing now).armTimers (.internal .join)).takePending.1 := by
  change ((Node.start x members timing now).machine.respond
    (.internal .join)).detector.takePending.1 = _
  rw [respond_join]

/-- Nobody is failed or alive again when a node joins. -/
theorem transitions_join : (Node.start x members timing now).join.transitions = [] := by
  change ((Node.start x members timing now).machine.respond
    (.internal .join)).detector.takePending.2 = _
  obtain ⟨t, armed⟩ := (newDetector x members timing now).sameButTimers_armTimers (.internal .join)
  rw [respond_join, armed]
  rfl

theorem peers_newDetector :
    (newDetector x members timing now).cluster.peers = (Cluster.seen members).filter (· != x) := by
  simp [newDetector, Detector.start, Cluster.peers]

theorem reportOf_join (q : InstanceId) :
    (Node.start x members timing now).join.node.detector.reportOf q = ∅ := by
  rw [detector_join]
  exact Detector.reportOf_armTimers _ _ q

theorem failed_join : (Node.start x members timing now).join.node.failed = ∅ := by
  obtain ⟨t, armed⟩ := (newDetector x members timing now).sameButTimers_armTimers (.internal .join)
  rw [Node.failed, detector_join, armed]
  rfl

theorem attends_join (hx : x ∈ members) :
    (Node.start x members timing now).join.node.Attends x (Cluster.seen members) where
  phase_eq := rfl
  posted e he := absurd he List.not_mem_nil
  watches := by
    have empty (q : InstanceId) := reportOf_join x members timing now q
    rw [detector_join] at empty ⊢
    have cluster := (newDetector x members timing now).cluster_armTimers (.internal .join)
    have known := (newDetector x members timing now).known_armTimers (.internal .join)
    refine ⟨?_, Cluster.mem_seen.mpr hx, ?_, ?_, ?_, ?_, ?_, ?_⟩
    · exact (congrArg Cluster.me cluster).trans (Cluster.me_ofMembers x members)
    · exact (congrArg Cluster.members cluster).trans (Cluster.members_ofMembers x members)
    · exact known.trans (Cluster.members_ofMembers x members)
    · intro q y hy
      rw [empty q] at hy
      exact absurd hy (SortedSet.not_mem_empty y)
    · have armed := (newDetector x members timing now).sameButTimers_armTimers (.internal .join)
      exact armed.agrees_iff.mpr (Detector.agrees_start _ _ _)
    · exact Detector.distinct_armTimers List.nodup_nil
    · intro a ha
      rcases Detector.mem_pending_armTimers ha with ha | ⟨content, peer⟩
      · exact absurd ha List.not_mem_nil
      · rw [peers_newDetector, List.mem_filter, bne_iff_ne] at peer
        exact ⟨content, peer.1, peer.2⟩

theorem clock_join :
    (Node.start x members timing now).join.node.detector.timers.now = now ∧
      (Node.start x members timing now).join.node.detector.timers.delay = timing.delay := by
  rw [detector_join]
  exact Detector.clock_armTimers _ _

/-- All timers of a node that has joined run from then on. -/
theorem deadline?_join (hk : k.peer ∈ members) (hne : k.peer ≠ x) :
    (Node.start x members timing now).join.node.detector.timers.deadline? k =
      some (LogicalTimers.deadlineAfter now (timing.wait k)) := by
  have peer : k.peer ∈ (newDetector x members timing now).cluster.peers := by
    rw [peers_newDetector, List.mem_filter, Cluster.mem_seen, bne_iff_ne]
    exact ⟨hk, hne⟩
  have delay : (newDetector x members timing now).timers.delay = timing.delay := rfl
  rw [detector_join]
  refine (Detector.deadline?_armTimers delay).trans ?_
  rw [if_pos peer]
  rfl

end Join

/-! ### Going on without a member -/

/-- The node once its cluster has lost a member. -/
def without (n : Node) (x : InstanceId) : Node :=
  { n with machine.detector.cluster := (n.detector.cluster.leave x).1 }

theorem forget_node (n : Node) (x : InstanceId) :
    (n.forget x).1.node =
      if (n.detector.cluster.leave x).2 then
        { n.without x with
          machine := ((n.without x).machine.withDetector fun d => (d.depart x, ())).1 }
      else n.without x := by
  unfold forget
  cases left : (n.detector.cluster.leave x).2 <;> simp [left, without]

@[simp] theorem inbox_forget (n : Node) (x : InstanceId) :
    (n.forget x).1.node.inbox = n.inbox := by
  rw [forget_node]
  split <;> rfl

@[simp] theorem outbox_forget (n : Node) (x : InstanceId) :
    (n.forget x).1.node.outbox = n.outbox := by
  rw [forget_node]
  split <;> rfl

@[simp] theorem phase_forget (n : Node) (x : InstanceId) :
    (n.forget x).1.node.phase = n.phase := by
  rw [forget_node]
  split <;> rfl

theorem clock_forget (n : Node) (x : InstanceId) :
    (n.forget x).1.node.detector.timers.now = n.detector.timers.now ∧
      (n.forget x).1.node.detector.timers.delay = n.detector.timers.delay := by
  rw [forget_node]
  split
  · change ((n.without x).detector.depart x).timers.now = _ ∧
      ((n.without x).detector.depart x).timers.delay = _
    rw [Detector.timers_depart]
    exact ⟨rfl, rfl⟩
  · exact ⟨rfl, rfl⟩

theorem mem_reportOf_of_forget (h : y ∈ (n.forget x).1.node.detector.reportOf q) :
    y ∈ n.detector.reportOf q := by
  rw [forget_node] at h
  split at h
  · exact (Detector.mem_reportOf_depart.mp h).1
  · exact h

theorem pending_forget (n : Node) (x : InstanceId) :
    (n.forget x).1.node.detector.timers.pending.Sublist n.detector.timers.pending := by
  rw [forget_node]
  split
  · change ((n.without x).detector.depart x).timers.pending.Sublist _
    rw [Detector.timers_depart]
    exact List.filter_sublist.trans List.filter_sublist
  · exact List.Sublist.refl _

theorem announced_forget (taken : n.detector.pending = []) :
    (n.forget x).1.node.detector.pending = [] := by
  rw [forget_node]
  split
  · rfl
  · exact taken

theorem detector_forget (members_eq : n.detector.cluster.members = members) :
    (n.forget x).1.node.detector =
      if x ∈ members then ((n.without x).detector.depart x).takePending.1
      else (n.without x).detector := by
  have left : (n.detector.cluster.leave x).2 = decide (x ∈ members) := by
    rw [Cluster.leave_isMember, Cluster.isMember, members_eq]
    simp
  rw [forget_node, left]
  by_cases hx : x ∈ members
  · simp only [hx, decide_true, if_true]
    rfl
  · simp [hx]

section Informed

variable (h : n.detector.Informed r members)
include h

/-- Nothing is known any more of the one that has left, or suspected of it. -/
theorem mem_reportOf_forget :
    y ∈ (n.forget x).1.node.detector.reportOf q ↔
      y ∈ n.detector.reportOf q ∧ q ≠ x ∧ y ≠ x := by
  rw [detector_forget h.members_eq]
  split
  · exact Detector.mem_reportOf_depart
  · rename_i hx
    refine ⟨fun hy => ⟨hy, ?_⟩, And.left⟩
    obtain ⟨hq, hm, -⟩ := h.inside q y hy
    exact ⟨fun hc => hx (hc ▸ hq), fun hc => hx (hc ▸ hm)⟩

/-- Also a node that forgets itself goes on to know the members. -/
theorem informed_forget :
    (n.forget x).1.node.detector.Informed r (members.filter (· != x)) := by
  have cluster : (n.without x).detector.cluster = (n.detector.cluster.leave x).1 := rfl
  have members_left : (n.without x).detector.cluster.members = members.filter (· != x) := by
    rw [cluster, Cluster.members_leave, h.members_eq]
  have cluster_eq : (n.forget x).1.node.detector.cluster = (n.without x).detector.cluster := by
    rw [detector_forget h.members_eq]
    split
    · exact Detector.cluster_depart _ x
    · rfl
  have unchanged (hx : x ∉ members) : members.filter (· != x) = members :=
    List.filter_eq_self.mpr fun a ha => by
      rw [bne_iff_ne]
      exact fun hc => hx (hc ▸ ha)
  constructor
  · rw [Detector.me, cluster_eq, cluster]
    exact h.me_eq
  · rw [cluster_eq, members_left]
  · rw [detector_forget h.members_eq]
    split
    · exact (Detector.known_depart _ x).trans members_left
    · rename_i hx
      rw [unchanged hx]
      exact h.known_eq
  · intro q y hy
    obtain ⟨hy, hq, hyx⟩ := (mem_reportOf_forget h).mp hy
    obtain ⟨hqm, hym, hyr⟩ := h.inside q y hy
    simp [hqm, hq, hym, hyx, hyr]
  · rw [detector_forget h.members_eq]
    split
    · rw [← members_left]
      exact Detector.agrees_depart (n.without x).detector x
    · rename_i hx
      rw [unchanged hx]
      exact h.agrees

/-- Leaving changes nothing but the timers. -/
theorem sameButTimers_leave :
    Detector.SameButTimers n.detector (n.machine.respond (.internal .leave)).detector := by
  have known : n.machine.detector.checkMembers.1 = n.detector := h.checkMembers
  simp only [Machine.respond, known]
  cases n.machine.phase with
  | start =>
      dsimp only
      rw [Detector.respondAtStart_of_ne_join (by simp [Envelope.internal])]
      exact ⟨n.detector.timers, rfl⟩
  | heartbeat => exact n.detector.sameButTimers_disarmTimers

theorem informed_leave : n.leave.node.detector.Informed r members :=
  ((sameButTimers_leave h).informed h).takePending

end Informed

section Forget

variable (h : n.Attends r members)
include h

/-- The other timers run on. -/
theorem deadline?_forget (hk : k.peer ≠ x) :
    (n.forget x).1.node.detector.timers.deadline? k = n.detector.timers.deadline? k := by
  rw [detector_forget h.watches.members_eq]
  split
  · change ((n.without x).detector.depart x).timers.deadline? k = _
    rw [Detector.timers_depart]
    unfold LogicalTimers.deadline?
    rw [LogicalTimers.find?_without, LogicalTimers.find?_without]
    cases k with
    | receive p | send p =>
        have other : p ≠ x := hk
        simp [other]
        rfl
  · rfl

theorem peer_ne_of_forget {a : Armed TimerKey (Envelope Signal)}
    (ha : a ∈ (n.forget x).1.node.detector.timers.pending) : a.key.peer ≠ x := by
  rintro rfl
  have member := (h.watches.armed a ((n.pending_forget _).mem ha)).2.1
  rw [detector_forget h.watches.members_eq, if_pos member] at ha
  change a ∈ ((n.without a.key.peer).detector.depart a.key.peer).timers.pending at ha
  rw [Detector.timers_depart] at ha
  obtain ⟨rest, send⟩ := List.mem_filter.mp ha
  have receive := (List.mem_filter.mp rest).2
  cases hk : a.key <;> simp [hk, TimerKey.peer] at send receive

theorem Attends.forget (hne : r ≠ x) (unsent : n.outbox = ∅) :
    (n.forget x).1.node.Attends r (members.filter (· != x)) where
  phase_eq := (n.phase_forget x).trans h.phase_eq
  posted e he := by
    rw [outbox_forget, unsent] at he
    exact absurd he List.not_mem_nil
  watches := by
    have watches := h.watches
    have informed := informed_forget (x := x) watches.informed
    refine ⟨informed.me_eq, ?_, informed.members_eq, informed.known_eq, informed.inside,
      informed.agrees, ?_, ?_⟩
    · exact List.mem_filter.mpr ⟨watches.self, by simpa using hne⟩
    · exact watches.distinct.sublist ((n.pending_forget x).map Armed.key)
    · intro a ha
      obtain ⟨content, member, other⟩ := watches.armed a ((n.pending_forget x).mem ha)
      refine ⟨content, List.mem_filter.mpr ⟨member, ?_⟩, other⟩
      rw [bne_iff_ne]
      exact peer_ne_of_forget h ha

end Forget

/-! ### Ending -/

theorem Attends.leave (h : n.Attends r members) (unread : n.inbox = ∅) (unsent : n.outbox = ∅) :
    n.leave.node.Retired := by
  have respond :
      n.machine.respond (.internal .leave) = ⟨.start, n.detector.disarmTimers, [], []⟩ := by
    rw [respond_attending h]
    rfl
  have machine : n.leave.node.machine.phase = (n.machine.respond (.internal .leave)).phase ∧
      n.leave.node.detector = (n.machine.respond (.internal .leave)).detector.takePending.1 :=
    ⟨rfl, rfl⟩
  rw [respond] at machine
  refine ⟨machine.1, ?_, unread, ?_⟩
  · refine List.eq_nil_iff_forall_not_mem.mpr fun a ha => ?_
    rw [machine.2] at ha
    obtain ⟨ha, hp⟩ := Detector.mem_pending_disarmTimers.mp ha
    obtain ⟨-, member, other⟩ := h.watches.armed a ha
    refine hp (List.mem_filter.mpr ⟨h.watches.members_eq ▸ member, ?_⟩)
    rw [bne_iff_ne]
    exact fun hc => other (hc.trans h.watches.me_eq)
  · have outbox := outbox_handle (e := .internal .leave) h
    have silent : (n.detector.respondInHeartbeat (.internal .leave)).letters = [] := rfl
    rw [silent, unsent] at outbox
    exact congrArg Mailbox.mk outbox

theorem Retired.leave (h : n.Retired) : n.leave.node.Retired := by
  have phase : n.machine.phase = .start := h.phase_eq
  have respond : n.machine.respond (.internal .leave) =
      ⟨.start, n.detector.checkMembers.1, [], []⟩ := by
    simp only [Machine.respond, phase]
    exact Detector.respondAtStart_of_ne_join (by simp [Envelope.internal])
  have machine : n.leave.node.machine.phase = (n.machine.respond (.internal .leave)).phase ∧
      n.leave.node.detector = (n.machine.respond (.internal .leave)).detector.takePending.1 ∧
      n.leave.node.outbox.toList = n.outbox.toList ++ (Machine.hand Outlet.taking n.machine.me
        n.machine.sentCount (n.machine.respond (.internal .leave)).letters).map Handed.envelope :=
    ⟨rfl, rfl, rfl⟩
  rw [respond] at machine
  refine ⟨machine.1, ?_, h.unread, ?_⟩
  · rw [machine.2.1]
    change n.detector.checkMembers.1.timers.pending = []
    rw [Detector.timers_checkMembers]
    exact h.unarmed
  · have outbox := machine.2.2
    rw [h.unsent] at outbox
    exact congrArg Mailbox.mk outbox

theorem mem_reportOf_of_leave (h : y ∈ n.leave.node.detector.reportOf q) :
    y ∈ n.detector.reportOf q := by
  have checked := n.machine.detector.reportOf_checkMembers q
  change y ∈ (n.machine.respond (.internal .leave)).detector.reportOf q at h
  unfold Machine.respond at h
  cases hp : n.machine.phase with
  | start =>
      simp only [hp] at h
      rw [Detector.respondAtStart_of_ne_join (by simp [Envelope.internal])] at h
      exact checked ▸ h
  | heartbeat =>
      simp only [hp] at h
      rcases Detector.mem_reportOf_respondInHeartbeat h with h | ⟨-, ⟨h, -⟩ | ⟨t, h, -⟩⟩
      · exact checked ▸ h
      · cases h
      · cases h

theorem clock_leave (n : Node) :
    n.leave.node.detector.timers.now = n.detector.timers.now ∧
      n.leave.node.detector.timers.delay = n.detector.timers.delay := by
  have timers := n.detector.timers_checkMembers
  have same :
      n.leave.node.detector.timers = (n.machine.respond (.internal .leave)).detector.timers := rfl
  rw [same, Machine.respond]
  cases n.machine.phase with
  | start =>
      dsimp only
      rw [Detector.respondAtStart_of_ne_join (by simp [Envelope.internal])]
      exact ⟨congrArg LogicalTimers.now timers, congrArg LogicalTimers.delay timers⟩
  | heartbeat =>
      have respond : n.machine.detector.checkMembers.1.respondInHeartbeat (.internal .leave) =
          ⟨.start, n.machine.detector.checkMembers.1.disarmTimers, [], []⟩ := rfl
      dsimp only
      rw [respond]
      obtain ⟨now, delay⟩ := n.machine.detector.checkMembers.1.clock_disarmTimers
      exact ⟨now.trans (congrArg LogicalTimers.now timers),
        delay.trans (congrArg LogicalTimers.delay timers)⟩

theorem Retired.forget (h : n.Retired) (x : InstanceId) : (n.forget x).1.node.Retired where
  phase_eq := (n.phase_forget x).trans h.phase_eq
  unarmed := List.eq_nil_iff_forall_not_mem.mpr fun a ha => by
    have pending := (n.pending_forget x).mem ha
    rw [h.unarmed] at pending
    exact absurd pending List.not_mem_nil
  unread := (n.inbox_forget x).trans h.unread
  unsent := (n.outbox_forget x).trans h.unsent

end Node
end Vigil
