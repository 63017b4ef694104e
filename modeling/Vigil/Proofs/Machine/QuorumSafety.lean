import Vigil.Proofs.Detector.Outsiders
import Vigil.Proofs.Machine.Agreement
import Vigil.Proofs.Machine.Responses
import Vigil.Proofs.Membership

/-!
Who fails an instance. A failed instance has the votes of more than half as many reporters as there
are members, but a report is taken from anybody about anybody, so the reporters need not be members
and neither need the failed instance (`failed_on_the_word_of_outsiders`). The quorum is one of
members exactly where it survives without the outsiders, and it always is one where every accusation
came from a member and was about a member (`quorum_of_mem_failed`).
-/

namespace Vigil

namespace Machine

variable {m : Machine} {outlet : Outlet} {e : Envelope Signal} {q x id : InstanceId}

theorem mem_reportOf_handle (h : x ∈ (m.handle outlet e).1.detector.reportOf q) :
    x ∈ m.detector.reportOf q ∨ m.phase = .heartbeat ∧ m.detector.Accuses e q x := by
  have checked := m.detector.reportOf_checkMembers q
  change x ∈ (m.respond e).detector.reportOf q at h
  rcases m.respond_cases e with
    ⟨-, -, respond⟩ | ⟨-, -, respond⟩ | ⟨phase, respond⟩ <;> rw [respond] at h
  · exact .inl (checked ▸ h)
  · rw [Detector.reportOf_armTimers] at h
    exact .inl (checked ▸ h)
  · rcases Detector.mem_reportOf_respondInHeartbeat h with h | h
    · exact .inl (checked ▸ h)
    · refine .inr ⟨phase, ?_⟩
      simpa [Detector.Accuses, Detector.me] using h

/-- Whenever the message makes anybody suspect `x`, both are members. -/
def AccusesInside (m : Machine) (e : Envelope Signal) (x : InstanceId) : Prop :=
  m.phase = .heartbeat → ∀ q, m.detector.Accuses e q x →
    q ∈ m.detector.cluster.members ∧ x ∈ m.detector.cluster.members

theorem inside_handle (h : m.detector.Inside x) (ha : m.AccusesInside e x) :
    (m.handle outlet e).1.detector.Inside x := by
  intro r hr
  rw [cluster_handle]
  rcases mem_reportOf_handle hr with hr | ⟨hp, hr⟩
  · exact h r hr
  · exact ha hp r hr

/-! ### Managed histories -/

/-- The histories in which the machine is told of every change of the members at once, and of every
instance that has left that it has. -/
inductive Managed : List Stimulus → Prop
  | nil : Managed []
  | handle {past} (outlet : Outlet) (e : Envelope Signal) :
      Managed past → Managed (past ++ [.handle outlet e])
  | expire {past} (time : Nat) : Managed past → Managed (past ++ [.expire time])
  | join {past} (id : InstanceId) :
      Managed past → Managed (past ++ [.change (.join id), .sync])
  | leave {past} (id : InstanceId) :
      Managed past → Managed (past ++ [.change (.leave id), .depart id, .sync])
  | leave' {past} (id : InstanceId) :
      Managed past → Managed (past ++ [.change (.leave id), .sync, .depart id])

@[simp] theorem cluster_undergo_join (m : Machine) (id : InstanceId) :
    (m.undergo (.change (.join id))).detector.cluster = (m.detector.cluster.join id).1 := rfl

@[simp] theorem cluster_undergo_leave (m : Machine) (id : InstanceId) :
    (m.undergo (.change (.leave id))).detector.cluster = (m.detector.cluster.leave id).1 := rfl

@[simp] theorem reportOf_undergo_change (m : Machine) (c : ClusterChange) (r : InstanceId) :
    (m.undergo (.change c)).detector.reportOf r = m.detector.reportOf r := rfl

@[simp] theorem cluster_undergo_sync (m : Machine) :
    (m.undergo .sync).detector.cluster = m.detector.cluster :=
  m.detector.cluster_syncMembers

@[simp] theorem known_undergo_sync (m : Machine) :
    (m.undergo .sync).detector.known = m.detector.cluster.members :=
  m.detector.known_syncMembers

@[simp] theorem reportOf_undergo_sync (m : Machine) (r : InstanceId) :
    (m.undergo .sync).detector.reportOf r = m.detector.reportOf r :=
  (Detector.reportOf_congr m.detector.evidence_syncMembers r :)

@[simp] theorem cluster_undergo_depart (m : Machine) (id : InstanceId) :
    (m.undergo (.depart id)).detector.cluster = m.detector.cluster :=
  m.detector.cluster_depart id

@[simp] theorem known_undergo_depart (m : Machine) (id : InstanceId) :
    (m.undergo (.depart id)).detector.known = m.detector.cluster.members :=
  m.detector.known_depart id

@[simp] theorem mem_reportOf_undergo_depart {r : InstanceId} :
    x ∈ (m.undergo (.depart id)).detector.reportOf r ↔
      x ∈ m.detector.reportOf r ∧ r ≠ id ∧ x ≠ id :=
  Detector.mem_reportOf_depart

/-- The members are known, and listed once. -/
structure Orderly (m : Machine) : Prop where
  known : m.detector.known = m.detector.cluster.members
  nodup : m.detector.cluster.members.Nodup

/-- Neither the departed nor anything it has said is left, so suspicion stays inside. -/
theorem inside_of_departed (id : InstanceId) (h : m.detector.Inside x) {m' : Machine}
    (members : m'.detector.cluster.members = m.detector.cluster.members.filter (· != id))
    (reports : ∀ r, x ∈ m'.detector.reportOf r → x ∈ m.detector.reportOf r ∧ r ≠ id ∧ x ≠ id) :
    m'.detector.Inside x := by
  intro r hr
  obtain ⟨hr, hid, hx⟩ := reports r hr
  obtain ⟨hrm, hxm⟩ := h r hr
  rw [members]
  exact ⟨List.mem_filter.mpr ⟨hrm, by simpa using hid⟩,
    List.mem_filter.mpr ⟨hxm, by simpa using hx⟩⟩

section Start

variable (me : InstanceId) (members : List InstanceId) (timers : HeartbeatTimers)

/-- A machine in a cluster with the given members, about which nothing has happened yet. -/
abbrev freshIn : Machine := fresh (.ofMembers me members) timers

theorem orderly_undergoAll {history : List Stimulus} (hm : Managed history) :
    ((freshIn me members timers).undergoAll history).Orderly := by
  induction hm with
  | nil =>
      refine ⟨rfl, ?_⟩
      have h := Cluster.nodup_seen members
      rwa [← Cluster.members_ofMembers me] at h
  | handle outlet e _ ih =>
      rw [undergoAll_append]
      refine ⟨?_, ?_⟩
      · exact (known_handle _ outlet e).trans
          (congrArg Cluster.members (cluster_handle _ outlet e).symm)
      · exact (cluster_handle _ outlet e).symm ▸ ih.nodup
  | expire time _ ih =>
      rw [undergoAll_append]
      exact ⟨ih.known, ih.nodup⟩
  | join id _ ih =>
      rw [undergoAll_append]
      exact ⟨by simp [undergoAll], by simpa [undergoAll] using Cluster.nodup_join ih.nodup id⟩
  | leave id _ ih | leave' id _ ih =>
      rw [undergoAll_append]
      exact ⟨by simp [undergoAll], by simpa [undergoAll] using ih.nodup.filter (· != id)⟩

theorem inside_undergoAll {history : List Stimulus} (hm : Managed history) {x : InstanceId}
    (inside : ∀ past outlet e, past ++ [.handle outlet e] <+: history →
      ((freshIn me members timers).undergoAll past).AccusesInside e x) :
    ((freshIn me members timers).undergoAll history).detector.Inside x := by
  induction hm with
  | nil => exact fun r hr => absurd hr (SortedSet.not_mem_empty x)
  | handle outlet e _ ih =>
      rw [undergoAll_append]
      refine inside_handle (ih fun past outlet e hp => ?_) (inside _ outlet e (List.prefix_refl _))
      exact inside past outlet e (hp.trans (List.prefix_append _ _))
  | expire time _ ih =>
      rw [undergoAll_append]
      exact ih fun past outlet e hp => inside past outlet e (hp.trans (List.prefix_append _ _))
  | join id _ ih =>
      rw [undergoAll_append]
      intro r hr
      obtain ⟨hrm, hxm⟩ := ih (fun past outlet e hp => inside past outlet e
        (hp.trans (List.prefix_append _ _))) r (by simpa [undergoAll] using hr)
      have grown {a : InstanceId} (c : Cluster) (ha : a ∈ c.members) :
          a ∈ (c.join id).1.members := by
        rw [Cluster.members_join]
        split
        · exact ha
        · exact List.mem_append_left _ ha
      simpa [undergoAll] using ⟨grown _ hrm, grown _ hxm⟩
  | leave id _ ih | leave' id _ ih =>
      rw [undergoAll_append]
      refine inside_of_departed id (ih fun past outlet e hp => inside past outlet e
        (hp.trans (List.prefix_append _ _))) ?_ fun r hr => ?_
      · simp [undergoAll]
      · simpa [undergoAll] using hr

/-- Whoever is failed has the votes of more than half as many reporters as there are members. It is
a member that more than half of the members suspect exactly if it is a member and the votes reach
without those of outsiders, and always if members alone have accused it while it was a member. -/
theorem quorum_of_mem_failed {history : List Stimulus} (hm : Managed history) {x : InstanceId}
    (hx : x ∈ ((freshIn me members timers).undergoAll history).detector.failed) :
    let d := ((freshIn me members timers).undergoAll history).detector
    let justified := x ∈ d.cluster.members ∧ d.cluster.members.length < 2 * d.memberVotes x
    d.cluster.members.length < 2 * d.votes x ∧
    (justified ↔
      x ∈ d.cluster.members ∧ d.cluster.members.length < 2 * (d.votes x - d.outsiderVotes x)) ∧
    ((∀ past outlet e, past ++ [.handle outlet e] <+: history →
        ((freshIn me members timers).undergoAll past).AccusesInside e x) → justified) := by
  intro d justified
  have orderly := orderly_undergoAll me members timers hm
  have quorum : d.cluster.members.length < 2 * d.votes x := by
    have sound := sound_undergoAll (.ofMembers me members) timers history x hx
    rw [orderly.known] at sound
    have bound := Nat.div_lt_iff_lt_mul (y := d.votes x) Nat.two_pos |>.mp sound
    rwa [Nat.mul_comm] at bound
  have votes : d.votes x - d.outsiderVotes x = d.memberVotes x := by
    rw [Detector.votes_eq_add orderly.nodup, Nat.add_sub_cancel]
  refine ⟨quorum, by rw [votes], fun inside => ?_⟩
  have hin := inside_undergoAll me members timers hm inside
  obtain ⟨r, hr⟩ := Detector.votes_pos_iff.mp (show 0 < d.votes x by omega)
  refine ⟨(hin r hr).2, ?_⟩
  rwa [hin.memberVotes_eq orderly.nodup]

end Start

/-- The second and the third of three members do not hear from each other, and the first does not
hear from the third. -/
def silentThird : List Stimulus :=
  [.internal .join, .internal (.timedOut 3),
    (Envelope.internal (.suspicions (.ofList [3]))).setHeader Header.sender "2"].map
      (.handle .taking)

/-- Of four instances the third and the fourth leave, and reports of theirs about the second arrive
late. -/
def lateReports : List Stimulus :=
  [.handle .taking (.internal .join),
    .change (.leave 3), .depart 3, .sync, .change (.leave 4), .depart 4, .sync] ++
  ["3", "4"].map fun sender =>
    .handle .taking ((Envelope.internal (.suspicions (.ofList [2]))).setHeader Header.sender sender)

theorem managed_handled (l : List (Envelope Signal)) : Managed (l.map (.handle .taking)) := by
  induction l using List.reverseRecOn with
  | nil => exact .nil
  | append_singleton l e ih =>
      rw [List.map_append]
      exact ih.handle .taking e

/-- Whoever accuses the third is one of the three. -/
theorem accusesInside_silentThird (past : List Stimulus) (outlet : Outlet) (e : Envelope Signal)
    (hp : past ++ [.handle outlet e] <+: silentThird) :
    ((freshIn 1 [1, 2, 3] (.start (.fixed (.ofMillis 1000)))).undergoAll past).AccusesInside e
      3 := by
  obtain ⟨later, split⟩ := hp
  intro _ q accused
  rcases past with _ | ⟨_, _ | ⟨_, _ | ⟨_, past⟩⟩⟩
  · -- the instance joins, and nobody is accused
    obtain ⟨⟨-, rfl⟩, -⟩ := by simpa [silentThird] using split
    rcases accused.2 with ⟨content, -⟩ | ⟨_, content, -⟩ <;> cases content
  · -- the instance misses the third itself
    obtain ⟨rfl, ⟨-, rfl⟩, -⟩ := by simpa [silentThird] using split
    rcases accused.2 with ⟨-, member, rfl⟩ | ⟨_, content, -⟩
    · exact ⟨by decide +kernel, member⟩
    · cases content
  · -- the second says that it does
    obtain ⟨rfl, rfl, ⟨-, rfl⟩, -⟩ := by simpa [silentThird] using split
    rcases accused.2 with ⟨content, -⟩ | ⟨_, -, -, sender⟩
    · cases content
    · have named : Except.ok 2 = Except.ok q := .trans (by decide +kernel) sender
      cases named
      exact ⟨by decide +kernel, by decide +kernel⟩
  · simp [silentThird] at split

/-- The third of the three is failed, nobody but members has accused it, and two of the three
suspect it. -/
theorem quorum_of_silent_third :
    let start := freshIn 1 [1, 2, 3] (.start (.fixed (.ofMillis 1000)))
    let d := (start.undergoAll silentThird).detector
    Managed silentThird ∧ 3 ∈ d.failed ∧
      (∀ past outlet e, past ++ [.handle outlet e] <+: silentThird →
        (start.undergoAll past).AccusesInside e 3) ∧
      (3 ∈ d.cluster.members ∧ d.cluster.members.length < 2 * d.memberVotes 3) ∧
      d.cluster.members.length < 2 * (d.votes 3 - d.outsiderVotes 3) := by
  have managed : Managed silentThird := managed_handled _
  have failed : 3 ∈ ((freshIn 1 [1, 2, 3] (.start (.fixed (.ofMillis 1000)))).undergoAll
    silentThird).detector.failed := by decide +kernel
  have inside := accusesInside_silentThird
  obtain ⟨-, exact_quorum, among_members⟩ := quorum_of_mem_failed 1 [1, 2, 3] _ managed failed
  have justified := among_members inside
  exact ⟨managed, failed, inside, justified, (exact_quorum.mp justified).2⟩

/-- The second of the two that are left is failed, and no member suspects it. -/
theorem failed_on_the_word_of_outsiders :
    let d := ((freshIn 1 [1, 2, 3, 4] (.start (.fixed (.ofMillis 1000)))).undergoAll
      lateReports).detector
    Managed lateReports ∧ 2 ∈ d.failed ∧ d.memberVotes 2 = 0 := by
  refine ⟨?_, by decide +kernel, by decide +kernel⟩
  have joined : Managed [.handle .taking (.internal .join)] := Managed.nil.handle .taking _
  exact (((joined.leave 3).leave 4).handle .taking _).handle .taking _

end Machine
end Vigil
