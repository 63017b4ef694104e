import Mathlib.Data.List.Infix
import Mathlib.Data.List.Nodup
import Vigil.Proofs.Detector.Upkeep

/-!
Checking the members late. The detector remembers for which members it last worked out the failures,
and a check that finds the same members does nothing. In between, though, it judges by the members of
the moment, so the check is enough exactly if the failed instances are those with a quorum of the
members remembered (`agrees_known_iff`). An operation keeps them so unless it judges an instance on
which the two quorums differ (`agrees_perform_iff`), and so do all operations after the failures have
been worked out anew (`settles_iff`).
-/

namespace Vigil

namespace Cluster

/-- What becomes of a cluster after several changes. -/
def applyAll (c : Cluster) (changes : List ClusterChange) : Cluster :=
  changes.foldl (fun c change => (c.apply change).1) c

theorem nodup_apply {c : Cluster} (h : c.members.Nodup) (change : ClusterChange) :
    (c.apply change).1.members.Nodup := by
  cases change with
  | join id => exact nodup_join h id
  | leave id => exact h.filter _
  | elect _ _ | unelect _ => exact h

theorem members_applyAll_leave (c : Cluster) (ids : List InstanceId) :
    (c.applyAll (ids.map .leave)).members = c.members.filter fun id => decide (id ∉ ids) := by
  induction ids generalizing c with
  | nil => simp [applyAll]
  | cons id ids ih =>
      have first := ih (c.leave id).1
      rw [members_leave, List.filter_filter] at first
      refine first.trans (List.filter_congr fun x _ => ?_)
      by_cases same : x = id <;> simp [same]

theorem members_applyAll_join (c : Cluster) {ids : List InstanceId} (distinct : ids.Nodup)
    (new : ∀ id ∈ ids, id ∉ c.members) :
    (c.applyAll (ids.map .join)).members = c.members ++ ids := by
  induction ids generalizing c with
  | nil => simp [applyAll]
  | cons id ids ih =>
      obtain ⟨absent, distinct⟩ := List.nodup_cons.mp distinct
      obtain ⟨first, new⟩ := List.forall_mem_cons.mp new
      have joined : (c.join id).1.members = c.members ++ [id] := by
        rw [members_join, if_neg first]
      have later := ih (c.join id).1 distinct fun x hx => by
        rw [joined, List.mem_append, List.mem_singleton]
        rintro (member | rfl)
        · exact new x hx member
        · exact absent hx
      rw [joined, List.append_assoc] at later
      exact later

/-- Members can change into any others: all leave, and then the others join. -/
theorem exists_members_applyAll (c : Cluster) {members : List InstanceId}
    (distinct : members.Nodup) : ∃ changes, (c.applyAll changes).members = members := by
  refine ⟨c.members.map .leave ++ members.map .join, ?_⟩
  have empty : (c.applyAll (c.members.map .leave)).members = [] := by
    rw [members_applyAll_leave, List.filter_eq_nil_iff]
    intro id hid
    simpa using hid
  have joined := members_applyAll_join (c.applyAll (c.members.map .leave)) distinct fun id _ => by
    simp [empty]
  rw [empty, List.nil_append] at joined
  rw [applyAll, List.foldl_append]
  exact joined

end Cluster

namespace Detector

variable {d d' : Detector} {op : DetectorOperation} {id : InstanceId}

/-! ### What the check can see -/

/-- The failed instances are those that are failed by quorum. -/
def UpToDate (d : Detector) : Prop := ∀ id, id ∈ d.failed ↔ d.isFailed id = true

theorem performAll_changes (d : Detector) (changes : List ClusterChange) :
    d.performAll (changes.map .changeCluster) =
      { d with cluster := d.cluster.applyAll changes } := by
  induction changes generalizing d with
  | nil => rfl
  | cons change changes ih => exact ih _

theorem upToDate_checkMembers_of_moved (moved : d.checkMembers.2 = true) :
    d.checkMembers.1.UpToDate := by
  unfold checkMembers at moved ⊢
  split
  · rename_i same
    rw [if_pos same] at moved
    cases moved
  · exact agrees_members_iff.mp (d.cluster_syncMembers.symm ▸ d.agrees_syncMembers)

/-- A check brings the failed instances up to date, whatever becomes of the cluster before it, if
and only if they are those with a quorum of the members remembered. -/
theorem agrees_known_iff (listed : d.known.Nodup) :
    (∀ changes : List ClusterChange,
        (d.performAll (changes.map .changeCluster)).checkMembers.1.UpToDate) ↔
      d.Agrees d.known.length := by
  constructor
  · intro settles
    obtain ⟨changes, back⟩ := d.cluster.exists_members_applyAll listed
    have settled := settles changes
    rw [performAll_changes] at settled
    have unchanged :
        { d with cluster := d.cluster.applyAll changes }.checkMembers.1 =
          { d with cluster := d.cluster.applyAll changes } := by
      simp only [checkMembers, back, if_pos]
    rw [unchanged] at settled
    have agrees := agrees_members_iff.mpr settled
    rwa [back] at agrees
  · intro agrees changes
    rw [performAll_changes]
    refine agrees_members_iff.mp ?_
    rw [cluster_checkMembers]
    exact agrees_checkMembers (d := { d with cluster := d.cluster.applyAll changes }) agrees

/-! ### One operation -/

/-- The operation may make the detector take `x` for failed. -/
def Indicts (d : Detector) (x : InstanceId) : DetectorOperation → Prop
  | .suspect id => x = id ∧ id ≠ d.me
  | .receiveReport _ s => x ∈ s.erase d.me
  | _ => False

/-- The operation may make the detector take `x` for alive again. -/
def Acquits (d : Detector) (x : InstanceId) : DetectorOperation → Prop
  | .heardFrom id => x = id
  | .receiveReport q s => x ∈ d.reportOf q ∧ x ∉ s.erase d.me
  | _ => False

/-- The operation looks at an instance that may become failed or alive by it, and a quorum of the
members remembered would decide otherwise than one of the present members. -/
def Misjudges (d : Detector) (op : DetectorOperation) : Prop :=
  ∃ x, (d.Indicts x op ∧ x ∉ d.failed ∨ d.Acquits x op ∧ x ∈ d.failed) ∧
    ¬ ((d.perform op).1.isFailed x = true ↔ d.known.length / 2 < (d.perform op).1.votes x)

theorem not_misjudges_of_same_half (h : d.known.length / 2 = d.cluster.members.length / 2)
    (own : op.IsOwn) : ¬ d.Misjudges op := by
  rintro ⟨x, -, differ⟩
  rw [isFailed_iff, d.cluster_perform own, h] at differ
  exact differ Iff.rfl

/-- Judging by a quorum of `n` keeps agreement with a quorum of `k` exactly where the two do not
differ about who may become failed or alive. -/
theorem agrees_judged_iff {n k : Nat} {indicted acquitted : InstanceId → Prop}
    (agrees : d.Agrees k) (judges : Judges n indicted acquitted d d') :
    d'.Agrees k ↔ ∀ x, indicted x ∧ x ∉ d.failed ∨ acquitted x ∧ x ∈ d.failed →
      (n / 2 < d'.votes x ↔ k / 2 < d'.votes x) := by
  refine forall_congr' fun x => ?_
  have before := agrees x
  rcases judges x with ⟨hi, ha, votes, failed⟩ | ⟨ha, hi, votes, failed⟩ | ⟨hi, ha, votes, failed⟩
  · simp only [hi, ha, true_and, false_and, or_false, failed]
    by_cases already : x ∈ d.failed
    · have still : k / 2 < d'.votes x := Nat.lt_of_lt_of_le (before.mp already) votes
      simp [already, still]
    · simp [already]
  · simp only [hi, ha, true_and, false_and, false_or, failed]
    by_cases already : x ∈ d.failed
    · simp [already]
    · have still : ¬ k / 2 < d'.votes x := fun quorum =>
        already (before.mpr (Nat.lt_of_lt_of_le quorum votes))
      simp [already, still]
  · simp [hi, ha, failed, before, votes]

/-- The operation works the failures out anew for the members it finds. -/
def WorksOut (d : Detector) : DetectorOperation → Prop
  | .syncMembers | .depart _ => True
  | .checkMembers => d.checkMembers.2 = true
  | _ => False

theorem agrees_of_worksOut (h : d.WorksOut op) :
    (d.perform op).1.Agrees (d.perform op).1.known.length := by
  cases op with
  | syncMembers =>
      change d.syncMembers.Agrees d.syncMembers.known.length
      rw [known_syncMembers]
      exact d.agrees_syncMembers
  | depart id =>
      change (d.depart id).Agrees (d.depart id).known.length
      rw [known_depart]
      exact d.agrees_depart id
  | checkMembers =>
      have settled := agrees_members_iff.mpr (upToDate_checkMembers_of_moved h)
      change d.checkMembers.1.Agrees d.checkMembers.1.known.length
      rwa [known_checkMembers, ← cluster_checkMembers]
  | forgetFailures | heardFrom _ | suspect _ | receiveReport _ _ | takePending | armTimers _
  | disarmTimers | setTimer _ _ | cancelTimer _ | changeCluster _ => exact h.elim

theorem agrees_iff_of_judges (agrees : d.Agrees d.known.length)
    (known : (d.perform op).1.known = d.known) (own : op.IsOwn)
    (judges : Judges d.cluster.members.length (d.Indicts · op) (d.Acquits · op) d
      (d.perform op).1) :
    (d.perform op).1.Agrees (d.perform op).1.known.length ↔ ¬ d.Misjudges op := by
  rw [known, agrees_judged_iff agrees judges, Misjudges, not_exists]
  refine forall_congr' fun x => ?_
  rw [isFailed_iff, d.cluster_perform own, not_and, not_not]

theorem agrees_iff_of_neutral (neutral : ∀ x, ¬ d.Indicts x op ∧ ¬ d.Acquits x op)
    (after : (d.perform op).1.Agrees (d.perform op).1.known.length) :
    (d.perform op).1.Agrees (d.perform op).1.known.length ↔ ¬ d.Misjudges op := by
  refine iff_of_true after ?_
  rintro ⟨x, indicts | acquits, -⟩
  · exact (neutral x).1 indicts.1
  · exact (neutral x).2 acquits.1

theorem SameButTimers.agrees_known {d' : Detector} (same : SameButTimers d d')
    (agrees : d.Agrees d.known.length) : d'.Agrees d'.known.length := by
  obtain ⟨t, rfl⟩ := same
  exact agrees

theorem agrees_perform_iff (agrees : d.Agrees d.known.length) (keeps : op ≠ .forgetFailures) :
    (d.perform op).1.Agrees (d.perform op).1.known.length ↔ ¬ d.Misjudges op := by
  cases op with
  | forgetFailures => exact absurd rfl keeps
  | heardFrom id =>
      exact agrees_iff_of_judges agrees (d.known_heardFrom id) (fun _ h => by cases h)
        (d.judges_heardFrom id)
  | suspect id =>
      exact agrees_iff_of_judges agrees (d.known_suspect id) (fun _ h => by cases h)
        (d.judges_suspect id)
  | receiveReport q s =>
      exact agrees_iff_of_judges agrees (d.known_receiveReport q s) (fun _ h => by cases h)
        (d.judges_receiveReport q s)
  | depart _ | syncMembers =>
      exact agrees_iff_of_neutral (fun _ => ⟨not_false, not_false⟩) (agrees_of_worksOut trivial)
  | checkMembers =>
      refine agrees_iff_of_neutral (fun _ => ⟨not_false, not_false⟩) ?_
      change d.checkMembers.1.Agrees d.checkMembers.1.known.length
      rw [known_checkMembers]
      exact agrees_checkMembers agrees
  | armTimers cause =>
      exact agrees_iff_of_neutral (fun _ => ⟨not_false, not_false⟩)
        ((d.sameButTimers_armTimers cause).agrees_known agrees)
  | disarmTimers =>
      exact agrees_iff_of_neutral (fun _ => ⟨not_false, not_false⟩)
        (d.sameButTimers_disarmTimers.agrees_known agrees)
  | takePending | setTimer _ _ | cancelTimer _ | changeCluster _ =>
      exact agrees_iff_of_neutral (fun _ => ⟨not_false, not_false⟩) agrees

/-! ### Runs -/

theorem listed_perform (members : d.cluster.members.Nodup) (known : d.known.Nodup)
    (op : DetectorOperation) :
    (d.perform op).1.cluster.members.Nodup ∧ (d.perform op).1.known.Nodup := by
  rcases op.isOwn_or with own | ⟨change, rfl⟩
  · rw [d.cluster_perform own]
    refine ⟨members, ?_⟩
    cases op with
    | changeCluster change => exact absurd rfl (own change)
    | heardFrom id => exact (d.known_heardFrom id).symm ▸ known
    | suspect id => exact (d.known_suspect id).symm ▸ known
    | receiveReport q s => exact (d.known_receiveReport q s).symm ▸ known
    | depart id => exact (d.known_depart id).symm ▸ members
    | syncMembers => exact d.known_syncMembers.symm ▸ members
    | checkMembers => exact d.known_checkMembers.symm ▸ members
    | armTimers cause => exact (d.known_armTimers cause).symm ▸ known
    | disarmTimers => exact d.known_disarmTimers.symm ▸ known
    | forgetFailures | takePending | setTimer _ _ | cancelTimer _ => exact known
  · exact ⟨Cluster.nodup_apply members change, known⟩

theorem listed_performAll (members : d.cluster.members.Nodup) (known : d.known.Nodup)
    (history : List DetectorOperation) :
    (d.performAll history).cluster.members.Nodup ∧ (d.performAll history).known.Nodup := by
  induction history using List.reverseRecOn with
  | nil => exact ⟨members, known⟩
  | append_singleton past op ih =>
      rw [performAll_concat]
      exact listed_perform ih.1 ih.2 op

theorem agrees_of_not_misjudges {history : List DetectorOperation}
    (agrees : d.Agrees d.known.length) (keeps : .forgetFailures ∉ history)
    (sound : ∀ past op, past ++ [op] <+: history → ¬ (d.performAll past).Misjudges op)
    {past : List DetectorOperation} (hp : past <+: history) :
    (d.performAll past).Agrees (d.performAll past).known.length := by
  induction past using List.reverseRecOn with
  | nil => exact agrees
  | append_singleton past op ih =>
      have before := ih ((List.prefix_append past [op]).trans hp)
      rw [performAll_concat]
      refine (agrees_perform_iff before ?_).mpr (sound past op hp)
      rintro rfl
      exact keeps (hp.subset (by simp))

/-- From agreement on, checks bring the failed instances up to date until somebody is misjudged. -/
theorem settles_iff {history : List DetectorOperation} (agrees : d.Agrees d.known.length)
    (members : d.cluster.members.Nodup) (known : d.known.Nodup)
    (keeps : .forgetFailures ∉ history) :
    (∀ past (changes : List ClusterChange), past <+: history →
        (d.performAll (past ++ changes.map .changeCluster)).checkMembers.1.UpToDate) ↔
      ∀ past op, past ++ [op] <+: history → ¬ (d.performAll past).Misjudges op := by
  have listed (past : List DetectorOperation) := (listed_performAll members known past).2
  simp only [performAll_append]
  constructor
  · intro settles past op hp
    have agrees (past : List DetectorOperation) (hp : past <+: history) :=
      (agrees_known_iff (listed past)).mp fun changes => settles past changes hp
    have before := agrees past ((List.prefix_append past [op]).trans hp)
    have after := agrees (past ++ [op]) hp
    rw [performAll_concat] at after
    refine (agrees_perform_iff before ?_).mp after
    rintro rfl
    exact keeps (hp.subset (by simp))
  · intro sound past changes hp
    have agrees := agrees_of_not_misjudges agrees keeps sound hp
    exact (agrees_known_iff (listed past)).mpr agrees changes

section Start

variable (me : InstanceId) (members : List InstanceId) (timers : HeartbeatTimers)

/-- A detector in a cluster with the given members, before anything has happened. -/
abbrev startIn : Detector := start (.ofMembers me members) timers

/-- Nothing has happened yet, or the failures have just been worked out. -/
def JustWorkedOut (past : List DetectorOperation) : Prop :=
  past = [] ∨ ∃ before op, past = before ++ [op] ∧
    ((startIn me members timers).performAll before).WorksOut op

variable {me members timers}

theorem agrees_of_justWorkedOut {past : List DetectorOperation}
    (h : JustWorkedOut me members timers past) :
    let d := (startIn me members timers).performAll past
    d.Agrees d.known.length := by
  rcases h with rfl | ⟨before, op, rfl, worksOut⟩
  · exact agrees_start _ timers _
  · rw [performAll_concat]
    exact agrees_of_worksOut worksOut

/-- As long as the failures are not forgotten, every check after they have been worked out brings
them up to date, whatever becomes of the cluster before it, if and only if no operation has
misjudged anybody since. A check that finds the members changed does so in any run. -/
theorem caught_up_iff {past later : List DetectorOperation}
    (fresh : JustWorkedOut me members timers past) (keeps : .forgetFailures ∉ later) :
    let run := (startIn me members timers).performAll
    ((∀ mid (changes : List ClusterChange), mid <+: later →
        (run (past ++ (mid ++ changes.map .changeCluster))).checkMembers.1.UpToDate) ↔
      ∀ mid op, mid ++ [op] <+: later → ¬ (run (past ++ mid)).Misjudges op) ∧
    ∀ history, (run history).checkMembers.2 = true → (run history).checkMembers.1.UpToDate := by
  intro run
  refine ⟨?_, fun history moved => upToDate_checkMembers_of_moved moved⟩
  have first : (Cluster.ofMembers me members).members.Nodup := by
    rw [Cluster.members_ofMembers]
    exact Cluster.nodup_seen members
  obtain ⟨listed, known⟩ := listed_performAll (d := startIn me members timers) first first past
  have settles := settles_iff (agrees_of_justWorkedOut fresh) listed known keeps
  simp only [← performAll_append] at settles
  exact settles

end Start

/-- The detector of the first instance, with timers that wait for a second. -/
def ofFirst (members : List InstanceId) : Detector :=
  startIn 1 members (.start (.fixed (.ofMillis 1000)))

/-- The fifth of five leaves. Meanwhile the first hears that the third and the fourth miss the
second, and misses it too. Then the fifth comes back. -/
def awayFromFive : List DetectorOperation :=
  [.changeCluster (.leave 5), .receiveReport 3 (.ofList [2]), .receiveReport 4 (.ofList [2]),
    .suspect 2, .changeCluster (.join 5)]

/-- A majority of five is one of four too, so nobody is misjudged, and what the check passes over is
up to date. -/
theorem second_failed_while_fifth_away :
    let d := (ofFirst [1, 2, 3, 4, 5]).performAll awayFromFive
    d.checkMembers.2 = false ∧ 2 ∈ d.failed ∧ d.checkMembers.1.UpToDate := by
  have keeps : .forgetFailures ∉ awayFromFive := by decide
  have halves : ∀ past ∈ awayFromFive.inits,
      ((ofFirst [1, 2, 3, 4, 5]).performAll past).known.length / 2 =
        ((ofFirst [1, 2, 3, 4, 5]).performAll past).cluster.members.length / 2 := by
    decide +kernel
  have sound : ∀ past op, past ++ [op] <+: awayFromFive →
      ¬ ((ofFirst [1, 2, 3, 4, 5]).performAll past).Misjudges op := by
    intro past op hp
    have same := halves past ((List.mem_inits _ _).mpr ((List.prefix_append past [op]).trans hp))
    rcases op.isOwn_or with own | ⟨change, rfl⟩
    · exact not_misjudges_of_same_half same own
    · rintro ⟨x, indicts | acquits, -⟩
      · exact indicts.1
      · exact acquits.1
  have settles := (caught_up_iff (.inl rfl) keeps).1.mpr sound awayFromFive [] (List.prefix_refl _)
  rw [List.map_nil, List.append_nil, List.nil_append] at settles
  exact ⟨by decide +kernel, by decide +kernel, settles⟩

/-- The fourth of four leaves. Meanwhile the first misses the third, and so does the second. Then
the fourth comes back. -/
def awayFromFour : List DetectorOperation :=
  [.changeCluster (.leave 4), .suspect 3, .receiveReport 2 (.ofList [3]),
    .changeCluster (.join 4)]

/-- Two of three have failed the third, and the check leaves it failed though two of four could
not. -/
theorem third_still_failed_by_two_of_four :
    .forgetFailures ∉ awayFromFour ∧
      ¬ ((ofFirst [1, 2, 3, 4]).performAll awayFromFour).checkMembers.1.UpToDate := by
  refine ⟨by decide, fun settled => ?_⟩
  have third := settled 3
  revert third
  decide +kernel

end Detector
end Vigil
