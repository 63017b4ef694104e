import Vigil.Proofs.Machine.Coverage
import Vigil.Proofs.Participant.Affairs

/-!
With whom an instance exchanges heartbeats. In a run of messages, ticks and changes of the members
of which the machine is told, an instance that takes part waits for every peer and has a heartbeat
for every peer scheduled, except for newcomers: it starts nothing for a member that joins while it
takes part.
-/

namespace Vigil

/-- What can happen while members come and go. The machine is told of every change of the members,
and of whoever leaves also that it has left for good, before that or after. -/
inductive Occurrence where
  | message (e : Envelope Signal)
  | tick (time : Nat)
  | join (id : InstanceId)
  | leave (id : InstanceId) (farewellFirst : Bool)
  deriving DecidableEq, Repr

namespace Occurrence

def affairs : Occurrence → List Affair
  | message e => [.message e]
  | tick time => [.tick time]
  | join id => [.operate (.changeCluster (.join id)), .operate .syncMembers]
  | leave id true =>
    [.operate (.changeCluster (.leave id)), .operate (.depart id), .operate .syncMembers]
  | leave id false =>
    [.operate (.changeCluster (.leave id)), .operate .syncMembers, .operate (.depart id)]

end Occurrence

namespace Affair

def newcomers (m : Machine) (n : List InstanceId) : Affair → List InstanceId
  | operate (.changeCluster (.join id)) => if m.detector.isMember id then n else id :: n
  | _ => n

/-- Who is no member any more while the machine has not been told. -/
def leaving (gone : List InstanceId) : Affair → List InstanceId
  | operate (.changeCluster (.leave id)) => id :: gone
  | operate (.depart id) => gone.filter (· != id)
  | _ => gone

/-- The affair changes the members or tells the machine of it, and nobody is said to have left for
good who is a member. -/
def Orderly (m : Machine) : Affair → Prop
  | message _ | tick _ | operate .syncMembers | operate (.changeCluster _) => True
  | operate (.depart id) => id ∉ m.detector.cluster.members
  | _ => False

end Affair

/-- The machine has the timers of its peers, newcomers apart, and waits for heartbeats of members
only, or of those who have just left. -/
structure Machine.Tends (m : Machine) (newcomers gone : List InstanceId)
    (due : List (Envelope Signal)) : Prop where
  apt : m.detector.Apt
  covers : m.Covers newcomers due
  watched : ∀ id, m.detector.timers.isPending (.receive id) = true →
    id ∈ m.detector.cluster.members ∨ id ∈ gone

/-- Where the timers stay and all members but newcomers were members before, the machine tends
them. -/
theorem Machine.Tends.of_members {m m' : Machine} {n n' gone gone' : List InstanceId}
    (h : m.Tends n gone []) (phase : m'.phase = m.phase)
    (timers : m'.detector.timers = m.detector.timers) (me : m'.detector.me = m.detector.me)
    (veteran : ∀ id ∈ m'.detector.cluster.members, id ∉ n' →
      id ∈ m.detector.cluster.members ∧ id ∉ n)
    (kept : ∀ id, id ∈ m.detector.cluster.members ∨ id ∈ gone →
      id ∈ m'.detector.cluster.members ∨ id ∈ gone') : m'.Tends n' gone' [] where
  apt := by
    unfold Detector.Apt
    rw [timers]
    exact h.apt
  covers := by
    intro now k peer newcomer
    rw [Detector.mem_peers] at peer
    obtain ⟨member, old⟩ := veteran _ peer.1 newcomer
    rw [timers]
    exact h.covers (phase ▸ now) k (Detector.mem_peers.mpr ⟨member, me ▸ peer.2⟩) old
  watched id pending := kept id (h.watched id (timers ▸ pending))

namespace Affair

variable {m : Machine} {n gone : List InstanceId} {a : Affair}

theorem tends_tick (h : m.Tends n gone []) (time : Nat) :
    (opening m (.tick time)).1.Tends n gone (mail m (.tick time)) := by
  refine ⟨Detector.apt_of_sublist h.apt List.filter_sublist, ?_, fun id pending =>
    h.watched id (LogicalTimers.isPending_of_expire pending)⟩
  -- a timer that the tick takes out has its message among those to be handled
  intro phase k peer veteran
  have pending := (h.covers phase k peer veteran).resolve_right (by simp)
  refine (LogicalTimers.isPending_expire pending time).imp_right fun ⟨a, taken, key⟩ => ?_
  have content := h.apt a (LogicalTimers.mem_expired.mp taken).1
  exact ⟨a.message, List.mem_map_of_mem taken, key ▸ content⟩

theorem tends_sync (h : m.Tends n gone []) :
    (opening m (.operate .syncMembers)).1.Tends n gone [] := by
  have cluster : (opening m (.operate .syncMembers)).1.detector.cluster = m.detector.cluster :=
    m.detector.cluster_syncMembers
  refine h.of_members rfl m.detector.timers_syncMembers (congrArg Cluster.me cluster) ?_ ?_
  · exact fun id member veteran => ⟨cluster ▸ member, veteran⟩
  · exact fun id member => member.imp_left (cluster ▸ ·)

theorem tends_join (h : m.Tends n gone []) (id : InstanceId) :
    (opening m (.operate (.changeCluster (.join id)))).1.Tends
      (newcomers m n (.operate (.changeCluster (.join id)))) gone [] := by
  have members : (opening m (.operate (.changeCluster (.join id)))).1.detector.cluster.members =
      (m.detector.cluster.join id).1.members := rfl
  have known : m.detector.isMember id = decide (id ∈ m.detector.cluster.members) := by
    simp [Detector.isMember, Cluster.isMember]
  refine h.of_members rfl rfl (Cluster.me_join _ id) ?_ ?_
  · intro x member veteran
    rw [members, Cluster.members_join] at member
    rw [newcomers, known] at veteran
    by_cases old : id ∈ m.detector.cluster.members
    · simp_all
    · rw [if_neg old, List.mem_append, List.mem_singleton] at member
      rw [decide_eq_false old, if_neg Bool.false_ne_true, List.mem_cons, not_or] at veteran
      exact ⟨member.resolve_right veteran.1, veteran.2⟩
  · intro x member
    rw [members, Cluster.members_join]
    refine member.imp_left fun member => ?_
    split
    · exact member
    · exact List.mem_append_left _ member

theorem tends_leave (h : m.Tends n gone []) (id : InstanceId) :
    (opening m (.operate (.changeCluster (.leave id)))).1.Tends n (id :: gone) [] := by
  have members : (opening m (.operate (.changeCluster (.leave id)))).1.detector.cluster.members =
      m.detector.cluster.members.filter (· != id) := rfl
  refine h.of_members rfl rfl rfl ?_ ?_
  · intro x member veteran
    rw [members] at member
    exact ⟨(List.mem_filter.mp member).1, veteran⟩
  · intro x member
    rw [members, List.mem_filter, List.mem_cons, bne_iff_ne]
    by_cases same : x = id
    · exact .inr (.inl same)
    · exact member.imp (fun member => ⟨member, same⟩) .inr

theorem tends_depart (h : m.Tends n gone []) {id : InstanceId}
    (outside : id ∉ m.detector.cluster.members) :
    (opening m (.operate (.depart id))).1.Tends n (gone.filter (· != id)) [] := by
  have timers : (opening m (.operate (.depart id))).1.detector.timers =
      (m.detector.timers.without (.receive id)).without (.send id) := m.detector.timers_depart id
  have cluster : (opening m (.operate (.depart id))).1.detector.cluster = m.detector.cluster :=
    m.detector.cluster_depart id
  -- whoever departs is no member, so every peer keeps its timers
  refine ⟨Detector.apt_of_sublist h.apt ?_, ?_, ?_⟩
  · rw [timers]
    exact List.filter_sublist.trans List.filter_sublist
  · intro phase k peer veteran
    rw [cluster] at peer
    have other : k.peer ≠ id := fun same => outside (same ▸ (Detector.mem_peers.mp peer).1)
    have pending := (h.covers phase k peer veteran).resolve_right (by simp)
    rw [timers]
    cases k <;> simp_all [TimerKey.peer]
  · intro x pending
    rw [timers] at pending
    rw [cluster, List.mem_filter, bne_iff_ne]
    simp only [LogicalTimers.isPending_without, Bool.and_eq_true, decide_eq_true_eq, ne_eq,
      TimerKey.receive.injEq] at pending
    exact (h.watched x pending.2.2).imp_right fun gone => ⟨gone, pending.2.1⟩

theorem tends_opening (h : m.Tends n gone []) (orderly : a.Orderly m) :
    (a.opening m).1.Tends (a.newcomers m n) (a.leaving gone) (a.mail m) := by
  unfold Orderly at orderly
  split at orderly
  · exact ⟨h.apt, h.covers.mono fun _ he => absurd he List.not_mem_nil, h.watched⟩
  · exact tends_tick h _
  · exact tends_sync h
  · rename_i change
    cases change with
    | join id => exact tends_join h id
    | leave id => exact tends_leave h id
    | elect role id => exact h.of_members rfl rfl rfl (fun _ => .intro) fun _ member => member
    | unelect role => exact h.of_members rfl rfl rfl (fun _ => .intro) fun _ member => member
  · exact tends_depart h orderly
  · exact orderly.elim

end Affair

theorem Machine.Tends.handleEach {m : Machine} {n gone : List InstanceId} {outlet : Outlet}
    {due es : List (Envelope Signal)} (h : m.Tends n gone due) (arrive : due.Sublist es) :
    (m.handleEach outlet es).1.Tends (m.newcomers outlet n es) gone [] where
  apt := apt_handleEach h.apt
  covers := covers_handleEach arrive h.covers
  watched id pending := by
    rw [cluster_handleEach]
    rcases watched_handleEach pending with pending | member
    · exact h.watched id pending
    · exact .inl member

namespace Participant

variable {p : Participant} {a : Affair} {n gone : List InstanceId} {id : InstanceId}

/-- The newcomers at the end of a run, from those at its beginning: the members that have joined the
cluster since the machine began to exchange heartbeats. -/
def newcomers (p : Participant) (n : List InstanceId) : List Affair → List InstanceId
  | [] => n
  | a :: as =>
    let n := (a.opening p.machine).1.newcomers p.outlet (a.newcomers p.machine n)
      (taken (p.undergo a).2)
    (p.undergo a).1.newcomers n as

theorem newcomers_append (p : Participant) (n : List InstanceId) (as as' : List Affair) :
    p.newcomers n (as ++ as') = (p.undergoAll as).1.newcomers (p.newcomers n as) as' := by
  induction as generalizing p n with
  | nil => rfl
  | cons a as ih => exact ih _ _

theorem tends_undergo (h : p.machine.Tends n gone []) (orderly : a.Orderly p.machine) :
    (p.undergo a).1.machine.Tends (p.newcomers n [a]) (a.leaving gone) [] := by
  rw [(p.machine_undergo a).1]
  exact (Affair.tends_opening h orderly).handleEach (p.undergo_conducts a).mail

theorem tends_then {as all : List Affair} (gone' : List InstanceId) (a : Affair)
    (whole : as ++ [a] = all) (left : a.leaving gone = gone')
    (h : (p.undergoAll as).1.machine.Tends (p.newcomers n as) gone [])
    (orderly : a.Orderly (p.undergoAll as).1.machine) :
    (p.undergoAll all).1.machine.Tends (p.newcomers n all) gone' [] := by
  rw [← whole, undergoAll_append, newcomers_append, ← left]
  exact tends_undergo h orderly

theorem not_mem_of_leave (p : Participant) (id : InstanceId) :
    id ∉
      (p.undergo (.operate (.changeCluster (.leave id)))).1.machine.detector.cluster.members := by
  have members : (Affair.opening p.machine (.operate (.changeCluster
      (.leave id)))).1.detector.cluster.members =
        p.machine.detector.cluster.members.filter (· != id) := rfl
  rw [cluster_undergo, members]
  simp

theorem cluster_undergo_sync (p : Participant) :
    (p.undergo (.operate .syncMembers)).1.machine.detector.cluster = p.machine.detector.cluster :=
  (p.cluster_undergo _).trans p.machine.detector.cluster_syncMembers

theorem tends_occurrence (h : p.machine.Tends n [] []) (o : Occurrence) :
    (p.undergoAll o.affairs).1.machine.Tends (p.newcomers n o.affairs) [] [] := by
  have begun : (p.undergoAll []).1.machine.Tends (p.newcomers n []) [] [] := h
  cases o with
  | message e => exact tends_then [] (.message e) rfl rfl begun trivial
  | tick time => exact tends_then [] (.tick time) rfl rfl begun trivial
  | join id =>
      have joined := tends_then [] (.operate (.changeCluster (.join id))) rfl rfl begun
        trivial
      exact tends_then [] (.operate .syncMembers) rfl rfl joined trivial
  | leave id farewellFirst =>
      have left := tends_then [id] (.operate (.changeCluster (.leave id))) rfl rfl begun
        trivial
      have outside := p.not_mem_of_leave id
      have nobody : Affair.leaving [id] (.operate (.depart id)) = [] := by simp [Affair.leaving]
      cases farewellFirst with
      | true =>
          have departed := tends_then [] (.operate (.depart id)) rfl nobody left outside
          exact tends_then [] (.operate .syncMembers) rfl rfl departed trivial
      | false =>
          have synced := tends_then [id] (.operate .syncMembers) rfl rfl left trivial
          rw [← cluster_undergo_sync] at outside
          exact tends_then [] (.operate (.depart id)) rfl nobody synced outside

theorem tends_run (h : p.machine.Tends n [] []) (run : List Occurrence) :
    (p.undergoAll (run.flatMap Occurrence.affairs)).1.machine.Tends
      (p.newcomers n (run.flatMap Occurrence.affairs)) [] [] := by
  induction run generalizing p n with
  | nil => exact h
  | cons o run ih =>
      rw [List.flatMap_cons, undergoAll_append, newcomers_append]
      exact ih (tends_occurrence h o)

theorem tends_start (cluster : Cluster) (delay : Delay) :
    (Machine.start (.start cluster (.start delay))).Tends [] [] [] where
  apt _ pending := absurd pending List.not_mem_nil
  covers phase := by cases phase
  watched id pending := by cases pending

theorem machine_operate_of_silent (silent : p.calls = 0) (op : DetectorOperation) :
    (p.undergo (.operate op)).1.machine = (Affair.opening p.machine (.operate op)).1 := by
  rw [(p.machine_undergo _).1, taken_operate_of_silent silent]
  rfl

theorem machine_join_of_silent (silent : p.calls = 0) (id : InstanceId) :
    let m := (p.undergoAll (Occurrence.join id).affairs).1.machine
    m.phase = p.machine.phase ∧ m.detector.timers = p.machine.detector.timers ∧
      m.detector.cluster = (p.machine.detector.cluster.join id).1 := by
  intro m
  let joined := (p.undergo (.operate (.changeCluster (.join id)))).1
  have still : joined.calls = 0 := Nat.eq_zero_of_le_zero (silent ▸ p.calls_undergo_le _)
  have machine : m = (Affair.opening joined.machine (.operate .syncMembers)).1 :=
    machine_operate_of_silent still .syncMembers
  have before : joined.machine =
      (Affair.opening p.machine (.operate (.changeCluster (.join id)))).1 :=
    machine_operate_of_silent silent (.changeCluster (.join id))
  rw [machine, before]
  exact ⟨rfl, Detector.timers_syncMembers _, Detector.cluster_syncMembers _⟩

/-- The timers of an instance that takes part, at the end of any run from its start. Both timers
of every peer that is no newcomer are pending. If no listener calls the machine, it is not waiting
for a member that has just joined. -/
theorem exchanges_with_veterans (cluster : Cluster) (delay : Delay) (outlet : Outlet)
    (registry : Registry) (watchers : SortedMap String Watcher) (run : List Occurrence) :
    let p : Participant := ⟨.start (.start cluster (.start delay)), outlet, registry, watchers⟩
    let affairs := run.flatMap Occurrence.affairs
    let q := (p.undergoAll affairs).1
    q.machine.phase = .heartbeat →
      (∀ peer ∈ q.machine.detector.cluster.members, peer ≠ q.machine.me →
        peer ∉ p.newcomers [] affairs →
          q.machine.detector.timers.isPending (.receive peer) = true ∧
            q.machine.detector.timers.isPending (.send peer) = true) ∧
      ∀ id ∉ q.machine.detector.cluster.members, q.calls = 0 →
        let q' := (q.undergoAll (Occurrence.join id).affairs).1
        q'.machine.phase = .heartbeat ∧ id ∈ q'.machine.detector.cluster.members ∧
          q'.machine.detector.timers.isPending (.receive id) = false := by
  intro p affairs q phase
  have tends : q.machine.Tends (p.newcomers [] affairs) [] [] :=
    tends_run (tends_start cluster delay) run
  refine ⟨fun peer member other veteran => ?_, fun id outside silent => ?_⟩
  · have peers := Detector.mem_peers.mpr ⟨member, other⟩
    exact ⟨(tends.covers phase (.receive peer) peers veteran).resolve_right (by simp),
      (tends.covers phase (.send peer) peers veteran).resolve_right (by simp)⟩
  · have unwatched : q.machine.detector.timers.isPending (.receive id) = false := by
      by_contra pending
      rcases tends.watched id (by simpa using pending) with member | gone
      · exact outside member
      · exact absurd gone List.not_mem_nil
    obtain ⟨same, timers, members⟩ := machine_join_of_silent silent id
    refine ⟨same.trans phase, ?_, ?_⟩
    · rw [members, Cluster.members_join, if_neg outside]
      exact List.mem_append_right _ (List.mem_singleton_self id)
    · rw [timers]
      exact unwatched

def firstOfTwo : Participant where
  machine :=
    .start (.start (.ofMembers 1 [1, 2]) (.start (HeartbeatTiming.ofMillis 1000 3000).delay))
  outlet := .taking
  registry := ⟨[]⟩
  watchers := ∅

def thirdFollows : List Occurrence := [.message (.internal .join), .join 3]

theorem second_is_waited_for :
    let q := (firstOfTwo.undergoAll (thirdFollows.flatMap Occurrence.affairs)).1
    q.machine.phase = .heartbeat ∧ q.machine.detector.timers.isPending (.receive 2) = true ∧
      q.machine.detector.timers.isPending (.send 2) = true := by
  intro q
  have phase : q.machine.phase = .heartbeat := by decide +kernel
  have timers := exchanges_with_veterans (.ofMembers 1 [1, 2])
    (HeartbeatTiming.ofMillis 1000 3000).delay .taking ⟨[]⟩ ∅ thirdFollows phase
  exact ⟨phase, timers.1 2 (by decide +kernel) (by decide +kernel) (by decide +kernel)⟩

/-- The third instance is a member of which the machine has been told, and it has no timer. -/
theorem third_is_not_waited_for :
    let q := (firstOfTwo.undergoAll (thirdFollows.flatMap Occurrence.affairs)).1
    q.machine.phase = .heartbeat ∧
      ¬ ∀ peer ∈ q.machine.detector.cluster.members, peer ≠ q.machine.me →
        q.machine.detector.timers.isPending (.receive peer) = true ∧
          q.machine.detector.timers.isPending (.send peer) = true := by
  decide +kernel

end Participant
end Vigil
