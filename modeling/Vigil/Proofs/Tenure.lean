import Mathlib.Data.List.Induction
import Vigil.Proofs.Detector.Recheck
import Vigil.Proofs.Participant.Affairs

/-!
Who is a member, in which order, and who holds a role, read off the history of a cluster. A tenure
begins when an instance joins that is no member and lasts until it leaves, and the members stand in
the order in which their tenures began. A role belongs to whoever was elected to it last, unless the
role has been taken back or its holder has left since. Every change keeps this
(`Cluster.Reflects.apply`), and a running instance that looks at the cluster meanwhile makes no
difference (`Participant.cluster_undergoAll`).
-/

namespace Vigil

theorem concat_eq_append_cons_iff {α : Type} {past before after : List α} {x y : α} :
    past ++ [x] = before ++ y :: after ↔
      past = before ∧ x = y ∧ after = [] ∨
        ∃ rest, after = rest ++ [x] ∧ past = before ++ y :: rest := by
  induction after using List.reverseRecOn with
  | nil => simp
  | append_singleton rest z _ =>
      rw [← List.cons_append, ← List.append_assoc, List.append_singleton_inj]
      constructor
      · rintro ⟨same, rfl⟩
        exact .inr ⟨rest, rfl, same⟩
      · rintro (⟨-, -, empty⟩ | ⟨rest', last, same⟩)
        · exact absurd empty (by simp)
        · obtain ⟨rfl, rfl⟩ := List.append_singleton_inj.mp last
          exact ⟨same, rfl⟩

section History

variable {past : List ClusterChange} {x : ClusterChange} {id : InstanceId} {role : String} {k : Nat}

/-- When `id` last joined or left, which of the two it did. -/
def lastMove (id : InstanceId) (past : List ClusterChange) : Option ClusterChange :=
  (past.filter fun x => decide (x = .join id ∨ x = .leave id)).getLast?

/-- The present tenure of `id` began with the `k`th change: it was no member before and has not left
since. -/
def TenureBegan (past : List ClusterChange) (id : InstanceId) (k : Nat) : Prop :=
  ∃ before after, past = before ++ .join id :: after ∧ before.length = k ∧
    lastMove id before ≠ some (.join id) ∧ .leave id ∉ after

/-- `id` was the last to be elected to a role; since then the role was not taken back and `id` has
not left. -/
def HoldsRole (past : List ClusterChange) (role : String) (id : InstanceId) : Prop :=
  ∃ before after, past = before ++ .elect role id :: after ∧
    (∀ other, .elect role other ∉ after) ∧ .unelect role ∉ after ∧ .leave id ∉ after

theorem lastMove_concat (past : List ClusterChange) (x : ClusterChange) (id : InstanceId) :
    lastMove id (past ++ [x]) =
      if x = .join id ∨ x = .leave id then some x else lastMove id past := by
  by_cases moves : x = .join id ∨ x = .leave id <;> simp [lastMove, List.filter_append, moves]

theorem tenureBegan_concat :
    TenureBegan (past ++ [x]) id k ↔
      x = .join id ∧ past.length = k ∧ lastMove id past ≠ some (.join id) ∨
        TenureBegan past id k ∧ x ≠ .leave id := by
  simp only [TenureBegan, concat_eq_append_cons_iff]
  constructor
  · rintro ⟨before, after, ⟨rfl, rfl, rfl⟩ | ⟨rest, rfl, rfl⟩, length, outside, stays⟩
    · exact .inl ⟨rfl, length, outside⟩
    · rw [List.mem_append, List.mem_singleton, not_or] at stays
      exact .inr ⟨⟨before, rest, rfl, length, outside, stays.1⟩, Ne.symm stays.2⟩
  · rintro (⟨rfl, length, outside⟩ | ⟨⟨before, rest, rfl, length, outside, stays⟩, still⟩)
    · exact ⟨past, [], .inl ⟨rfl, rfl, rfl⟩, length, outside, List.not_mem_nil⟩
    · refine ⟨before, rest ++ [x], .inr ⟨rest, rfl, rfl⟩, length, outside, ?_⟩
      rw [List.mem_append, List.mem_singleton, not_or]
      exact ⟨stays, still.symm⟩

theorem holdsRole_concat :
    HoldsRole (past ++ [x]) role id ↔
      x = .elect role id ∨
        HoldsRole past role id ∧ (∀ other, x ≠ .elect role other) ∧ x ≠ .unelect role ∧
          x ≠ .leave id := by
  simp only [HoldsRole, concat_eq_append_cons_iff]
  constructor
  · rintro ⟨before, after, ⟨rfl, rfl, rfl⟩ | ⟨rest, rfl, rfl⟩, last, kept, stays⟩
    · exact .inl rfl
    · simp only [List.mem_append, List.mem_singleton, not_or] at last kept stays
      exact .inr ⟨⟨before, rest, rfl, fun other => (last other).1, kept.1, stays.1⟩,
        fun other => Ne.symm (last other).2, Ne.symm kept.2, Ne.symm stays.2⟩
  · rintro (rfl | ⟨⟨before, rest, rfl, last, kept, stays⟩, unelected, held, still⟩)
    · exact ⟨past, [], .inl ⟨rfl, rfl, rfl⟩, by simp⟩
    · refine ⟨before, rest ++ [x], .inr ⟨rest, rfl, rfl⟩, ?_⟩
      simp only [List.mem_append, List.mem_singleton, not_or]
      exact ⟨fun other => ⟨last other, (unelected other).symm⟩, ⟨kept, held.symm⟩, stays,
        still.symm⟩

theorem TenureBegan.lt_length (h : TenureBegan past id k) : k < past.length := by
  obtain ⟨before, after, rfl, rfl, -, -⟩ := h
  simp

theorem TenureBegan.lastMove_eq (h : TenureBegan past id k) :
    lastMove id past = some (.join id) := by
  induction past using List.reverseRecOn with
  | nil => exact absurd h.lt_length (Nat.not_lt_zero k)
  | append_singleton past x ih =>
      rw [lastMove_concat]
      rcases tenureBegan_concat.mp h with ⟨rfl, -, -⟩ | ⟨began, stays⟩
      · rw [if_pos (.inl rfl)]
      · split
        · rename_i moves
          exact congrArg some (moves.resolve_right stays)
        · exact ih began

end History

/-- The members of a cluster, as its past says: those who joined when they last did either, in the
order in which their tenures began. -/
structure Enrolled (members : List InstanceId) (past : List ClusterChange) : Prop where
  nodup : members.Nodup
  member : ∀ id, id ∈ members ↔ lastMove id past = some (.join id)
  began : ∀ id ∈ members, ∃ k, TenureBegan past id k
  order : members.Pairwise fun a b => ∀ i j, TenureBegan past a i → TenureBegan past b j → i < j

namespace Enrolled

variable {members : List InstanceId} {past : List ClusterChange} {x : ClusterChange}
  {id : InstanceId} {k : Nat}

theorem nothing : Enrolled [] [] :=
  ⟨List.nodup_nil, by simp [lastMove], by simp, .nil⟩

variable (h : Enrolled members past)
include h

/-- The tenure of a member goes on as long as the member does not leave. -/
theorem tenureBegan_concat_iff (member : id ∈ members) (stays : x ≠ .leave id) :
    TenureBegan (past ++ [x]) id k ↔ TenureBegan past id k := by
  rw [tenureBegan_concat]
  constructor
  · rintro (⟨-, -, outside⟩ | ⟨began, -⟩)
    · exact absurd ((h.member id).mp member) outside
    · exact began
  · exact fun began => .inr ⟨began, stays⟩

/-- Members that do not leave keep their tenures and the order of these. -/
theorem veterans {kept : List InstanceId} (sub : kept.Sublist members)
    (stay : ∀ id ∈ kept, x ≠ .leave id) :
    (∀ id ∈ kept, ∃ k, TenureBegan (past ++ [x]) id k) ∧
      kept.Pairwise fun a b =>
        ∀ i j, TenureBegan (past ++ [x]) a i → TenureBegan (past ++ [x]) b j → i < j := by
  have same {id : InstanceId} {k : Nat} (hid : id ∈ kept) :
      TenureBegan (past ++ [x]) id k ↔ TenureBegan past id k :=
    h.tenureBegan_concat_iff (sub.mem hid) (stay id hid)
  refine ⟨fun id hid => ?_, (h.order.sublist sub).imp_of_mem fun ha hb before i j hi hj => ?_⟩
  · obtain ⟨k, began⟩ := h.began id (sub.mem hid)
    exact ⟨k, (same hid).mpr began⟩
  · exact before i j ((same ha).mp hi) ((same hb).mp hj)

theorem keep (joins : ∀ id, x = .join id → id ∈ members) (stays : ∀ id, x ≠ .leave id) :
    Enrolled members (past ++ [x]) := by
  obtain ⟨began, order⟩ := h.veterans (.refl members) fun id _ => stays id
  refine ⟨h.nodup, fun id => ?_, began, order⟩
  rw [lastMove_concat]
  split
  · rename_i moves
    obtain rfl := moves.resolve_right (stays id)
    exact iff_of_true (joins id rfl) rfl
  · exact h.member id

theorem join (new : id ∉ members) : Enrolled (members ++ [id]) (past ++ [.join id]) := by
  obtain ⟨began, order⟩ := h.veterans (x := .join id) (.refl members) fun _ _ => by simp
  have begins : TenureBegan (past ++ [.join id]) id past.length :=
    tenureBegan_concat.mpr (.inl ⟨rfl, rfl, mt (h.member id).mpr new⟩)
  refine ⟨?_, fun a => ?_, ?_, ?_⟩
  · exact List.nodup_append.mpr ⟨h.nodup, List.pairwise_singleton _ id, by
      rintro a ha b hb rfl
      exact new (List.mem_singleton.mp hb ▸ ha)⟩
  · rw [lastMove_concat, List.mem_append, List.mem_singleton]
    by_cases same : a = id
    · simp [same]
    · simp [same, Ne.symm same, h.member a]
  · rw [List.forall_mem_append, List.forall_mem_singleton]
    exact ⟨began, past.length, begins⟩
  · -- the tenure of a newcomer begins after all others
    refine List.pairwise_append.mpr ⟨order, List.pairwise_singleton _ _, ?_⟩
    intro a ha b hb i j hi hj
    obtain rfl := List.mem_singleton.mp hb
    rw [h.tenureBegan_concat_iff ha (by simp)] at hi
    rcases tenureBegan_concat.mp hj with ⟨-, rfl, -⟩ | ⟨before, -⟩
    · exact hi.lt_length
    · exact absurd ((h.member b).mpr before.lastMove_eq) new

theorem leave (id : InstanceId) : Enrolled (members.filter (· != id)) (past ++ [.leave id]) := by
  have other : ∀ a ∈ members.filter (· != id), ClusterChange.leave id ≠ .leave a := by
    intro a ha same
    obtain rfl := ClusterChange.leave.inj same
    simp at ha
  obtain ⟨began, order⟩ := h.veterans List.filter_sublist other
  refine ⟨h.nodup.filter _, fun a => ?_, began, order⟩
  rw [lastMove_concat, List.mem_filter, bne_iff_ne]
  by_cases same : a = id
  · simp [same]
  · simp [same, Ne.symm same, h.member a]

end Enrolled

namespace Cluster

variable {c : Cluster} {past : List ClusterChange} {x : ClusterChange} {id : InstanceId}

/-- Members and roles are what the past says. -/
structure Reflects (c : Cluster) (past : List ClusterChange) : Prop where
  enrolled : Enrolled c.members past
  role : ∀ role id, c.elected role = some id ↔ HoldsRole past role id

theorem elected_leave {role : String} {holder : InstanceId} :
    (c.leave id).1.elected role = some holder ↔ c.elected role = some holder ∧ holder ≠ id := by
  unfold elected
  rw [SortedMap.get?_eq_some_iff, SortedMap.get?_eq_some_iff]
  change (role, holder) ∈ c.roles.toList.filter _ ↔ _
  simp

theorem elected_insert {role role' : String} :
    (c.elect role' id).elected role = if role = role' then some id else c.elected role :=
  SortedMap.get?_insert c.roles role' role id

theorem elected_erase {role role' : String} :
    (c.unelect role').1.elected role = if role = role' then none else c.elected role :=
  SortedMap.get?_erase c.roles role' role

theorem Reflects.join (h : c.Reflects past) (id : InstanceId) :
    (c.join id).1.Reflects (past ++ [.join id]) where
  enrolled := by
    rw [members_join]
    split
    · rename_i member
      refine h.enrolled.keep (fun a same => ?_) fun a => by simp
      exact ClusterChange.join.inj same ▸ member
    · rename_i new
      exact h.enrolled.join new
  role role holder := by
    have roles : (c.join id).1.elected role = c.elected role := by
      unfold Cluster.join
      split <;> rfl
    simp [roles, h.role, holdsRole_concat]

theorem Reflects.leave (h : c.Reflects past) (id : InstanceId) :
    (c.leave id).1.Reflects (past ++ [.leave id]) where
  enrolled := h.enrolled.leave id
  role role holder := by
    simp [elected_leave, h.role, holdsRole_concat, eq_comm (a := id)]

theorem Reflects.elect (h : c.Reflects past) (role : String) (id : InstanceId) :
    (c.elect role id).Reflects (past ++ [.elect role id]) where
  enrolled := h.enrolled.keep (by simp) (by simp)
  role role' holder := by
    rw [elected_insert, holdsRole_concat]
    by_cases same : role' = role
    · simp [same]
    · simp [same, Ne.symm same, h.role]

theorem Reflects.unelect (h : c.Reflects past) (role : String) :
    (c.unelect role).1.Reflects (past ++ [.unelect role]) where
  enrolled := h.enrolled.keep (by simp) (by simp)
  role role' holder := by
    rw [elected_erase, holdsRole_concat]
    by_cases same : role' = role
    · simp [same]
    · simp [same, Ne.symm same, h.role]

theorem Reflects.apply (h : c.Reflects past) (x : ClusterChange) :
    (c.apply x).1.Reflects (past ++ [x]) := by
  cases x with
  | join id => exact h.join id
  | leave id => exact h.leave id
  | elect role id => exact h.elect role id
  | unelect role => exact h.unelect role

/-! ### Histories -/

theorem Reflects.applyAll (h : c.Reflects past) (history : List ClusterChange) :
    (c.applyAll history).Reflects (past ++ history) := by
  induction history generalizing c past with
  | nil => exact (List.append_nil past).symm ▸ h
  | cons x history ih =>
      rw [List.append_cons]
      exact ih (h.apply x)

theorem reflects_empty (me : InstanceId) : Reflects ⟨me, [], ∅⟩ [] where
  enrolled := .nothing
  role role id := by
    refine iff_of_false (by simp [elected]) ?_
    rintro ⟨before, after, past, -⟩
    simp at past

/-- To list members is to let them join one after the other. -/
theorem ofMembers_eq_applyAll (me : InstanceId) (initial : List InstanceId) :
    ofMembers me initial = (⟨me, [], ∅⟩ : Cluster).applyAll (initial.map .join) := by
  rw [applyAll, List.foldl_map]
  rfl

/-- The answers say whether the list of members is another than before. -/
theorem join_answer_iff : (c.join id).2 = true ↔ (c.join id).1.members ≠ c.members := by
  rw [members_join]
  by_cases member : id ∈ c.members <;> simp [join, isMember, member]

theorem leave_answer_iff : (c.leave id).2 = true ↔ (c.leave id).1.members ≠ c.members := by
  rw [leave_isMember, members_leave]
  by_cases member : id ∈ c.members
  · refine iff_of_true (by simpa [isMember] using member) fun same => ?_
    rw [List.filter_eq_self] at same
    simpa using same id member
  · refine iff_of_false (by simpa [isMember] using member) (not_not.mpr ?_)
    rw [List.filter_eq_self]
    intro a ha
    rw [bne_iff_ne]
    rintro rfl
    exact member ha

end Cluster

/-- The change of the cluster that an affair is. -/
def Affair.change? : Affair → Option ClusterChange
  | .operate (.changeCluster x) => some x
  | _ => none

namespace Participant

variable {p : Participant}

/-- Whatever happens to an instance, changes of the cluster alone change the cluster it looks at. -/
theorem cluster_undergoAll (p : Participant) (run : List Affair) :
    (p.undergoAll run).1.machine.detector.cluster =
      p.machine.detector.cluster.applyAll (run.filterMap Affair.change?) := by
  induction run generalizing p with
  | nil => rfl
  | cons a run ih =>
      rw [undergoAll_cons]
      refine (ih _).trans ?_
      rw [cluster_undergo, List.filterMap_cons]
      cases a with
      | message _ | tick _ | enlist _ | dismiss _ => rfl
      | operate op =>
          rcases op.isOwn_or with own | ⟨x, rfl⟩
          · have still := p.machine.detector.cluster_perform own
            have nothing : (Affair.operate op).change? = none := by
              unfold Affair.change?
              split
              · rename_i x same
                exact absurd (Affair.operate.inj same) (own x)
              · rfl
            rw [nothing]
            exact congrArg (fun c : Cluster => c.applyAll (run.filterMap Affair.change?)) still
          · rfl

end Participant

namespace Cluster

/-- Members and roles at the end of any history of changes, and what a further change answers; the
same holds of a cluster that a running instance looks at, whatever else happens to the instance
meanwhile. -/
theorem reflects_history (me : InstanceId) (initial : List InstanceId)
    (history : List ClusterChange) :
    let c := (ofMembers me initial).applyAll history
    c.Reflects (initial.map .join ++ history) ∧
    (∀ id, ((c.join id).2 = true ↔ (c.join id).1.members ≠ c.members) ∧
      ((c.leave id).2 = true ↔ (c.leave id).1.members ≠ c.members)) ∧
    ∀ timers outlet registry watchers (run : List Affair),
      let p : Participant :=
        ⟨.start (.start (ofMembers me initial) timers), outlet, registry, watchers⟩
      let q := (p.undergoAll run).1
      let plain := (ofMembers me initial).applyAll (run.filterMap Affair.change?)
      q.machine.detector.cluster = plain ∧
        ∀ x, (q.perform (.changeCluster x)).2.1 = .cluster (plain.apply x).2 := by
  intro c
  refine ⟨?_, fun id => ⟨join_answer_iff, leave_answer_iff⟩, ?_⟩
  · have listed : (ofMembers me initial).Reflects (initial.map .join) := by
      rw [ofMembers_eq_applyAll]
      exact (reflects_empty me).applyAll (initial.map .join)
    exact listed.applyAll history
  · intro timers outlet registry watchers run p q plain
    have same : q.machine.detector.cluster = plain := p.cluster_undergoAll run
    refine ⟨same, fun x => ?_⟩
    rw [← same]
    rfl

end Cluster
end Vigil
