import Mathlib.Data.List.Nodup
import Vigil.Cluster

/-!
The member list of a cluster: it never repeats a member, and a list of members is seen with each
member at its first place (`seen`), also after some of them have left (`seen_filter`).
-/

namespace Vigil
namespace Cluster

/-- The members of a list, each at its first place. -/
def seen (members : List InstanceId) : List InstanceId :=
  members.foldl (fun l id => if id ∈ l then l else l ++ [id]) []

theorem members_join (c : Cluster) (id : InstanceId) :
    (c.join id).1.members = if id ∈ c.members then c.members else c.members ++ [id] := by
  by_cases h : id ∈ c.members <;> simp [join, isMember, h]

@[simp] theorem me_join (c : Cluster) (id : InstanceId) : (c.join id).1.me = c.me := by
  unfold join
  split <;> rfl

@[simp] theorem members_leave (c : Cluster) (id : InstanceId) :
    (c.leave id).1.members = c.members.filter (· != id) := rfl

theorem leave_isMember (c : Cluster) (id : InstanceId) : (c.leave id).2 = c.isMember id := by
  by_cases h : id ∈ c.members
  · have hlt : (c.members.filter (· != id)).length < c.members.length :=
      List.length_filter_lt_length_iff_exists.mpr ⟨id, h, by simp⟩
    simp [leave, isMember, h, Nat.ne_of_lt hlt]
  · have heq : c.members.filter (· != id) = c.members :=
      List.filter_eq_self.mpr fun a ha => by
        simp only [bne_iff_ne]
        rintro rfl
        exact h ha
    simp [leave, isMember, h, heq]

theorem nodup_join {c : Cluster} (h : c.members.Nodup) (id : InstanceId) :
    (c.join id).1.members.Nodup := by
  rw [members_join]
  split
  · exact h
  · rename_i hid
    exact List.nodup_append.mpr ⟨h, List.nodup_singleton id, by
      rintro a ha b hb rfl
      exact hid (List.mem_singleton.mp hb ▸ ha)⟩

theorem ofMembers_foldl (members : List InstanceId) (c : Cluster) :
    (members.foldl (fun c id => (c.join id).1) c).me = c.me ∧
      (members.foldl (fun c id => (c.join id).1) c).members =
        members.foldl (fun l id => if id ∈ l then l else l ++ [id]) c.members := by
  induction members generalizing c with
  | nil => exact ⟨rfl, rfl⟩
  | cons a l ih =>
      obtain ⟨hme, hmembers⟩ := ih (c.join a).1
      exact ⟨hme.trans (c.me_join a), by rw [List.foldl_cons, hmembers, members_join]; rfl⟩

@[simp] theorem me_ofMembers (me : InstanceId) (members : List InstanceId) :
    (ofMembers me members).me = me :=
  (ofMembers_foldl members _).1

@[simp] theorem members_ofMembers (me : InstanceId) (members : List InstanceId) :
    (ofMembers me members).members = seen members :=
  (ofMembers_foldl members _).2

theorem mem_seen {members : List InstanceId} {x : InstanceId} : x ∈ seen members ↔ x ∈ members := by
  have fold : ∀ l : List InstanceId,
      x ∈ members.foldl (fun l id => if id ∈ l then l else l ++ [id]) l ↔ x ∈ l ∨ x ∈ members := by
    induction members with
    | nil => simp
    | cons a members ih =>
        intro l
        rw [List.foldl_cons, ih]
        by_cases h : a ∈ l
        · rw [if_pos h, List.mem_cons]
          refine ⟨Or.imp_right .inr, ?_⟩
          rintro (hl | rfl | hm)
          · exact .inl hl
          · exact .inl h
          · exact .inr hm
        · simp [h, or_assoc]
  simpa [seen] using fold []

theorem nodup_seen (members : List InstanceId) : (seen members).Nodup := by
  have fold : ∀ l : List InstanceId, l.Nodup →
      (members.foldl (fun l id => if id ∈ l then l else l ++ [id]) l).Nodup := by
    induction members with
    | nil => exact fun l hl => hl
    | cons a members ih =>
        intro l hl
        refine ih _ ?_
        have h := nodup_join (c := ⟨a, l, ∅⟩) hl a
        rwa [members_join] at h
  exact fold [] List.nodup_nil

/-- What is seen of a list is the list without repetitions. -/
theorem seen_eq_eraseDups (members : List InstanceId) : seen members = members.eraseDups := by
  have fold : ∀ l : List InstanceId,
      members.foldl (fun l id => if id ∈ l then l else l ++ [id]) l =
        l ++ (members.filter fun id => decide (id ∉ l)).eraseDups := by
    induction members with
    | nil => simp
    | cons a members ih =>
        intro l
        rw [List.foldl_cons, ih]
        by_cases hl : a ∈ l
        · simp [hl]
        · have rest : (members.filter fun id => decide (id ∉ l ++ [a])) =
              (members.filter fun id => decide (id ∉ l)).filter fun id => !id == a := by
            rw [List.filter_filter]
            refine List.filter_congr fun id _ => ?_
            by_cases ha : id = a <;> simp [ha]
          rw [if_neg hl, List.filter_cons_of_pos (by simpa using hl), List.eraseDups_cons, rest,
            List.append_assoc, List.singleton_append]
  simpa [seen] using fold []

theorem seen_filter (p : InstanceId → Bool) (members : List InstanceId) :
    seen (members.filter p) = (seen members).filter p := by
  have fold : ∀ l : List InstanceId,
      (members.filter p).foldl (fun l id => if id ∈ l then l else l ++ [id]) (l.filter p) =
        (members.foldl (fun l id => if id ∈ l then l else l ++ [id]) l).filter p := by
    induction members with
    | nil => exact fun l => rfl
    | cons a members ih =>
        intro l
        rw [List.foldl_cons, ← ih]
        by_cases hp : p a = true <;> by_cases hl : a ∈ l <;> simp [hp, hl]
  exact fold []

end Cluster
end Vigil
