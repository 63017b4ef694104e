import Mathlib.Data.List.Nodup
import Vigil.Timers.Logical
import Vigil.Timing

/-!
Deadlines on the logical clock. What setting and cancelling do is said by look-up, and needs
nothing; that expiry drops exactly the deadlines that have come needs at most one timer for a key
(`Distinct`), which every operation keeps.
-/

namespace Vigil
namespace LogicalTimers

variable {κ μ : Type} [DecidableEq κ] {t : LogicalTimers κ μ} {k l : κ} {time : Nat} {a : Armed κ μ}

/-- There is at most one pending timer for a key. -/
def Distinct (t : LogicalTimers κ μ) : Prop := (t.pending.map Armed.key).Nodup

@[simp] theorem find?_without :
    (t.without k).find? l = if l = k then none else t.find? l := by
  unfold find? without
  by_cases h : l = k
  · subst h
    simp
  · rw [if_neg h, List.find?_filter]
    congr 1
    funext b
    by_cases hb : b.key = l
    · simp [hb, h]
    · simp [hb]

@[simp] theorem find?_set [HasKind μ] (m : μ) :
    (t.set k m).find? l =
      if l = k then some ⟨k, m, deadlineAfter t.now (t.delay.of m), t.nextSeq⟩ else t.find? l := by
  have append : (t.set k m).find? l =
      ((t.without k).find? l).or
        (if k = l then some ⟨k, m, deadlineAfter t.now (t.delay.of m), t.nextSeq⟩ else none) := by
    simp only [set, find?, List.find?_append, List.find?_singleton, beq_iff_eq]
  rw [append, find?_without]
  by_cases h : l = k
  · simp [h]
  · simp [h, Ne.symm h]

theorem set_without [HasKind μ] (t : LogicalTimers κ μ) (k : κ) (m : μ) :
    (t.without k).set k m = t.set k m := by
  simp only [set, without, List.filter_filter, Bool.and_self]

theorem mem_pending_set [HasKind μ] {m : μ} (h : a ∈ (t.set k m).pending) :
    a ∈ t.pending ∨ a = ⟨k, m, deadlineAfter t.now (t.delay.of m), t.nextSeq⟩ := by
  rcases List.mem_append.mp h with h | h
  · exact .inl (List.mem_filter.mp h).1
  · exact .inr (List.mem_singleton.mp h)

theorem deadline?_set [HasKind μ] (m : μ) :
    (t.set k m).deadline? l =
      if l = k then some (deadlineAfter t.now (t.delay.of m)) else t.deadline? l := by
  unfold deadline?
  rw [find?_set]
  split <;> rfl

theorem find?_key (h : t.find? k = some a) : a.key = k := by
  simpa using List.find?_some h

theorem mem_of_find? (h : t.find? k = some a) : a ∈ t.pending := List.mem_of_find?_eq_some h

theorem Distinct.find?_eq_some (h : t.Distinct) (ha : a ∈ t.pending) :
    t.find? a.key = some a := by
  obtain ⟨delay, now, next, l⟩ := t
  unfold Distinct at h
  unfold find?
  dsimp only at h ha ⊢
  induction l with
  | nil => exact absurd ha List.not_mem_nil
  | cons b l ih =>
      rw [List.map_cons, List.nodup_cons] at h
      rcases List.mem_cons.mp ha with rfl | ha
      · simp
      · have different : b.key ≠ a.key := fun hk => h.1 (hk ▸ List.mem_map_of_mem ha)
        rw [List.find?_cons_of_neg (by simpa using different)]
        exact ih h.2 ha

theorem Distinct.without (h : t.Distinct) (k : κ) : (t.without k).Distinct :=
  h.sublist (List.filter_sublist.map Armed.key)

/-- Put a timer in the place of any that is pending for its key. -/
def arm (t : LogicalTimers κ μ) (a : Armed κ μ) : LogicalTimers κ μ :=
  { t.without a.key with
    nextSeq := t.nextSeq + 1
    pending := (t.without a.key).pending ++ [a] }

theorem Distinct.arm (h : t.Distinct) (a : Armed κ μ) : (t.arm a).Distinct := by
  have unset : a.key ∉ (t.without a.key).pending.map Armed.key := by
    simp [LogicalTimers.without]
  change (((t.without a.key).pending ++ [a]).map Armed.key).Nodup
  rw [List.map_append, List.nodup_append]
  refine ⟨h.without a.key, List.nodup_singleton _, ?_⟩
  rintro b hb c hc rfl
  rw [List.map_singleton, List.mem_singleton] at hc
  subst hc
  exact unset hb

theorem Distinct.set [HasKind μ] (h : t.Distinct) (k : κ) (m : μ) : (t.set k m).Distinct :=
  h.arm ⟨k, m, deadlineAfter t.now (t.delay.of m), t.nextSeq⟩

omit [DecidableEq κ] in
theorem Distinct.expire (h : t.Distinct) (time : Nat) : (t.expire time).1.Distinct :=
  h.sublist (List.filter_sublist.map Armed.key)

omit [DecidableEq κ] in
theorem mem_expired : a ∈ (t.expire time).2 ↔ a ∈ t.pending ∧ a.deadline ≤ max t.now time := by
  rw [expire, (orderBy_perm _ _).mem_iff, List.mem_filter, decide_eq_true_eq]

/-- A timer stays pending exactly if its deadline has not come. -/
theorem Distinct.find?_expire (h : t.Distinct) :
    (t.expire time).1.find? k =
      (t.find? k).filter fun a => !decide (a.deadline ≤ max t.now time) := by
  have rest : (t.expire time).1.pending =
      t.pending.filter fun a => !decide (a.deadline ≤ max t.now time) := rfl
  apply Option.ext
  intro a
  rw [Option.filter_eq_some_iff]
  constructor
  · intro hf
    have hk := find?_key hf
    have hm := mem_of_find? hf
    rw [rest, List.mem_filter] at hm
    exact ⟨hk ▸ h.find?_eq_some hm.1, hm.2⟩
  · rintro ⟨hf, hd⟩
    have hk := find?_key hf
    have hm : a ∈ (t.expire time).1.pending := by
      rw [rest]
      exact List.mem_filter.mpr ⟨mem_of_find? hf, hd⟩
    exact hk ▸ (h.expire time).find?_eq_some hm

theorem Distinct.deadline?_expire (h : t.Distinct) (time : Nat) (k : κ) :
    (t.expire time).1.deadline? k =
      (t.deadline? k).filter fun d => !decide (d ≤ max t.now time) := by
  unfold deadline?
  rw [h.find?_expire]
  cases t.find? k with
  | none => rfl
  | some a => by_cases late : a.deadline ≤ max t.now time <;> simp [Option.filter, late]

theorem deadlineAfter_ofMillis {now ms : Nat} (h : now + ms ≤ lastInstant) :
    deadlineAfter now (.ofMillis ms) = now + ms := by
  have small : ms < 18446744073709551616 := Nat.lt_of_le_of_lt (Nat.le_of_add_left_le h) (by decide)
  rw [deadlineAfter, Duration.toMillis_ofMillis, Nat.mod_eq_of_lt small]
  exact Nat.min_eq_left h

end LogicalTimers
end Vigil
