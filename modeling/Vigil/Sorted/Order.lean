/-!
Lists put in the order of a numeric key. Elements with equal keys stay in the order they have.
-/

namespace Vigil

variable {α : Type}

/-- Put an element in front of the first one whose key is not smaller. -/
def placeBy (key : α → Nat) (a : α) : List α → List α
  | [] => [a]
  | b :: bs => if key a ≤ key b then a :: b :: bs else b :: placeBy key a bs

def orderBy (key : α → Nat) (l : List α) : List α := l.foldr (placeBy key) []

theorem placeBy_perm (key : α → Nat) (a : α) (l : List α) : (placeBy key a l).Perm (a :: l) := by
  induction l with
  | nil => exact .refl _
  | cons b bs ih =>
    unfold placeBy
    split
    · exact .refl _
    · exact (ih.cons b).trans (.swap a b bs)

theorem orderBy_perm (key : α → Nat) (l : List α) : (orderBy key l).Perm l := by
  induction l with
  | nil => exact .refl _
  | cons a l ih => exact (placeBy_perm key a _).trans (ih.cons a)

theorem placeBy_ordered (key : α → Nat) (a : α) {l : List α}
    (h : l.Pairwise (fun x y => key x ≤ key y)) :
    (placeBy key a l).Pairwise (fun x y => key x ≤ key y) := by
  induction l with
  | nil => simp [placeBy]
  | cons b bs ih =>
    have ⟨hb, hbs⟩ := List.pairwise_cons.mp h
    unfold placeBy
    split
    · rename_i hab
      refine List.pairwise_cons.mpr ⟨fun c hc => ?_, h⟩
      rcases List.mem_cons.mp hc with rfl | hc
      · exact hab
      · exact Nat.le_trans hab (hb c hc)
    · rename_i hab
      refine List.pairwise_cons.mpr ⟨fun c hc => ?_, ih hbs⟩
      rcases List.mem_cons.mp ((placeBy_perm key a bs).mem_iff.mp hc) with rfl | hc
      · omega
      · exact hb c hc

theorem orderBy_ordered (key : α → Nat) (l : List α) :
    (orderBy key l).Pairwise (fun x y => key x ≤ key y) := by
  induction l with
  | nil => exact .nil
  | cons a l ih => exact placeBy_ordered key a ih

/-- Elements with equal keys keep the order they have. -/
theorem placeBy_stable (key : α → Nat) {r : α → α → Prop} (a : α) {l : List α}
    (ha : ∀ b ∈ l, r a b)
    (h : l.Pairwise (fun x y => key x < key y ∨ key x = key y ∧ r x y)) :
    (placeBy key a l).Pairwise (fun x y => key x < key y ∨ key x = key y ∧ r x y) := by
  induction l with
  | nil => simp [placeBy]
  | cons b bs ih =>
    rw [List.forall_mem_cons] at ha
    have ⟨hb, hbs⟩ := List.pairwise_cons.mp h
    unfold placeBy
    split
    · rename_i hab
      refine List.pairwise_cons.mpr ⟨fun c hc => ?_, h⟩
      rcases List.mem_cons.mp hc with rfl | hc
      · exact (Nat.lt_or_eq_of_le hab).imp_right fun heq => ⟨heq, ha.1⟩
      · have hbc : key b ≤ key c := (hb c hc).elim Nat.le_of_lt fun h => Nat.le_of_eq h.1
        exact (Nat.lt_or_eq_of_le (Nat.le_trans hab hbc)).imp_right fun heq => ⟨heq, ha.2 c hc⟩
    · rename_i hab
      refine List.pairwise_cons.mpr ⟨fun c hc => ?_, ih ha.2 hbs⟩
      rcases List.mem_cons.mp ((placeBy_perm key a bs).mem_iff.mp hc) with rfl | hc
      · exact .inl (Nat.lt_of_not_le hab)
      · exact hb c hc

theorem orderBy_stable (key : α → Nat) {r : α → α → Prop} {l : List α} (h : l.Pairwise r) :
    (orderBy key l).Pairwise (fun x y => key x < key y ∨ key x = key y ∧ r x y) := by
  induction l with
  | nil => exact .nil
  | cons a l ih =>
    have ⟨ha, hl⟩ := List.pairwise_cons.mp h
    refine placeBy_stable key a (fun b hb => ha b ?_) (ih hl)
    exact (orderBy_perm key l).mem_iff.mp hb

theorem filter_placeBy (key : α → Nat) (a : α) (l : List α) (t : Nat) :
    ((placeBy key a l).filter fun b => key b = t) = (a :: l).filter fun b => key b = t := by
  induction l with
  | nil => rfl
  | cons b bs ih =>
    unfold placeBy
    split
    · rfl
    · -- `a` is put behind `b`, so that they have different keys
      rename_i smaller
      rw [List.filter_cons, ih]
      simp only [List.filter_cons, decide_eq_true_eq]
      split <;> split
      · omega
      · rfl
      · rfl
      · rfl

/-- What has one key is left as it is. -/
theorem filter_orderBy (key : α → Nat) (l : List α) (t : Nat) :
    ((orderBy key l).filter fun b => key b = t) = l.filter fun b => key b = t := by
  induction l with
  | nil => rfl
  | cons a l ih =>
    refine (filter_placeBy key a _ t).trans ?_
    rw [List.filter_cons, List.filter_cons, ← ih]
    rfl

section Split

variable {key : α → Nat} {l : List α} (order : l.Pairwise fun x y => key x ≤ key y) (t : Nat)
include order

/-- In order, the elements whose key is not beyond `t` come first. -/
theorem takeWhile_eq_filter :
    l.takeWhile (fun a => decide (key a ≤ t)) = l.filter fun a => decide (key a ≤ t) := by
  induction l with
  | nil => rfl
  | cons a l ih =>
    rw [List.pairwise_cons] at order
    by_cases ha : key a ≤ t
    · rw [List.takeWhile_cons_of_pos (by simpa using ha), List.filter_cons_of_pos (by simpa using ha),
        ih order.2]
    · have beyond : (a :: l).filter (fun a => decide (key a ≤ t)) = [] := by
        refine List.filter_eq_nil_iff.mpr (List.forall_mem_cons.mpr ⟨by simpa using ha, fun b hb => ?_⟩)
        have later := order.1 b hb
        simp only [decide_eq_true_eq]
        omega
      rw [List.takeWhile_cons_of_neg (by simpa using ha), beyond]

theorem dropWhile_eq_filter :
    l.dropWhile (fun a => decide (key a ≤ t)) = l.filter fun a => decide (t < key a) := by
  induction l with
  | nil => rfl
  | cons a l ih =>
    rw [List.pairwise_cons] at order
    by_cases ha : key a ≤ t
    · rw [List.dropWhile_cons_of_pos (by simpa using ha), List.filter_cons_of_neg (by simpa using ha),
        ih order.2]
    · have beyond : (a :: l).filter (fun a => decide (t < key a)) = a :: l := by
        refine List.filter_eq_self.mpr (List.forall_mem_cons.mpr ⟨by simpa using ha, fun b hb => ?_⟩)
        have later := order.1 b hb
        simp only [decide_eq_true_eq]
        omega
      rw [List.dropWhile_cons_of_neg (by simpa using ha), beyond]

end Split

end Vigil
