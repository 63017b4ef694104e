/-!
Finite sets kept as strictly increasing lists. A set has one representation, so two sets with the
same members are equal (`SortedSet.ext`) and listing a set gives its members in order. Each
operation is described by what it does to membership.
-/

namespace Vigil

/-- The laws that a key type needs for increasing lists to be canonical. -/
class KeyOrder (κ : Type) [LT κ] : Prop where
  irrefl : ∀ a : κ, ¬ a < a
  trans : ∀ {a b c : κ}, a < b → b < c → a < c
  eq_of_not_lt : ∀ {a b : κ}, ¬ a < b → ¬ b < a → a = b

instance {κ : Type} [LT κ] [LE κ] [Std.IsLinearOrder κ] [Std.LawfulOrderLT κ] : KeyOrder κ where
  irrefl _ := Std.lt_irrefl
  trans := Std.lt_trans
  eq_of_not_lt h h' := Std.le_antisymm (Std.not_lt.mp h') (Std.not_lt.mp h)

/-- A finite set over an ordered key type, held as its members in increasing order. -/
structure SortedSet (κ : Type) [LT κ] where
  toList : List κ
  increasing : toList.Pairwise (· < ·)

namespace SortedSet

section Basic

variable {κ : Type} [LT κ]

instance [DecidableEq κ] : DecidableEq (SortedSet κ) := fun s t =>
  decidable_of_iff (s.toList = t.toList)
    ⟨fun h => by cases s; cases t; cases h; rfl, fun h => h ▸ rfl⟩

instance [Repr κ] : Repr (SortedSet κ) := ⟨fun s _ => repr s.toList⟩

instance : Membership κ (SortedSet κ) := ⟨fun s a => a ∈ s.toList⟩

theorem mem_toList {s : SortedSet κ} {a : κ} : a ∈ s.toList ↔ a ∈ s := Iff.rfl

instance [DecidableEq κ] (a : κ) (s : SortedSet κ) : Decidable (a ∈ s) :=
  inferInstanceAs (Decidable (a ∈ s.toList))

instance : EmptyCollection (SortedSet κ) := ⟨⟨[], .nil⟩⟩

instance : Inhabited (SortedSet κ) := ⟨∅⟩

@[simp] theorem not_mem_empty (a : κ) : a ∉ (∅ : SortedSet κ) :=
  List.not_mem_nil

def isEmpty (s : SortedSet κ) : Bool := s.toList.isEmpty

def size (s : SortedSet κ) : Nat := s.toList.length

/-- The greatest member. -/
def max? (s : SortedSet κ) : Option κ := s.toList.getLast?

def filter (p : κ → Bool) (s : SortedSet κ) : SortedSet κ :=
  ⟨s.toList.filter p, s.increasing.filter p⟩

@[simp] theorem mem_filter {p : κ → Bool} {s : SortedSet κ} {a : κ} :
    a ∈ s.filter p ↔ a ∈ s ∧ p a = true :=
  List.mem_filter

variable [DecidableEq κ]

def erase (a : κ) (s : SortedSet κ) : SortedSet κ := s.filter (· != a)

@[simp] theorem mem_erase {a b : κ} {s : SortedSet κ} : b ∈ s.erase a ↔ b ∈ s ∧ b ≠ a := by
  simp [erase]

/-- The members of `s` that are not in `t`. -/
def diff (s t : SortedSet κ) : SortedSet κ := s.filter (fun a => !decide (a ∈ t))

@[simp] theorem mem_diff {s t : SortedSet κ} {a : κ} : a ∈ s.diff t ↔ a ∈ s ∧ a ∉ t := by
  simp [diff]

end Basic

variable {κ : Type} [LT κ] [DecidableLT κ]

/-- Put a key at its place in an increasing list, unless it is there already. -/
def place (a : κ) : List κ → List κ
  | [] => [a]
  | b :: bs => if a < b then a :: b :: bs else if b < a then b :: place a bs else b :: bs

variable [KeyOrder κ]

theorem mem_place {a x : κ} {l : List κ} : x ∈ place a l ↔ x = a ∨ x ∈ l := by
  induction l with
  | nil => simp [place]
  | cons b bs ih =>
    unfold place
    split
    · simp
    · split
      · simp [ih, or_left_comm]
      · rename_i h h'
        have : a = b := KeyOrder.eq_of_not_lt h h'
        simp [this]

theorem place_increasing {a : κ} {l : List κ} (h : l.Pairwise (· < ·)) :
    (place a l).Pairwise (· < ·) := by
  induction l with
  | nil => simp [place]
  | cons b bs ih =>
    have ⟨hb, hbs⟩ := List.pairwise_cons.mp h
    unfold place
    split
    · rename_i hab
      refine List.pairwise_cons.mpr ⟨fun c hc => ?_, h⟩
      rcases List.mem_cons.mp hc with rfl | hc
      · exact hab
      · exact KeyOrder.trans hab (hb c hc)
    · split
      · rename_i hba
        refine List.pairwise_cons.mpr ⟨fun c hc => ?_, ih hbs⟩
        rcases mem_place.mp hc with rfl | hc
        · exact hba
        · exact hb c hc
      · exact h

def insert (a : κ) (s : SortedSet κ) : SortedSet κ :=
  ⟨place a s.toList, place_increasing s.increasing⟩

@[simp] theorem mem_insert {a b : κ} {s : SortedSet κ} : b ∈ s.insert a ↔ b = a ∨ b ∈ s :=
  mem_place

def ofList (l : List κ) : SortedSet κ := l.foldl (fun s a => s.insert a) ∅

theorem mem_foldl_insert {l : List κ} {s : SortedSet κ} {a : κ} :
    a ∈ l.foldl (fun s b => s.insert b) s ↔ a ∈ l ∨ a ∈ s := by
  induction l generalizing s with
  | nil => simp
  | cons b bs ih => simp [ih, or_assoc, or_left_comm]

@[simp] theorem mem_ofList {l : List κ} {a : κ} : a ∈ ofList l ↔ a ∈ l := by
  simp [ofList, mem_foldl_insert]

def union (s t : SortedSet κ) : SortedSet κ := t.toList.foldl (fun s a => s.insert a) s

@[simp] theorem mem_union {s t : SortedSet κ} {a : κ} : a ∈ s.union t ↔ a ∈ s ∨ a ∈ t := by
  simp [union, mem_foldl_insert, mem_toList, or_comm]

omit [DecidableLT κ] in
theorem toList_eq_of_mem_iff {l m : List κ} (hl : l.Pairwise (· < ·)) (hm : m.Pairwise (· < ·))
    (h : ∀ a, a ∈ l ↔ a ∈ m) : l = m := by
  induction l generalizing m with
  | nil =>
    cases m with
    | nil => rfl
    | cons b bs => exact absurd ((h b).mpr (by simp)) (by simp)
  | cons a l ih =>
    cases m with
    | nil => exact absurd ((h a).mp (by simp)) (by simp)
    | cons b m =>
      have ⟨ha, hl'⟩ := List.pairwise_cons.mp hl
      have ⟨hb, hm'⟩ := List.pairwise_cons.mp hm
      have hab : a = b := by
        rcases List.mem_cons.mp ((h a).mp (by simp)) with hab | hab
        · exact hab
        · rcases List.mem_cons.mp ((h b).mpr (by simp)) with hba | hba
          · exact hba.symm
          · exact absurd (KeyOrder.trans (ha b hba) (hb a hab)) (KeyOrder.irrefl a)
      subst hab
      refine congrArg (a :: ·) (ih hl' hm' fun c => ⟨fun hc => ?_, fun hc => ?_⟩)
      · rcases List.mem_cons.mp ((h c).mp (by simp [hc])) with rfl | hc'
        · exact absurd (ha c hc) (KeyOrder.irrefl c)
        · exact hc'
      · rcases List.mem_cons.mp ((h c).mpr (by simp [hc])) with rfl | hc'
        · exact absurd (hb c hc) (KeyOrder.irrefl c)
        · exact hc'

omit [DecidableLT κ] in
/-- A set is determined by its members. -/
@[ext] theorem ext {s t : SortedSet κ} (h : ∀ a, a ∈ s ↔ a ∈ t) : s = t := by
  cases s; cases t
  simpa using toList_eq_of_mem_iff ‹_› ‹_› h

omit [DecidableLT κ] in
theorem erase_eq_self [DecidableEq κ] {a : κ} {s : SortedSet κ} (absent : a ∉ s) :
    s.erase a = s := by
  ext b
  rw [mem_erase, and_iff_left_iff_imp]
  rintro present rfl
  exact absent present

end SortedSet

end Vigil
