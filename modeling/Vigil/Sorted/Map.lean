import Vigil.Sorted.Set

/-!
Finite maps kept as lists of bindings with strictly increasing keys. As for sets, a map has one
representation: two maps that look up alike are equal (`SortedMap.ext`).
-/

namespace Vigil

/-- A finite map over an ordered key type, held as its bindings in increasing order of keys. -/
structure SortedMap (κ α : Type) [LT κ] where
  toList : List (κ × α)
  increasing : toList.Pairwise (fun a b => a.1 < b.1)

namespace SortedMap

section Basic

variable {κ α β : Type} [LT κ]

instance [DecidableEq κ] [DecidableEq α] : DecidableEq (SortedMap κ α) := fun s t =>
  decidable_of_iff (s.toList = t.toList)
    ⟨fun h => by cases s; cases t; cases h; rfl, fun h => h ▸ rfl⟩

instance [Repr κ] [Repr α] : Repr (SortedMap κ α) := ⟨fun m _ => repr m.toList⟩

instance : EmptyCollection (SortedMap κ α) := ⟨⟨[], .nil⟩⟩

instance : Inhabited (SortedMap κ α) := ⟨∅⟩

def keys (m : SortedMap κ α) : SortedSet κ :=
  ⟨m.toList.map Prod.fst, List.pairwise_map.mpr m.increasing⟩

def values (m : SortedMap κ α) : List α := m.toList.map Prod.snd

def size (m : SortedMap κ α) : Nat := m.toList.length

/-- Change every value, given its key. -/
def mapValues (f : κ → α → β) (m : SortedMap κ α) : SortedMap κ β :=
  ⟨m.toList.map fun e => (e.1, f e.1 e.2), List.pairwise_map.mpr m.increasing⟩

/-- Keep the bindings whose key satisfies `p`. -/
def filterKeys (p : κ → Bool) (m : SortedMap κ α) : SortedMap κ α :=
  ⟨m.toList.filter (fun e => p e.1), m.increasing.filter _⟩

variable [DecidableEq κ]

/-- The value of the first binding of `k` in a list. -/
def lookup (k : κ) : List (κ × α) → Option α
  | [] => none
  | e :: es => if e.1 = k then some e.2 else lookup k es

def get? (m : SortedMap κ α) (k : κ) : Option α := lookup k m.toList

def contains (m : SortedMap κ α) (k : κ) : Bool := (m.get? k).isSome

def erase (k : κ) (m : SortedMap κ α) : SortedMap κ α := m.filterKeys (· != k)

/-- Change the value of one key, if it has one. -/
def modify (k : κ) (f : α → α) (m : SortedMap κ α) : SortedMap κ α :=
  m.mapValues fun l v => if l = k then f v else v

@[simp] theorem get?_empty (k : κ) : (∅ : SortedMap κ α).get? k = none := rfl

omit [LT κ] in
theorem lookup_map (f : κ → α → β) (k : κ) (l : List (κ × α)) :
    lookup k (l.map fun e => (e.1, f e.1 e.2)) = (lookup k l).map (f k) := by
  induction l with
  | nil => rfl
  | cons e es ih =>
    by_cases h : e.1 = k
    · simp [lookup, ← h]
    · simp [lookup, h, ih]

@[simp] theorem get?_mapValues (f : κ → α → β) (m : SortedMap κ α) (k : κ) :
    (m.mapValues f).get? k = (m.get? k).map (f k) :=
  lookup_map f k m.toList

@[simp] theorem get?_modify (k l : κ) (f : α → α) (m : SortedMap κ α) :
    (m.modify k f).get? l = if l = k then (m.get? l).map f else m.get? l := by
  by_cases h : l = k <;> simp [modify, h]

omit [LT κ] in
theorem lookup_filter (p : κ → Bool) (k : κ) (l : List (κ × α)) :
    lookup k (l.filter fun e => p e.1) = if p k then lookup k l else none := by
  induction l with
  | nil => simp [lookup]
  | cons e es ih =>
    by_cases h : e.1 = k
    · subst h
      cases hp : p e.1 <;> simp_all [lookup]
    · cases hp : p e.1 <;> simp [lookup, hp, h, ih]

@[simp] theorem get?_filterKeys (p : κ → Bool) (m : SortedMap κ α) (k : κ) :
    (m.filterKeys p).get? k = if p k then m.get? k else none :=
  lookup_filter p k m.toList

@[simp] theorem get?_erase (m : SortedMap κ α) (k l : κ) :
    (m.erase k).get? l = if l = k then none else m.get? l := by
  by_cases h : l = k <;> simp [erase, h]

theorem lookup_eq_none_of_lt [KeyOrder κ] {k : κ} {l : List (κ × α)}
    (h : ∀ e ∈ l, k < e.1) : lookup k l = none := by
  induction l with
  | nil => rfl
  | cons e es ih =>
    have : e.1 ≠ k := fun he => KeyOrder.irrefl k (by simpa [he] using h e (by simp))
    simpa [lookup, this] using ih fun f hf => h f (by simp [hf])

theorem lookup_eq_some_iff [KeyOrder κ] {k : κ} {v : α} {l : List (κ × α)}
    (hl : l.Pairwise (fun a b => a.1 < b.1)) : lookup k l = some v ↔ (k, v) ∈ l := by
  induction l with
  | nil => simp [lookup]
  | cons e es ih =>
    have ⟨he, hes⟩ := List.pairwise_cons.mp hl
    by_cases h : e.1 = k
    · have : (k, v) ∉ es := fun hm => KeyOrder.irrefl k (by simpa [h] using he _ hm)
      obtain ⟨a, b⟩ := e
      simp only at h
      subst h
      simp [lookup, this, eq_comm]
    · have : (k, v) ≠ e := fun hk => h (by rw [← hk])
      simp [lookup, h, ih hes, this]

theorem get?_eq_some_iff [KeyOrder κ] {m : SortedMap κ α} {k : κ} {v : α} :
    m.get? k = some v ↔ (k, v) ∈ m.toList :=
  lookup_eq_some_iff m.increasing

theorem mem_keys_iff [KeyOrder κ] {m : SortedMap κ α} {k : κ} :
    k ∈ m.keys ↔ ∃ v, m.get? k = some v := by
  simp only [get?_eq_some_iff]
  constructor
  · intro h
    obtain ⟨e, he, rfl⟩ := List.mem_map.mp (SortedSet.mem_toList.mpr h)
    exact ⟨e.2, he⟩
  · rintro ⟨v, hv⟩
    exact SortedSet.mem_toList.mp (List.mem_map.mpr ⟨(k, v), hv, rfl⟩)

end Basic

section Insert

variable {κ α : Type} [LT κ] [DecidableLT κ]

/-- Put a binding at its place in an increasing list, replacing the binding of an equal key. -/
def place (k : κ) (v : α) : List (κ × α) → List (κ × α)
  | [] => [(k, v)]
  | e :: es =>
    if k < e.1 then (k, v) :: e :: es else if e.1 < k then e :: place k v es else (k, v) :: es

theorem eq_or_mem_of_mem_place {k : κ} {v : α} {l : List (κ × α)} {e : κ × α}
    (h : e ∈ place k v l) : e = (k, v) ∨ e ∈ l := by
  induction l with
  | nil => simpa [place] using h
  | cons f fs ih =>
    unfold place at h
    split at h
    · simpa using h
    · split at h
      · rcases List.mem_cons.mp h with rfl | h
        · simp
        · rcases ih h with h | h <;> simp [h]
      · rcases List.mem_cons.mp h with rfl | h <;> simp [*]

variable [KeyOrder κ]

theorem place_increasing {k : κ} {v : α} {l : List (κ × α)}
    (h : l.Pairwise (fun a b => a.1 < b.1)) :
    (place k v l).Pairwise (fun a b => a.1 < b.1) := by
  induction l with
  | nil => simp [place]
  | cons e es ih =>
    have ⟨he, hes⟩ := List.pairwise_cons.mp h
    unfold place
    split
    · rename_i hke
      refine List.pairwise_cons.mpr ⟨fun f hf => ?_, h⟩
      rcases List.mem_cons.mp hf with rfl | hf
      · exact hke
      · exact KeyOrder.trans hke (he f hf)
    · split
      · rename_i hek
        refine List.pairwise_cons.mpr ⟨fun f hf => ?_, ih hes⟩
        rcases eq_or_mem_of_mem_place hf with rfl | hf
        · exact hek
        · exact he f hf
      · rename_i h1 h2
        have : k = e.1 := KeyOrder.eq_of_not_lt h1 h2
        exact List.pairwise_cons.mpr ⟨fun f hf => this ▸ he f hf, hes⟩

def insert (k : κ) (v : α) (m : SortedMap κ α) : SortedMap κ α :=
  ⟨place k v m.toList, place_increasing m.increasing⟩

/-- Of bindings with equal keys the last one stays. -/
def ofList (l : List (κ × α)) : SortedMap κ α := l.foldl (fun m e => m.insert e.1 e.2) ∅

variable [DecidableEq κ]

theorem lookup_place (k l : κ) (v : α) (es : List (κ × α)) :
    lookup l (place k v es) = if l = k then some v else lookup l es := by
  induction es with
  | nil => by_cases h : l = k <;> simp [place, lookup, h, Ne.symm]
  | cons e es ih =>
    unfold place
    split
    · by_cases h : l = k
      · simp [lookup, h]
      · simp [lookup, h, Ne.symm h]
    · split
      · rename_i h1 h2
        by_cases hel : e.1 = l
        · have : l ≠ k := fun h => KeyOrder.irrefl k (by simpa [hel, h] using h2)
          simp [lookup, hel, this]
        · simp [lookup, hel, ih]
      · rename_i h1 h2
        have hke : k = e.1 := KeyOrder.eq_of_not_lt h1 h2
        by_cases h : l = k
        · simp [lookup, h]
        · simp [lookup, ← hke, h, Ne.symm h]

@[simp] theorem get?_insert (m : SortedMap κ α) (k l : κ) (v : α) :
    (m.insert k v).get? l = if l = k then some v else m.get? l :=
  lookup_place k l v m.toList

end Insert

variable {κ α : Type} [LT κ] [KeyOrder κ] [DecidableEq κ]

/-- A map is determined by what it finds. -/
@[ext] theorem ext {m n : SortedMap κ α} (h : ∀ k, m.get? k = n.get? k) : m = n := by
  obtain ⟨l, hl⟩ := m
  obtain ⟨l', hl'⟩ := n
  suffices l = l' by simp [this]
  replace h : ∀ k, lookup k l = lookup k l' := h
  induction l generalizing l' with
  | nil =>
    cases l' with
    | nil => rfl
    | cons e es => simpa [lookup] using h e.1
  | cons e es ih =>
    cases l' with
    | nil => simpa [lookup] using h e.1
    | cons f fs =>
      have ⟨he, hes⟩ := List.pairwise_cons.mp hl
      have ⟨hf, hfs⟩ := List.pairwise_cons.mp hl'
      have mem_iff : ∀ k v, (k, v) ∈ e :: es ↔ (k, v) ∈ f :: fs := fun k v => by
        rw [← lookup_eq_some_iff hl, ← lookup_eq_some_iff hl', h k]
      have hef : e = f := by
        rcases List.mem_cons.mp ((mem_iff e.1 e.2).mp (by simp)) with hef | hef
        · exact hef
        · rcases List.mem_cons.mp ((mem_iff f.1 f.2).mpr (by simp)) with hfe | hfe
          · exact hfe.symm
          · exact absurd (KeyOrder.trans (he _ hfe) (hf _ hef)) (KeyOrder.irrefl _)
      subst hef
      refine congrArg (e :: ·) (ih hes fs hfs fun k => ?_)
      by_cases hk : e.1 = k
      · rw [lookup_eq_none_of_lt (hk ▸ he), lookup_eq_none_of_lt (hk ▸ hf)]
      · simpa [lookup, hk] using h k

end SortedMap

end Vigil
