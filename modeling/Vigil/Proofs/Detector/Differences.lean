import Vigil.Proofs.Detector.Mail

/-!
What one message announces. While taking part, a detector queues exactly the differences between the
failed instances before the message and after it, each once (`declares_respond`). So a message
announces about an instance that it has failed, or that it is alive again, or nothing.
-/

namespace Vigil

namespace Transition

/-- The transition tells how the second of two sets of failed instances differs from the first. -/
def Between (s s' : InstanceSet) : Transition → Prop
  | failed id => id ∉ s ∧ id ∈ s'
  | alive id => id ∈ s ∧ id ∉ s'

/-- What there is to tell about `x` when the failed instances change from one set to another. -/
def about (x : InstanceId) (s s' : InstanceSet) : List Transition :=
  if x ∈ s then if x ∈ s' then [] else [.alive x] else if x ∈ s' then [.failed x] else []

variable {s s' s'' : InstanceSet} {x : InstanceId} {l : List Transition}

theorem about_congr (same : x ∈ s ↔ x ∈ s') : about x s s'' = about x s' s'' := by
  simp only [about, same]

/-- Where nobody but `x` is failed before or after, that is all there is to tell. -/
theorem mem_about (only : ∀ y ∈ s, y = x) (only' : ∀ y ∈ s', y = x) {t : Transition} :
    t ∈ about x s s' ↔ t.Between s s' := by
  cases t with
  | failed y =>
      have other (hy : y ∈ s') : y = x := only' y hy
      by_cases hs : x ∈ s <;> by_cases hs' : x ∈ s' <;> simp [about, Between, hs, hs'] <;> grind
  | alive y =>
      have other (hy : y ∈ s) : y = x := only y hy
      by_cases hs : x ∈ s <;> by_cases hs' : x ∈ s' <;> simp [about, Between, hs, hs'] <;> grind

theorem eq_about (once : l.Nodup) (all : ∀ t, t ∈ l ↔ t.Between s s') (only : ∀ y ∈ s, y = x)
    (only' : ∀ y ∈ s', y = x) : l = about x s s' := by
  have single : about x s s' = [] ∨ ∃ t, about x s s' = [t] := by
    unfold about
    split <;> split <;> simp
  have same (t : Transition) : t ∈ l ↔ t ∈ about x s s' := (all t).trans (mem_about only only').symm
  rcases single with none | ⟨t, one⟩
  · rw [none] at same ⊢
    exact List.eq_nil_iff_forall_not_mem.mpr fun t ht => List.not_mem_nil ((same t).mp ht)
  · rw [one] at same ⊢
    have perm := (List.perm_ext_iff_of_nodup once (List.nodup_singleton t)).mpr same
    exact List.perm_singleton.mp perm

end Transition

/-- A direction in which a fact may change: it changes once at most. -/
structure OneWay (R : Prop → Prop → Prop) : Prop where
  refl : ∀ p, R p p
  trans : ∀ {p q r}, R p q → R q r → R p r
  once : ∀ {p q r}, R p q → R q r → (p ↔ q) ∨ (q ↔ r)

/-- The fact may come to hold. -/
def Gains (p q : Prop) : Prop := p → q

/-- The fact may cease to hold. -/
def Loses (p q : Prop) : Prop := q → p

theorem oneWay_gains : OneWay Gains where
  refl _ := id
  trans h h' := h' ∘ h
  once h h' := by
    unfold Gains at h h'
    tauto

theorem oneWay_loses : OneWay Loses where
  refl _ := id
  trans h h' := h ∘ h'
  once h h' := by
    unfold Loses at h h'
    tauto

/-- From `s` to `s'` the failure of `x` changes in one direction at most, and `ts` tells just that. -/
structure Swing (R : Prop → Prop → Prop) (x : InstanceId) (s : InstanceSet) (ts : List Transition)
    (s' : InstanceSet) : Prop where
  way : R (x ∈ s) (x ∈ s')
  told : ts = Transition.about x s s'

theorem Swing.refl {R : Prop → Prop → Prop} (oneWay : OneWay R) (x : InstanceId) (s : InstanceSet) :
    Swing R x s [] s := by
  refine ⟨oneWay.refl _, ?_⟩
  unfold Transition.about
  split <;> rfl

theorem Swing.append {R : Prop → Prop → Prop} (oneWay : OneWay R) {x : InstanceId}
    {s s' s'' : InstanceSet} {ts ts' : List Transition} (h : Swing R x s ts s')
    (h' : Swing R x s' ts' s'') : Swing R x s (ts ++ ts') s'' := by
  refine ⟨oneWay.trans h.way h'.way, ?_⟩
  have once := oneWay.once h.way h'.way
  rw [h.told, h'.told]
  by_cases hs : x ∈ s <;> by_cases hs' : x ∈ s' <;> by_cases hs'' : x ∈ s'' <;>
    simp [Transition.about, hs, hs', hs''] at once ⊢

namespace Detector

variable {d d' d'' : Detector} {me id x : InstanceId} {members : List InstanceId}
  {e : Envelope Signal} {s : InstanceSet}

/-- On the way from `d` to `d'` exactly the differences between their failed instances are queued. -/
def Declares (d d' : Detector) : Prop :=
  ∃ l, d'.pending = d.pending ++ l ∧ l.Nodup ∧ ∀ t, t ∈ l ↔ t.Between d.failed d'.failed

theorem declares_of_same (pending : d'.pending = d.pending) (failed : d'.failed = d.failed) :
    Declares d d' := by
  refine ⟨[], by simp [pending], List.nodup_nil, fun t => iff_of_false List.not_mem_nil ?_⟩
  rw [failed]
  cases t with
  | failed id => exact fun h => h.1 h.2
  | alive id => exact fun h => h.2 h.1

theorem Declares.trans (h : Declares d d') (h' : Declares d' d'')
    (once : ∀ id, (id ∈ d.failed ↔ id ∈ d'.failed) ∨ (id ∈ d'.failed ↔ id ∈ d''.failed)) :
    Declares d d'' := by
  obtain ⟨l, pending, nodup, all⟩ := h
  obtain ⟨l', pending', nodup', all'⟩ := h'
  refine ⟨l ++ l', by rw [pending', pending, List.append_assoc], ?_, fun t => ?_⟩
  · refine List.nodup_append.mpr ⟨nodup, nodup', ?_⟩
    rintro t ht _ ht' rfl
    rw [all] at ht
    rw [all'] at ht'
    cases t with
    | failed id => exact ht'.1 ht.2
    | alive id => exact ht.2 ht'.1
  · rw [List.mem_append, all, all']
    cases t with
    | failed id | alive id =>
        have once := once id
        simp only [Transition.Between]
        tauto

theorem declares_markFailed (d : Detector) (id : InstanceId) : Declares d (d.markFailed id) := by
  unfold markFailed
  split
  · rename_i h
    refine ⟨[.failed id], rfl, List.nodup_singleton _, fun t => ?_⟩
    cases t with
    | failed y =>
        simp only [Transition.Between, List.mem_singleton, SortedSet.mem_insert]
        constructor
        · rintro ⟨⟩
          exact ⟨h.2, .inl rfl⟩
        · rintro ⟨absent, rfl | present⟩
          · rfl
          · exact absurd present absent
    | alive y => simp +contextual [Transition.Between, SortedSet.mem_insert]
  · exact declares_of_same rfl rfl

theorem declares_clearFailed (d : Detector) (id : InstanceId) : Declares d (d.clearFailed id) := by
  unfold clearFailed
  split
  · rename_i h
    refine ⟨[.alive id], rfl, List.nodup_singleton _, fun t => ?_⟩
    cases t with
    | failed y => simp +contextual [Transition.Between, SortedSet.mem_erase]
    | alive y =>
        simp only [Transition.Between, List.mem_singleton, SortedSet.mem_erase]
        constructor
        · rintro ⟨⟩
          exact ⟨h.1, fun still => still.2 rfl⟩
        · rintro ⟨present, gone⟩
          have same : y = id := by
            by_contra other
            exact gone ⟨present, other⟩
          rw [same]
  · exact declares_of_same rfl rfl

theorem declares_markAll (l : List InstanceId) (d : Detector) :
    Declares d (l.foldl markFailed d) := by
  induction l generalizing d with
  | nil => exact declares_of_same rfl rfl
  | cons id l ih =>
      refine (d.declares_markFailed id).trans (ih _) fun y => ?_
      rw [mem_failed_markAll, mem_failed_markFailed]
      by_cases hy : y = id
      · subst hy
        tauto
      · tauto

theorem declares_clearAll (l : List InstanceId) (d : Detector) :
    Declares d (l.foldl clearFailed d) := by
  induction l generalizing d with
  | nil => exact declares_of_same rfl rfl
  | cons id l ih =>
      refine (d.declares_clearFailed id).trans (ih _) fun y => ?_
      rw [mem_failed_clearAll, mem_failed_clearFailed]
      by_cases hy : y = id
      · subst hy
        tauto
      · tauto

theorem declares_receiveReport (d : Detector) (q : InstanceId) (s : InstanceSet) :
    Declares d (d.receiveReport q s) := by
  have marked := declares_markAll (s.erase d.me).toList (d.setReport q (s.erase d.me))
  have cleared := declares_clearAll ((d.reportOf q).diff (s.erase d.me)).toList
    ((s.erase d.me).toList.foldl markFailed (d.setReport q (s.erase d.me)))
  have all := marked.trans cleared fun y => ?_
  · exact all
  · -- Whoever is marked is in the report, and only who is not in it any more is cleared.
    rw [mem_failed_clearAll, SortedSet.mem_toList, SortedSet.mem_diff, mem_failed_markAll,
      SortedSet.mem_toList]
    tauto

theorem declares_heardFrom (d : Detector) (id : InstanceId) : Declares d (d.heardFrom id).1 := by
  have same : (d.hear id).pending = d.pending ∧ (d.hear id).failed = d.failed := by
    unfold hear
    split <;> exact ⟨rfl, rfl⟩
  have cleared := (d.hear id).declares_clearFailed id
  unfold Declares at cleared ⊢
  rwa [heardFrom_eq, ← same.1, ← same.2]

theorem declares_suspect (d : Detector) (id : InstanceId) : Declares d (d.suspect id) := by
  rw [suspect_eq]
  split
  · exact declares_of_same rfl rfl
  · exact declares_markFailed (d.accuse id) id

theorem declares_respond (hw : d.Watches me members) (ha : Awaited me members e) :
    Declares d (d.respondInHeartbeat e).detector := by
  cases ha with
  | due key hk hp hne =>
      cases key with
      | receive p =>
          rw [respond_timedOut hw hk hp]
          exact d.declares_suspect p
      | send p =>
          rw [respond_sendHeartbeat hw hk hp hne]
          exact declares_of_same rfl rfl
  | heartbeat q h hq hne =>
      rw [respond_iAmAlive hw h hq hne]
      exact d.declares_heardFrom q
  | report q s h hs =>
      rw [respond_suspicions h hs]
      exact d.declares_receiveReport q s

end Detector
end Vigil
