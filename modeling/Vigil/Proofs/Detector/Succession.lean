import Mathlib.Tactic.MkIffOfInductiveProp
import Vigil.Proofs.Detector.Operations

/-!
Who takes over from a failed coordinator, where all members see the same cluster and hold the same
reports. Each member decides alone: it takes over if no member in front of it, the coordinator apart,
suspects the coordinator (`shouldPromote_iff`). So those that take over are the ones up to the first
accuser of the coordinator, whether they suspect it themselves or not, and whether that accuser is
alive or not. At most one of them is an accuser (`at_most_one_accusing_successor`), and one of them is
alive unless the first accuser has failed and all in front of it too (`live_successor_iff`).
-/

namespace Vigil

/-- What the members of a cluster share: their list, who is elected coordinator, and the last report
of each reporter, a member or not. -/
structure Outlook where
  members : List InstanceId
  elected : Option InstanceId
  reports : SortedMap InstanceId InstanceSet

namespace Outlook

/-- The coordinator is whoever is elected, or else the first member. -/
def coordinator? (o : Outlook) : Option InstanceId := o.elected.or o.members.head?

def reportOf (o : Outlook) (r : InstanceId) : InstanceSet := (o.reports.get? r).getD ∅

def accuses (o : Outlook) (r x : InstanceId) : Bool := decide (x ∈ o.reportOf r)

def votes (o : Outlook) (x : InstanceId) : Nat :=
  o.reports.toList.countP fun r => decide (x ∈ r.2)

def isFailed (o : Outlook) (x : InstanceId) : Bool := decide (o.members.length / 2 < o.votes x)

/-- The members that can take over from `c`, in their order. -/
def line (o : Outlook) (c : InstanceId) : List InstanceId := o.members.filter (· != c)

/-- Those of the line in front of `m`. -/
def ahead (o : Outlook) (c m : InstanceId) : List InstanceId := (o.line c).takeWhile (· != m)

/-- The coordinator `c` has failed, and nobody in front of `m` suspects it. -/
@[mk_iff]
structure Succeeds (o : Outlook) (c m : InstanceId) : Prop where
  failed : o.isFailed c = true
  mem_line : m ∈ o.line c
  first : ∀ a ∈ o.ahead c m, ¬ o.accuses a c = true

end Outlook

namespace Detector

/-- The detector of `me` holds what the members share, but no suspicion of `me`. -/
structure Shares (d : Detector) (o : Outlook) (me : InstanceId) : Prop where
  me_eq : d.me = me
  members_eq : d.cluster.members = o.members
  elected_eq : d.cluster.elected coordinatorRole = o.elected
  reportOf_eq : ∀ r, d.reportOf r = (o.reportOf r).erase me

def receiveAll (d : Detector) (reports : List (InstanceId × InstanceSet)) : Detector :=
  reports.foldl (fun d e => d.receiveReport e.1 e.2) d

variable {d : Detector} {o : Outlook} {me c m x : InstanceId}

theorem cluster_receiveAll (d : Detector) (reports : List (InstanceId × InstanceSet)) :
    (d.receiveAll reports).cluster = d.cluster := by
  induction reports generalizing d with
  | nil => rfl
  | cons e reports ih => exact (ih _).trans (d.cluster_receiveReport e.1 e.2)

theorem reportOf_receiveAll (d : Detector) {reports : List (InstanceId × InstanceSet)}
    (h : reports.Pairwise fun a b => a.1 < b.1) (r : InstanceId) :
    (d.receiveAll reports).reportOf r =
      ((SortedMap.lookup r reports).map (·.erase d.me)).getD (d.reportOf r) := by
  induction reports generalizing d with
  | nil => rfl
  | cons e reports ih =>
      obtain ⟨first, h⟩ := List.pairwise_cons.mp h
      have later := ih (d.receiveReport e.1 e.2) h
      have me_eq : (d.receiveReport e.1 e.2).me = d.me :=
        congrArg Cluster.me (d.cluster_receiveReport e.1 e.2)
      ext x
      rw [receiveAll, List.foldl_cons, ← receiveAll, later, me_eq]
      by_cases hr : r = e.1
      · have none : SortedMap.lookup e.1 reports = none := SortedMap.lookup_eq_none_of_lt first
        simp [SortedMap.lookup, hr, none, mem_reportOf_receiveReport]
      · have same : (d.receiveReport e.1 e.2).reportOf r = d.reportOf r := by
          ext x
          rw [mem_reportOf_receiveReport, if_neg hr]
        simp [SortedMap.lookup, Ne.symm hr, same]

theorem Shares.coordinator?_eq (h : d.Shares o me) :
    d.cluster.coordinator? = o.coordinator? := by
  unfold Cluster.coordinator? Outlook.coordinator?
  rw [h.elected_eq, h.members_eq]
  cases o.elected <;> rfl

theorem Shares.isFailed_eq (h : d.Shares o me) (hx : x ≠ me) : d.isFailed x = o.isFailed x := by
  have votes : d.votes x = votes { d with reports := o.reports } x :=
    votes_eq fun r => by
      rw [h.reportOf_eq, SortedSet.mem_erase, and_iff_left hx]
      rfl
  rw [isFailed, votes, h.members_eq]
  rfl

/-- A look through the members in front of this instance, leaving out the coordinator. -/
theorem firstInLine_iff (hc : c ≠ d.me) {l : List InstanceId} :
    d.firstInLine c l = true ↔ d.me ∈ l.filter (· != c) ∧
      ∀ a ∈ (l.filter (· != c)).takeWhile (· != d.me), c ∉ d.reportOf a := by
  induction l with
  | nil => simp [firstInLine]
  | cons m l ih =>
      by_cases hm : m = d.me
      · simp [firstInLine, hm, Ne.symm hc]
      by_cases hmc : m = c
      · simp [firstInLine, hmc, hc, ih]
      by_cases hr : c ∈ d.reportOf m
      · simp [firstInLine, hm, hmc, hr]
      · simp [firstInLine, hm, hmc, hr, ih, Ne.symm hm]

theorem Shares.shouldPromote_iff (h : d.Shares o me) (hc : o.coordinator? = some c) :
    d.shouldPromote = true ↔ o.Succeeds c me := by
  have me_eq := h.me_eq
  rw [Outlook.succeeds_iff]
  unfold shouldPromote
  rw [h.coordinator?_eq, hc]
  by_cases hme : c = me
  · simp [me_eq, hme, Outlook.line]
  have failed := h.isFailed_eq hme
  cases hf : o.isFailed c with
  | false => simp [failed, hf]
  | true =>
      have line := firstInLine_iff (d := d) (l := d.cluster.members) (me_eq.symm ▸ hme)
      simpa [me_eq, hme, failed, hf, h.members_eq, h.reportOf_eq, Outlook.ahead, Outlook.line,
        Outlook.accuses] using line

end Detector

namespace Outlook

variable {o : Outlook} {c m p q f : InstanceId}

/-! ### Places in the line -/

theorem mem_line : m ∈ o.line c ↔ m ∈ o.members ∧ m ≠ c := by
  simp [line]

theorem mem_ahead_split {l l' : List InstanceId} (h : o.line c = l ++ m :: l')
    (hp : p ∈ o.ahead c m) : p ∈ l := by
  rw [ahead, h] at hp
  clear h
  induction l with
  | nil => simp at hp
  | cons a l ih =>
      by_cases ha : a = m
      · simp [ha] at hp
      · rw [List.cons_append, List.takeWhile_cons_of_pos (by simpa using ha)] at hp
        rcases List.mem_cons.mp hp with rfl | hp
        · exact List.mem_cons_self
        · exact List.mem_cons_of_mem a (ih hp)

theorem mem_line_of_mem_ahead (h : p ∈ o.ahead c m) : p ∈ o.line c :=
  (List.takeWhile_prefix _).subset h

/-- Of two in the line one stands in front of the other. -/
theorem eq_or_mem_ahead (hp : p ∈ o.line c) (hq : q ∈ o.line c) :
    p = q ∨ p ∈ o.ahead c q ∨ q ∈ o.ahead c p := by
  unfold ahead
  generalize o.line c = l at hp hq ⊢
  induction l with
  | nil => exact absurd hp List.not_mem_nil
  | cons a l ih =>
      by_cases hpa : p = a
      · by_cases hqa : q = a
        · exact .inl (hpa.trans hqa.symm)
        · simp [hpa, Ne.symm hqa]
      · by_cases hqa : q = a
        · simp [hqa, Ne.symm hpa]
        · simpa [hpa, hqa, Ne.symm hpa, Ne.symm hqa] using
            ih (by simpa [hpa] using hp) (by simpa [hqa] using hq)

theorem ahead_trans (h : p ∈ o.ahead c q) (h' : q ∈ o.ahead c m) : p ∈ o.ahead c m := by
  unfold ahead at h h' ⊢
  generalize o.line c = l at h h' ⊢
  induction l with
  | nil => exact absurd h List.not_mem_nil
  | cons a l ih =>
      by_cases ham : a = m
      · simp [ham] at h'
      by_cases haq : a = q
      · simp [haq] at h
      · simp only [List.takeWhile_cons, bne_iff_ne, ne_eq, ham, haq, not_false_eq_true, if_true,
          List.mem_cons] at h h' ⊢
        exact h.imp_right fun h => ih h (h'.resolve_left (Ne.symm haq))

/-! ### Those that succeed -/

/-- Whoever stands behind another that succeeds has made sure that the other is no accuser. -/
theorem Succeeds.eq_or_not_accuses (hp : o.Succeeds c p) (hq : o.Succeeds c q) :
    p = q ∨ ¬ o.accuses p c = true ∨ ¬ o.accuses q c = true := by
  rcases eq_or_mem_ahead hp.mem_line hq.mem_line with heq | h | h
  · exact .inl heq
  · exact .inr (.inl (hq.first p h))
  · exact .inr (.inr (hp.first q h))

theorem Succeeds.of_mem_ahead (hq : o.Succeeds c q) (hp : p ∈ o.ahead c q) : o.Succeeds c p where
  failed := hq.failed
  mem_line := mem_line_of_mem_ahead hp
  first a ha := hq.first a (ahead_trans ha hp)

theorem succeeds_of_head? (failed : o.isFailed c = true) (h : (o.line c).head? = some f) :
    o.Succeeds c f where
  failed := failed
  mem_line := List.mem_of_mem_head? h
  first a ha := by
    obtain ⟨l, hl⟩ := List.head?_eq_some_iff.mp h
    simp [Outlook.ahead, hl] at ha

theorem Succeeds.eq_head (hp : o.Succeeds c p) (h : (o.line c).head? = some f)
    (accuses : o.accuses f c = true) : p = f := by
  obtain ⟨l, hl⟩ := List.head?_eq_some_iff.mp h
  by_contra hne
  have front : f ∈ o.ahead c p := by
    simp [Outlook.ahead, hl, Ne.symm hne]
  exact hp.first f front accuses

/-- No single instance that is no accuser keeps the others from succeeding. -/
theorem exists_succeeds_ne (failed : o.isFailed c = true) (accuses : ¬ o.accuses f c = true)
    (hp : p ∈ o.line c) (hne : p ≠ f) : ∃ q, o.Succeeds c q ∧ q ≠ f := by
  have found : ((o.line c).find? (· != f)).isSome = true :=
    List.find?_isSome.mpr ⟨p, hp, by simpa using hne⟩
  obtain ⟨q, hq⟩ := Option.isSome_iff_exists.mp found
  obtain ⟨other, l, l', hl, before⟩ := List.find?_eq_some_iff_append.mp hq
  refine ⟨q, ⟨failed, List.mem_of_find?_eq_some hq, fun a ha => ?_⟩, by simpa using other⟩
  have first : a = f := by simpa using before a (mem_ahead_split hl ha)
  rwa [first]

theorem succeeds_of_first_accuser (failed : o.isFailed c = true)
    (h : (o.line c).find? (o.accuses · c) = some f) : o.Succeeds c f where
  failed := failed
  mem_line := List.mem_of_find?_eq_some h
  first a ha := by
    obtain ⟨-, l, l', hl, before⟩ := List.find?_eq_some_iff_append.mp h
    simpa using before a (mem_ahead_split hl ha)

theorem Succeeds.eq_or_mem_ahead_first_accuser (hp : o.Succeeds c p)
    (h : (o.line c).find? (o.accuses · c) = some f) : p = f ∨ p ∈ o.ahead c f := by
  rcases eq_or_mem_ahead hp.mem_line (List.mem_of_find?_eq_some h) with heq | hpf | hfp
  · exact .inl heq
  · exact .inr hpf
  · have accuses : o.accuses f c = true := by simpa using List.find?_some h
    exact absurd accuses (hp.first f hfp)

theorem succeeds_of_no_accuser (failed : o.isFailed c = true)
    (h : (o.line c).find? (o.accuses · c) = none) (hm : m ∈ o.line c) : o.Succeeds c m where
  failed := failed
  mem_line := hm
  first a ha := by
    simpa using List.find?_eq_none.mp h a (mem_line_of_mem_ahead ha)

theorem succeeds_unique_iff :
    (∀ p q, o.Succeeds c p → o.Succeeds c q → p = q) ↔
      o.isFailed c = false ∨ (∀ p ∈ o.line c, ∀ q ∈ o.line c, p = q) ∨
        ∃ f, (o.line c).head? = some f ∧ o.accuses f c = true := by
  constructor
  · intro unique
    cases failed : o.isFailed c with
    | false => exact .inl rfl
    | true =>
        refine .inr ?_
        cases hf : (o.line c).head? with
        | none =>
            rw [List.head?_eq_none_iff.mp hf]
            exact .inl fun p hp => absurd hp List.not_mem_nil
        | some f =>
            by_cases accuses : o.accuses f c = true
            · exact .inr ⟨f, rfl, accuses⟩
            have all_first : ∀ p ∈ o.line c, p = f := by
              intro p hp
              by_contra hne
              obtain ⟨q, hq, hqf⟩ := exists_succeeds_ne failed accuses hp hne
              exact hqf (unique q f hq (succeeds_of_head? failed hf))
            exact .inl fun p hp q hq => (all_first p hp).trans (all_first q hq).symm
  · rintro (failed | one | ⟨f, hf, accuses⟩) p q hp hq
    · exact absurd (hp.failed.symm.trans failed) (by simp)
    · exact one p hp.mem_line q hq.mem_line
    · exact (hp.eq_head hf accuses).trans (hq.eq_head hf accuses).symm

theorem exists_succeeds (failed : o.isFailed c = true) (hm : m ∈ o.line c) :
    ∃ p, o.Succeeds c p := by
  cases hf : (o.line c).head? with
  | none => exact absurd hm (List.head?_eq_none_iff.mp hf ▸ List.not_mem_nil)
  | some f => exact ⟨f, succeeds_of_head? failed hf⟩

theorem exists_live_succeeds_iff (failed : o.isFailed c = true) (hm : m ∈ o.line c)
    (alive : o.isFailed m = false) :
    (∃ p, o.isFailed p = false ∧ o.Succeeds c p) ↔
      ∀ f, (o.line c).find? (o.accuses · c) = some f →
        o.isFailed f = false ∨ ∃ a ∈ o.ahead c f, o.isFailed a = false := by
  constructor
  · rintro ⟨p, ap, hp⟩ f hf
    rcases hp.eq_or_mem_ahead_first_accuser hf with rfl | ahead
    · exact .inl ap
    · exact .inr ⟨p, ahead, ap⟩
  · intro first
    cases hf : (o.line c).find? (o.accuses · c) with
    | none => exact ⟨m, alive, succeeds_of_no_accuser failed hf hm⟩
    | some f =>
        have sf := succeeds_of_first_accuser failed hf
        rcases first f hf with af | ⟨a, ha, aa⟩
        · exact ⟨f, af, sf⟩
        · exact ⟨a, aa, sf.of_mem_ahead ha⟩

/-! ### Members that share an outlook -/

/-- The detector of `me` after it has got the reports, one after the other. -/
def instilled (o : Outlook) (timers : HeartbeatTimers) (me : InstanceId) : Detector :=
  (Detector.start ⟨me, o.members, o.elected.elim ∅ fun c =>
    (∅ : SortedMap String InstanceId).insert coordinatorRole c⟩ timers).receiveAll o.reports.toList

/-- Any outlook can be shared: the reports instil it. -/
theorem shares_instilled (o : Outlook) (timers : HeartbeatTimers) (me : InstanceId) :
    (o.instilled timers me).Shares o me := by
  have cluster := Detector.cluster_receiveAll (.start ⟨me, o.members, o.elected.elim ∅ fun c =>
    (∅ : SortedMap String InstanceId).insert coordinatorRole c⟩ timers) o.reports.toList
  refine ⟨congrArg Cluster.me cluster, congrArg Cluster.members cluster, ?_, fun r => ?_⟩
  · refine (congrArg (Cluster.elected · coordinatorRole) cluster).trans ?_
    cases o.elected <;> simp [Cluster.elected, Detector.start]
  · have found : SortedMap.lookup r o.reports.toList = o.reports.get? r := rfl
    refine (Detector.reportOf_receiveAll _ o.reports.increasing r).trans ?_
    rw [found, reportOf]
    cases o.reports.get? r <;> rfl

section Shared

variable {view : InstanceId → Detector}

theorem promote_iff_succeeds (hc : o.coordinator? = some c)
    (shared : ∀ m ∈ o.members, (view m).Shares o m) :
    m ∈ o.members ∧ (view m).shouldPromote = true ↔ o.Succeeds c m := by
  constructor
  · rintro ⟨hm, pm⟩
    exact ((shared m hm).shouldPromote_iff hc).mp pm
  · intro sm
    have hm := (mem_line.mp sm.mem_line).1
    exact ⟨hm, ((shared m hm).shouldPromote_iff hc).mpr sm⟩

/-- Of the members that take over at most one suspects the coordinator itself. At most one takes
over altogether exactly if the coordinator has not failed, or there is no more than one other
member, or the first other member suspects the coordinator. -/
theorem at_most_one_accusing_successor (hc : o.coordinator? = some c)
    (shared : ∀ m ∈ o.members, (view m).Shares o m) :
    (∀ p ∈ o.members, ∀ q ∈ o.members, o.accuses p c = true → o.accuses q c = true →
      (view p).shouldPromote = true → (view q).shouldPromote = true → p = q) ∧
    ((∀ p ∈ o.members, ∀ q ∈ o.members,
        (view p).shouldPromote = true → (view q).shouldPromote = true → p = q) ↔
      o.isFailed c = false ∨ (∀ p ∈ o.line c, ∀ q ∈ o.line c, p = q) ∨
        ∃ f, (o.line c).head? = some f ∧ o.accuses f c = true) := by
  have succeeds {m : InstanceId} := promote_iff_succeeds (m := m) hc shared
  rw [← succeeds_unique_iff]
  refine ⟨fun p hp q hq accp accq pp pq => ?_, fun unique p q sp sq => ?_,
    fun unique p hp q hq pp pq => unique p q (succeeds.mp ⟨hp, pp⟩) (succeeds.mp ⟨hq, pq⟩)⟩
  · rcases (succeeds.mp ⟨hp, pp⟩).eq_or_not_accuses (succeeds.mp ⟨hq, pq⟩) with heq | h | h
    · exact heq
    · exact absurd accp h
    · exact absurd accq h
  · obtain ⟨hp, pp⟩ := succeeds.mpr sp
    obtain ⟨hq, pq⟩ := succeeds.mpr sq
    exact unique p hp q hq pp pq

/-- The second and the third of three do not hear from the first. -/
def silentFirst : Outlook := ⟨[1, 2, 3], none, .ofList [(2, .ofList [1]), (3, .ofList [1])]⟩

/-- The second takes over and the third leaves it to the second. -/
theorem second_succeeds_alone :
    let view := silentFirst.instilled (.start (.fixed (.ofMillis 1000)))
    (∀ m ∈ silentFirst.members, (view m).Shares silentFirst m) ∧
      (view 2).shouldPromote = true ∧
      ∀ p ∈ silentFirst.members, ∀ q ∈ silentFirst.members,
        (view p).shouldPromote = true → (view q).shouldPromote = true → p = q := by
  have shared := silentFirst.shares_instilled (.start (.fixed (.ofMillis 1000)))
  have unique := (at_most_one_accusing_successor (o := silentFirst) (c := 1) rfl
    fun m _ => shared m).2.mpr (.inr (.inr ⟨2, rfl, by decide⟩))
  exact ⟨fun m _ => shared m, by decide +kernel, unique⟩

/-- Of five the last three do not hear from the first, and the second does. -/
def heardBySecond : Outlook :=
  ⟨[1, 2, 3, 4, 5], none, .ofList [(3, .ofList [1]), (4, .ofList [1]), (5, .ofList [1])]⟩

/-- The second takes over, who does not suspect the first, and so does the third, who does. -/
theorem two_successors_of_first :
    let view := heardBySecond.instilled (.start (.fixed (.ofMillis 1000)))
    (∀ m ∈ heardBySecond.members, (view m).Shares heardBySecond m) ∧
      ¬ ∀ p ∈ heardBySecond.members, ∀ q ∈ heardBySecond.members,
        (view p).shouldPromote = true → (view q).shouldPromote = true → p = q := by
  refine ⟨fun m _ => shares_instilled _ _ m, fun unique => ?_⟩
  exact absurd (unique 2 (by decide) 3 (by decide) (by decide +kernel) (by decide +kernel))
    (by decide)

/-- Some member takes over from a failed coordinator, if there is another one that is alive. One
that is alive does so exactly if the first other member that suspects the coordinator, if there is
one, is alive or stands behind one that is. -/
theorem live_successor_iff (hc : o.coordinator? = some c)
    (shared : ∀ m ∈ o.members, (view m).Shares o m) (failed : o.isFailed c = true)
    (hm : m ∈ o.members) (alive : o.isFailed m = false) :
    (∃ p ∈ o.members, (view p).shouldPromote = true) ∧
    ((∃ p ∈ o.members, o.isFailed p = false ∧ (view p).shouldPromote = true) ↔
      ∀ f, (o.line c).find? (o.accuses · c) = some f →
        o.isFailed f = false ∨ ∃ a ∈ o.ahead c f, o.isFailed a = false) := by
  have succeeds {m : InstanceId} := promote_iff_succeeds (m := m) hc shared
  have other : m ∈ o.line c := mem_line.mpr ⟨hm, by
    rintro rfl
    exact absurd (failed.symm.trans alive) (by simp)⟩
  refine ⟨?_, ?_⟩
  · obtain ⟨p, sp⟩ := exists_succeeds failed other
    exact ⟨p, succeeds.mpr sp⟩
  · rw [← exists_live_succeeds_iff failed other alive]
    refine exists_congr fun p => ?_
    rw [← succeeds, and_left_comm]

end Shared

/-- Of five the last three do not hear from the first, and nobody but the first hears from the
third. -/
def failedThird : Outlook :=
  ⟨[1, 2, 3, 4, 5], none, .ofList [(2, .ofList [3]), (3, .ofList [1]), (4, .ofList [1, 3]),
    (5, .ofList [1, 3])]⟩

/-- The first that suspects the coordinator has failed, and the one in front of it takes over. -/
theorem second_succeeds_before_failed_third :
    let view := failedThird.instilled (.start (.fixed (.ofMillis 1000)))
    (∀ m ∈ failedThird.members, (view m).Shares failedThird m) ∧
      failedThird.isFailed 1 = true ∧ failedThird.isFailed 3 = true ∧
      failedThird.isFailed 2 = false ∧
      ∃ p ∈ failedThird.members, failedThird.isFailed p = false ∧
        (view p).shouldPromote = true := by
  have shared := failedThird.shares_instilled (.start (.fixed (.ofMillis 1000)))
  have alive : failedThird.isFailed 2 = false := by decide
  have live := (live_successor_iff (o := failedThird) (c := 1) (m := 2) rfl (fun m _ => shared m)
    (by decide) (by decide) alive).2.mpr fun f hf => by
      cases hf
      exact .inr ⟨2, by decide, alive⟩
  exact ⟨fun m _ => shared m, by decide, by decide, alive, live⟩

/-- Of three the first and the second do not hear from each other, and the third hears from
neither. -/
def lastAlone : Outlook :=
  ⟨[1, 2, 3], none, .ofList [(1, .ofList [2]), (2, .ofList [1]), (3, .ofList [1, 2])]⟩

/-- Only the third is alive, and it leaves taking over to the second, which has failed. -/
theorem no_live_successor :
    let view := lastAlone.instilled (.start (.fixed (.ofMillis 1000)))
    (∀ m ∈ lastAlone.members, (view m).Shares lastAlone m) ∧
      lastAlone.coordinator? = some 1 ∧ lastAlone.isFailed 1 = true ∧
      3 ∈ lastAlone.members ∧ lastAlone.isFailed 3 = false ∧
      ¬ ∃ p ∈ lastAlone.members, lastAlone.isFailed p = false ∧
        (view p).shouldPromote = true := by
  refine ⟨fun m _ => shares_instilled _ _ m, rfl, by decide, by decide, by decide, ?_⟩
  decide +kernel

end Outlook
end Vigil
