import Vigil.Proofs.Network.Conservation

/-!
What cannot be delivered leaves no trace on what can. A draw is taken only for a copy to a running
instance, so a posting without such copies changes neither the draws to come nor the counts of the
lost and the delivered (`alike_post`). Two sequences of postings that differ in such postings only
therefore see the same losses.
-/

namespace Vigil

namespace Posting

/-- No copy can be delivered to another instance. -/
inductive Undeliverable (p : Posting) : Prop where
  | internal (h : p.envelope.recipient? = none)
  | malformed {address : String} {bad : BadInstanceId} (h : p.envelope.recipient? = some address)
      (directed : address ≠ Header.everybody) (parsed : InstanceId.parse address = .error bad)
  | stopped {address : String} {id : InstanceId} (h : p.envelope.recipient? = some address)
      (directed : address ≠ Header.everybody) (parsed : InstanceId.parse address = .ok id)
      (out : id ∉ p.running)
  | alone (h : p.envelope.recipient? = some Header.everybody)
      (nobody : ∀ id ∈ p.running, id = p.sender)

theorem Undeliverable.not_running {p : Posting} (hp : p.Undeliverable) :
    ∀ id ∈ p.targets, id ∉ p.running := by
  intro id target
  cases hp with
  | internal h =>
      rw [targets_of_internal h] at target
      exact absurd target List.not_mem_nil
  | malformed h directed parsed =>
      rw [targets_of_malformed h directed parsed] at target
      exact absurd target List.not_mem_nil
  | stopped h directed parsed out =>
      rw [targets_of_directed h directed parsed, List.mem_singleton] at target
      exact target ▸ out
  | alone h nobody => exact fun running => ne_sender_of_mem_targets h target (nobody id running)

end Posting

/-- One place in a revision of a sequence of postings. -/
inductive Revision where
  | kept (p : Posting)
  | deleted (p : Posting)
  | inserted (p : Posting)

namespace Revision

/-- What the old sequence has at this place. -/
def old? : Revision → Option Posting
  | kept p | deleted p => some p
  | inserted _ => none

/-- What the new sequence has at this place. -/
def new? : Revision → Option Posting
  | kept p | inserted p => some p
  | deleted _ => none

/-- Only what cannot be delivered is deleted or inserted. -/
def Spares : Revision → Prop
  | kept _ => True
  | deleted p | inserted p => p.Undeliverable

end Revision

namespace Network

variable {γ : Type}

/-- Two networks with the same losses so far and to come. -/
structure Alike (n m : Network γ) : Prop where
  draws_eq : n.draws = m.draws
  rate_eq : n.rate = m.rate
  lost_eq : n.stats.lost = m.stats.lost
  delivered_eq : n.stats.delivered = m.stats.delivered

theorem Alike.refl (n : Network γ) : n.Alike n := ⟨rfl, rfl, rfl, rfl⟩

theorem Alike.symm {n m : Network γ} (h : n.Alike m) : m.Alike n :=
  ⟨h.draws_eq.symm, h.rate_eq.symm, h.lost_eq.symm, h.delivered_eq.symm⟩

theorem Alike.trans {n m l : Network γ} (h : n.Alike m) (h' : m.Alike l) : n.Alike l :=
  ⟨h.draws_eq.trans h'.draws_eq, h.rate_eq.trans h'.rate_eq, h.lost_eq.trans h'.lost_eq,
    h.delivered_eq.trans h'.delivered_eq⟩

variable [DrawSource γ] {n m : Network γ} {p : Posting}

theorem Alike.carry (h : n.Alike m) (running : InstanceSet) (id : InstanceId) :
    (n.carry running id).1.Alike (m.carry running id).1 ∧
      (n.carry running id).2 = (m.carry running id).2 := by
  obtain ⟨draws, rate, lost, delivered⟩ := h
  unfold Network.carry
  dsimp only
  rw [draws, rate]
  split
  · exact ⟨⟨rfl, rfl, lost, delivered⟩, rfl⟩
  split
  · exact ⟨⟨rfl, rfl, lost, congrArg (· + 1) delivered⟩, rfl⟩
  split
  · exact ⟨⟨rfl, rfl, congrArg (· + 1) lost, delivered⟩, rfl⟩
  · exact ⟨⟨rfl, rfl, lost, congrArg (· + 1) delivered⟩, rfl⟩

theorem Alike.carryAll (h : n.Alike m) (running : InstanceSet) (ids : List InstanceId) :
    (n.carryAll running ids).1.Alike (m.carryAll running ids).1 ∧
      (n.carryAll running ids).2 = (m.carryAll running ids).2 := by
  induction ids generalizing n m with
  | nil => exact ⟨h, rfl⟩
  | cons id ids ih =>
      obtain ⟨first, arrived⟩ := h.carry running id
      obtain ⟨rest, reached⟩ := ih first
      refine ⟨rest, ?_⟩
      unfold Network.carryAll
      dsimp only
      rw [arrived, reached]

/-- Networks that are alike give the same answer, and stay alike. -/
theorem Alike.post (h : n.Alike m) (p : Posting) :
    (n.post p).1.Alike (m.post p).1 ∧ (n.post p).2 = (m.post p).2 := by
  cases hp : p.envelope.recipient? with
  | none =>
      rw [post_of_internal hp, post_of_internal hp]
      exact ⟨h, rfl⟩
  | some address =>
      obtain ⟨network, reached⟩ := h.carryAll p.running p.targets
      rw [post_of_recipient hp, post_of_recipient hp, reached]
      exact ⟨network, rfl⟩

theorem alike_carryAll {running : InstanceSet} {ids : List InstanceId}
    (h : ∀ id ∈ ids, id ∉ running) : (n.carryAll running ids).1.Alike n := by
  induction ids generalizing n with
  | nil => exact .refl n
  | cons id ids ih =>
      have first : (n.carry running id).1.Alike n := by
        simp only [Network.carry, h id List.mem_cons_self, not_false_eq_true, if_true]
        exact ⟨rfl, rfl, rfl, rfl⟩
      exact (ih fun other ho => h other (List.mem_cons_of_mem id ho)).trans first

theorem alike_post (h : p.Undeliverable) : (n.post p).1.Alike n := by
  cases hp : p.envelope.recipient? with
  | none =>
      rw [post_of_internal hp]
      exact .refl n
  | some address =>
      rw [post_of_recipient hp]
      exact alike_carryAll h.not_running

theorem Alike.revised (h : n.Alike m) {rs : List Revision} (spares : ∀ r ∈ rs, r.Spares) :
    (n.postAll (rs.filterMap Revision.old?)).Alike (m.postAll (rs.filterMap Revision.new?)) := by
  induction rs generalizing n m with
  | nil => exact h
  | cons r rs ih =>
      have rest : ∀ r ∈ rs, r.Spares := fun r hr => spares r (List.mem_cons_of_mem _ hr)
      have here : r.Spares := spares r List.mem_cons_self
      cases r with
      | kept p => exact ih (h.post p).1 rest
      | deleted p => exact ih ((alike_post here).trans h) rest
      | inserted p => exact ih (h.trans (alike_post here).symm) rest

/-- Deleting and inserting postings that cannot be delivered changes nothing for the others: each
is answered as before, and as many copies are lost and delivered in the end. -/
theorem undeliverable_leaves_no_trace (n : Network γ) {rs : List Revision}
    (spares : ∀ r ∈ rs, r.Spares) :
    (∀ l p l', rs = l ++ .kept p :: l' →
      ((n.postAll (l.filterMap Revision.old?)).post p).2 =
        ((n.postAll (l.filterMap Revision.new?)).post p).2) ∧
    (n.postAll (rs.filterMap Revision.old?)).stats.lost =
      (n.postAll (rs.filterMap Revision.new?)).stats.lost ∧
    (n.postAll (rs.filterMap Revision.old?)).stats.delivered =
      (n.postAll (rs.filterMap Revision.new?)).stats.delivered := by
  have whole := (Alike.refl n).revised spares
  refine ⟨fun l p l' hrs => ?_, whole.lost_eq, whole.delivered_eq⟩
  have before : ∀ r ∈ l, r.Spares := fun r hr => spares r (hrs ▸ List.mem_append_left _ hr)
  exact (((Alike.refl n).revised before).post p).2

/-- Every other draw loses a copy, more or less. -/
def coin : Network CipherDraws := start (.ofSeed 9) ⟨4503599627370496⟩

/-- What the first sends to one recipient while only the first and the second run. -/
def fromFirst (recipient : String) : Posting := ⟨1, .sendTo .join recipient, .ofList [1, 2]⟩

/-- Between two messages to the second, a timer of the first is left out, and there come a message
to the third, which has stopped, one to what is no instance, and one to everybody of a third that
runs alone. -/
def thirdStops : List Revision :=
  [.kept (fromFirst "2"), .deleted ⟨1, .internal .join, .ofList [1, 2]⟩,
    .inserted (fromFirst "3"), .inserted (fromFirst "third"),
    .inserted ⟨3, .broadcast .join, .ofList [3]⟩, .kept (fromFirst "2")]

/-- The first message to the second arrives and the second one is lost, either way. -/
theorem second_message_lost_either_way :
    (∀ r ∈ thirdStops, r.Spares) ∧
      (coin.post (fromFirst "2")).2.1.length = 1 ∧
      ((coin.postAll ((thirdStops.take 5).filterMap Revision.old?)).post (fromFirst "2")).2.1 = [] ∧
      ((coin.postAll ((thirdStops.take 5).filterMap Revision.new?)).post (fromFirst "2")).2.1 =
        [] := by
  have third : InstanceId.parse "3" = .ok 3 := rfl
  have word : InstanceId.parse "third" = .error ⟨"third"⟩ := rfl
  have spares : ∀ r ∈ thirdStops, r.Spares := by
    simp only [thirdStops, List.forall_mem_cons, List.not_mem_nil, false_implies, implies_true,
      and_true]
    exact ⟨trivial, .internal rfl, .stopped rfl (by decide) third (by decide),
      .malformed rfl (by decide) word, .alone rfl (by decide), trivial⟩
  have lost : ((coin.postAll ((thirdStops.take 5).filterMap Revision.old?)).post
      (fromFirst "2")).2.1 = [] := by decide +kernel
  have same := (undeliverable_leaves_no_trace coin spares).1 (thirdStops.take 5) (fromFirst "2") []
    rfl
  exact ⟨spares, by decide +kernel, lost, by rw [← same, lost]⟩

end Network
end Vigil
