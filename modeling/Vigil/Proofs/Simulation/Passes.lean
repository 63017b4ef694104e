import Vigil.Proofs.Node.Lifecycle
import Vigil.Proofs.Simulation.Carriage

/-!
One pass over a cluster in order: every node handles its mail, and what that sends is carried. A
pass keeps the order, and what it carries is of ever fewer kinds: only timers deliver what is due,
a due heartbeat makes an instance send a heartbeat, that and silence may make it send a report, and
a report makes nobody send anything.
-/

namespace Vigil

open Detector (Awaited)
open Envelope (reportsFor)

namespace Simulation

variable {γ : Type}

/-- The members, each of them once. -/
def group (s : Simulation γ) : List InstanceId := Cluster.seen s.members

theorem mem_group {s : Simulation γ} {x : InstanceId} : x ∈ s.group ↔ x ∈ s.members :=
  Cluster.mem_seen

/-- Whoever is running and a member attends and awaits its mail, and whoever else is running has
retired. -/
structure InOrder (s : Simulation γ) : Prop where
  attends : ∀ r n, s.nodes.get? r = some n → r ∈ s.group → n.Attends r s.group
  awaited : ∀ r n, s.nodes.get? r = some n → ∀ e ∈ n.inbox.toList, Awaited r s.group e
  retired : ∀ r n, s.nodes.get? r = some n → r ∉ s.group → n.Retired

/-- Nothing waits to be carried. -/
def Carried (s : Simulation γ) : Prop :=
  ∀ r n, s.nodes.get? r = some n → n.outbox = ∅

/-- All messages that wait to be handled satisfy `P`. -/
def Mail (s : Simulation γ) (P : Envelope Signal → Prop) : Prop :=
  ∀ r n, s.nodes.get? r = some n → ∀ e ∈ n.inbox.toList, P e

variable {s : Simulation γ} {r q o x : InstanceId} {n : Node}

/-! ### One pass -/

def worked (n : Node) : Node := { n.after n.inbox.toList with inbox := ∅ }

theorem node_pump (n : Node) : n.pump.node = worked n := by
  have unread : ∀ (es : List (Envelope Signal)) (n : Node),
      ({ n with inbox := ∅ } : Node).after es = { n.after es with inbox := ∅ } := by
    intro es
    induction es with
    | nil => exact fun n => rfl
    | cons e es ih => exact fun n => ih (n.handle e).node
  exact unread n.inbox.toList n

theorem handled_pump (n : Node) : n.pump.handled = n.inbox.toList.length :=
  Node.handled_handleAll _ _

theorem recordAll_fields (s : Simulation γ) (l : List (InstanceId × NodeOutcome)) :
    (s.recordAll l).members = s.members ∧ (s.recordAll l).agenda = s.agenda ∧
      (s.recordAll l).network = s.network := by
  induction l generalizing s with
  | nil => exact ⟨rfl, rfl, rfl⟩
  | cons p l ih => exact ih _

theorem get?_pumpNodes (s : Simulation γ) (r : InstanceId) :
    s.pumpNodes.1.nodes.get? r = (s.nodes.get? r).map worked := by
  have nodes : s.pumpNodes.1.nodes =
      (s.nodes.mapValues fun _ node => node.pump).mapValues fun _ o => o.node := rfl
  rw [nodes, SortedMap.get?_mapValues, SortedMap.get?_mapValues, Option.map_map]
  exact congrArg (Option.map · (s.nodes.get? r)) (funext node_pump)

/-- The state once all outboxes have been emptied. -/
def emptied (s : Simulation γ) : Simulation γ :=
  { s with nodes := s.nodes.mapValues fun _ node => node.takeOutbox.1 }

theorem rate_emptied (s : Simulation γ) : s.pumpNodes.1.emptied.network.rate = s.network.rate :=
  congrArg Network.rate (s.recordAll_fields _).2.2

/-- What is sent to `q` when everybody handles its mail. -/
def sentTo (s : Simulation γ) (q : InstanceId) : List (Envelope Signal) :=
  s.pumpNodes.1.letters.filter (·.isFor q)

theorem mem_sentTo {e : Envelope Signal} :
    e ∈ s.sentTo q ↔
      (∃ r n, s.nodes.get? r = some n ∧ e ∈ (worked n).outbox.toList) ∧ e.isFor q = true := by
  rw [sentTo, List.mem_filter, mem_letters]
  simp only [get?_pumpNodes, Option.map_eq_some_iff]
  constructor
  · rintro ⟨⟨r, _, ⟨n, hn, rfl⟩, he⟩, hq⟩
    exact ⟨⟨r, n, hn, he⟩, hq⟩
  · rintro ⟨⟨r, n, hn, he⟩, hq⟩
    exact ⟨⟨r, _, ⟨n, hn, rfl⟩, he⟩, hq⟩

section InOrder

variable (h : s.InOrder)
include h

theorem worked_retired (hn : s.nodes.get? r = some n) (hr : r ∉ s.group) : worked n = n := by
  have unread := (h.retired r n hn hr).unread
  have empty : n.inbox.toList = [] := congrArg Mailbox.toList unread
  rw [worked, empty, Node.after_nil, ← unread]

theorem worked_attends (hn : s.nodes.get? r = some n) (hr : r ∈ s.group) :
    (worked n).Attends r s.group :=
  have after := (h.attends r n hn hr).after (h.awaited r n hn)
  ⟨after.phase_eq, after.watches, after.posted⟩

/-- All that is sent comes from members. -/
theorem posted_of_mem_sentTo {e : Envelope Signal} (he : e ∈ s.sentTo q) :
    ∃ r n, s.nodes.get? r = some n ∧ r ∈ s.group ∧ e ∈ (worked n).outbox.toList ∧
      Posted r s.group e := by
  obtain ⟨⟨r, n, hn, he⟩, -⟩ := mem_sentTo.mp he
  by_cases hr : r ∈ s.group
  · exact ⟨r, n, hn, hr, he, (worked_attends h hn hr).posted e he⟩
  · rw [worked_retired h hn hr, (h.retired r n hn hr).unsent] at he
    exact absurd he List.not_mem_nil

theorem addressed_letters : Addressed s.pumpNodes.1.letters := by
  intro e he
  obtain ⟨r, n', hn', he'⟩ := mem_letters.mp he
  rw [get?_pumpNodes] at hn'
  obtain ⟨n, hn, rfl⟩ := Option.map_eq_some_iff.mp hn'
  by_cases hr : r ∈ s.group
  · obtain ⟨l, k, rfl, -⟩ := (worked_attends h hn hr).posted e he'
    exact ⟨l, r, k, rfl⟩
  · rw [worked_retired h hn hr, (h.retired r n hn hr).unsent] at he'
    exact absurd he' List.not_mem_nil

variable [DrawSource γ]

omit h in
theorem members_carryAll (l : List (InstanceId × Envelope Signal)) (s : Simulation γ) :
    (s.carryAll l).1.members = s.members ∧ (s.carryAll l).1.agenda = s.agenda := by
  induction l generalizing s with
  | nil => exact ⟨rfl, rfl⟩
  | cons p l ih => exact ih _

def passed (s : Simulation γ) : Simulation γ := s.pass.1

/-- After a pass every node has handled its mail, has nothing more to be carried, and has got those
messages for it that are not lost. -/
theorem get?_passed :
    ∃ kept : InstanceId → List (Envelope Signal),
      (∀ q, (kept q).Sublist (s.sentTo q)) ∧
      (s.network.rate.losing = 0 → ∀ q n, s.nodes.get? q = some n → kept q = s.sentTo q) ∧
      ∀ q, s.passed.nodes.get? q =
        (s.nodes.get? q).map fun n => { worked n with outbox := ∅, inbox := ⟨kept q⟩ } := by
  have nodes (q : InstanceId) :
      s.pumpNodes.1.emptied.nodes.get? q =
        (s.nodes.get? q).map fun n => (worked n).takeOutbox.1 := by
    rw [emptied, SortedMap.get?_mapValues, get?_pumpNodes, Option.map_map]
    rfl
  obtain ⟨kept, sub, all, get⟩ :=
    get?_carryAll s.pumpNodes.1.outgoing s.pumpNodes.1.emptied (addressed_letters h)
  refine ⟨kept, sub, fun lossless q n hn => all ?_ q (worked n).takeOutbox.1 ?_, fun q => ?_⟩
  · rw [rate_emptied, lossless]
  · rw [nodes, hn]
    rfl
  · refine (get q).trans ?_
    rw [nodes, Option.map_map]
    congr 1

/-- Whoever is running after a pass was so before it, and has handled its mail. -/
theorem detector_passed {m : Node} (hm : s.passed.nodes.get? q = some m) :
    ∃ n, s.nodes.get? q = some n ∧ m.detector = (n.after n.inbox.toList).detector := by
  obtain ⟨kept, -, -, get⟩ := get?_passed h
  rw [get] at hm
  obtain ⟨n, hn, rfl⟩ := Option.map_eq_some_iff.mp hm
  exact ⟨n, hn, rfl⟩

theorem rate_passed : s.passed.network.rate = s.network.rate :=
  (rate_carryAll _ _ (addressed_letters h)).trans (s.rate_emptied)

omit h in
theorem members_passed (s : Simulation γ) : s.passed.members = s.members :=
  (members_carryAll _ _).1.trans (s.recordAll_fields _).1

omit h in
theorem agenda_passed (s : Simulation γ) : s.passed.agenda = s.agenda :=
  (members_carryAll _ _).2.trans (s.recordAll_fields _).2.1

omit h in
@[simp] theorem group_passed (s : Simulation γ) : s.passed.group = s.group :=
  congrArg Cluster.seen s.members_passed

/-- What arrives in a pass was sent in it. -/
theorem mem_inbox_passed {e : Envelope Signal} (hn : s.passed.nodes.get? q = some n)
    (he : e ∈ n.inbox.toList) : e ∈ s.sentTo q := by
  obtain ⟨kept, sub, -, get⟩ := get?_passed h
  rw [get] at hn
  obtain ⟨n, -, rfl⟩ := Option.map_eq_some_iff.mp hn
  exact (sub q).mem he

omit h in
theorem carried_passed (h : s.InOrder) : s.passed.Carried := by
  intro r n hn
  obtain ⟨kept, -, -, get⟩ := get?_passed h
  rw [get] at hn
  obtain ⟨n, -, rfl⟩ := Option.map_eq_some_iff.mp hn
  rfl

theorem InOrder.passed : s.passed.InOrder := by
  obtain ⟨kept, sub, -, get⟩ := get?_passed h
  have mail : ∀ q, ∀ e ∈ kept q, Awaited q s.group e := by
    intro q e he
    have sent := (sub q).mem he
    obtain ⟨r, n, -, hr, -, posted⟩ := posted_of_mem_sentTo h sent
    exact posted.awaited hr (mem_sentTo.mp sent).2
  constructor
  · intro r n' hn' hr
    rw [group_passed] at hr ⊢
    rw [get] at hn'
    obtain ⟨n, hn, rfl⟩ := Option.map_eq_some_iff.mp hn'
    have attends := worked_attends h hn hr
    exact ⟨attends.phase_eq, attends.watches, fun e he => absurd he List.not_mem_nil⟩
  · intro r n' hn' e he
    rw [group_passed]
    rw [get] at hn'
    obtain ⟨n, -, rfl⟩ := Option.map_eq_some_iff.mp hn'
    exact mail r e he
  · intro r n' hn' hr
    rw [group_passed] at hr
    rw [get] at hn'
    obtain ⟨n, hn, rfl⟩ := Option.map_eq_some_iff.mp hn'
    have retired := h.retired r n hn hr
    have unsent : kept r = [] := by
      refine List.eq_nil_iff_forall_not_mem.mpr fun e he => ?_
      have sent := (sub r).mem he
      obtain ⟨q, m, -, -, -, l, k, rfl, fit⟩ := posted_of_mem_sentTo h sent
      have recipient := (mem_sentTo.mp sent).2
      rw [Letter.isFor_seal, decide_eq_true_eq] at recipient
      exact hr (recipient ▸ fit.member)
    rw [worked_retired h hn hr, unsent]
    exact ⟨retired.phase_eq, retired.unarmed, rfl, rfl⟩

/-! ### The three passes -/

/-- Nobody is sent what only timers deliver. -/
theorem mail_passed : s.passed.Mail fun e => ∀ key : TimerKey, e.content ≠ key.signal := by
  intro r n hn e he key
  obtain ⟨q, m, -, -, -, l, k, rfl, fit⟩ := posted_of_mem_sentTo h (mem_inbox_passed h hn he)
  rw [Letter.content_seal]
  rcases fit.signal with hs | ⟨t, hs, -⟩ <;> rw [hs] <;> cases key <;> simp [TimerKey.signal]

omit [DrawSource γ] in
/-- What a member sends once its outbox was empty, by what its inbox held. -/
theorem content_of_worked {e : Envelope Signal} (hc : s.Carried) (hn : s.nodes.get? r = some n)
    (hr : r ∈ s.group) (he : e ∈ (worked n).outbox.toList) :
    (∃ p, e.isFor p = true ∧ e.content = .iAmAlive r ∧
        ∃ e' ∈ n.inbox.toList, e'.content = .sendHeartbeat p) ∨
      ∃ t, e.content = .suspicions t := by
  have attends := worked_attends h hn hr
  obtain ⟨l, k, rfl, fit⟩ := attends.posted e he
  rcases fit.signal with hs | ⟨t, hs, -⟩
  · have beat := (Node.heartbeat_after (p := l.recipient) (h.attends r n hn hr)
      (h.awaited r n hn)).mp ⟨l.seal r k, he, by simp, hs⟩
    refine .inl ⟨l.recipient, by simp, hs, beat.resolve_left ?_⟩
    rintro ⟨e', he', -⟩
    have unsent : n.outbox.toList = [] := congrArg Mailbox.toList (hc r n hn)
    exact absurd (unsent ▸ he') List.not_mem_nil
  · exact .inr ⟨t, hs⟩

/-- Where no heartbeat is due only reports are sent. -/
theorem mail_passed_of_no_beat (hc : s.Carried)
    (hm : s.Mail fun e => ∀ p, e.content ≠ .sendHeartbeat p) :
    s.passed.Mail fun e => ∃ t, e.content = .suspicions t := by
  intro r n hn e he
  obtain ⟨q, m, hm', hq, he, -⟩ := posted_of_mem_sentTo h (mem_inbox_passed h hn he)
  rcases content_of_worked h hc hm' hq he with ⟨p, -, -, e', he', hp⟩ | ht
  · exact absurd hp (hm q m hm' e' he' p)
  · exact ht

theorem mail_passed_of_reports (hc : s.Carried)
    (hm : s.Mail fun e => ∃ t, e.content = .suspicions t) :
    s.passed.Mail fun _ => False := by
  intro r n hn e he
  obtain ⟨q, m, hm', hq, he, -⟩ := posted_of_mem_sentTo h (mem_inbox_passed h hn he)
  have unsent : (worked m).outbox = ∅ :=
    (Node.outbox_after_reports (h.attends q m hm' hq) (h.awaited q m hm') (hm q m hm')).trans
      (hc q m hm')
  rw [unsent] at he
  exact absurd he List.not_mem_nil

end InOrder

end Simulation
end Vigil
