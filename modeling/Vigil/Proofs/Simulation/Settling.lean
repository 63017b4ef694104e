import Mathlib.Logic.Function.Iterate
import Vigil.Proofs.Simulation.Passes

/-!
Settling. A pass in which nothing moves changes nothing, so settling makes passes until everything
is quiet, and that is so after three of them (`settle_eq`).
-/

namespace Vigil
namespace Simulation

variable {γ : Type} {s : Simulation γ} {r : InstanceId} {n : Node}

/-- Nothing waits to be handled or carried. -/
structure Quiet (s : Simulation γ) : Prop where
  carried : s.Carried
  handled : s.Mail fun _ => False

theorem Quiet.node (h : s.Quiet) (hn : s.nodes.get? r = some n) : n.inbox = ∅ ∧ n.outbox = ∅ := by
  refine ⟨?_, h.carried r n hn⟩
  have empty : n.inbox.toList = [] :=
    List.eq_nil_iff_forall_not_mem.mpr fun e he => h.handled r n hn e he
  exact congrArg Mailbox.mk empty

def idle (n : Node) : NodeOutcome := ⟨n, 0, [], []⟩

theorem Quiet.pump (h : s.Quiet) (hn : s.nodes.get? r = some n) : n.pump = idle n := by
  obtain ⟨unread, -⟩ := h.node hn
  obtain ⟨machine, inbox, outbox⟩ := n
  subst unread
  rfl

theorem recordAll_idle (s : Simulation γ) (l : List (InstanceId × Node)) :
    s.recordAll (l.map fun p => (p.1, idle p.2)) = s := by
  have once (s : Simulation γ) (id : InstanceId) (n : Node) : s.record id (idle n) = s := by
    simp [record, idle]
  induction l with
  | nil => rfl
  | cons p l ih =>
      change (s.record p.1 (idle p.2)).recordAll (l.map fun p => (p.1, idle p.2)) = s
      rw [once]
      exact ih

theorem Quiet.pumpNodes (h : s.Quiet) : s.pumpNodes = (s, 0) := by
  have outcomes : (s.nodes.mapValues fun _ node => node.pump) =
      s.nodes.mapValues fun _ node => idle node := by
    ext r : 1
    rw [SortedMap.get?_mapValues, SortedMap.get?_mapValues]
    cases hn : s.nodes.get? r with
    | none => rfl
    | some n => exact congrArg some (h.pump hn)
  have nodes : ((s.nodes.mapValues fun _ node => idle node).mapValues fun _ o => o.node) =
      s.nodes := by
    ext r : 1
    rw [SortedMap.get?_mapValues, SortedMap.get?_mapValues, Option.map_map]
    exact Option.map_id_apply
  have handled : ∀ l : List (InstanceId × Node),
      ((l.map fun p => (p.1, idle p.2)).map fun p => p.2.handled).foldr (· + ·) 0 = 0 := by
    intro l
    induction l with
    | nil => rfl
    | cons p l ih => simpa [idle] using ih
  have count : ((s.nodes.mapValues fun _ node => idle node).values.map
      NodeOutcome.handled).foldr (· + ·) 0 = 0 := by
    rw [SortedMap.values, List.map_map]
    exact handled s.nodes.toList
  unfold Simulation.pumpNodes
  dsimp only
  rw [outcomes, nodes, count]
  exact congrArg (fun s' : Simulation γ => ({ s' with nodes := s.nodes }, 0))
    (s.recordAll_idle s.nodes.toList)

theorem mail_of_pumpNodes (h : s.pumpNodes.2 = 0) : s.Mail fun _ => False := by
  have sum : ∀ (l : List Nat), l.foldr (· + ·) 0 = 0 → ∀ k ∈ l, k = 0 := by
    intro l
    induction l with
    | nil => simp
    | cons k l ih =>
        intro h
        rw [List.foldr_cons, Nat.add_eq_zero_iff] at h
        exact List.forall_mem_cons.mpr ⟨h.1, ih h.2⟩
  intro r n hn e he
  have counted : n.pump.handled ∈
      ((s.nodes.mapValues fun _ node => node.pump).values.map NodeOutcome.handled) := by
    have binding := SortedMap.get?_eq_some_iff.mp hn
    simp only [SortedMap.values, SortedMap.mapValues, List.map_map]
    exact List.mem_map.mpr ⟨(r, n), binding, rfl⟩
  have none_handled := sum _ h _ counted
  rw [handled_pump, List.length_eq_zero_iff] at none_handled
  exact absurd (none_handled ▸ he) List.not_mem_nil

section Settle

variable [DrawSource γ]

theorem Quiet.pass (h : s.Quiet) : s.pass = (s, false) := by
  have outgoing : s.outgoing = [] := by
    refine List.flatMap_eq_nil_iff.mpr fun p hp => ?_
    obtain ⟨-, unsent⟩ := h.node (SortedMap.get?_eq_some_iff.mpr hp)
    simp [unsent]
  have emptied : s.emptied = s := by
    have nodes : (s.nodes.mapValues fun _ node => node.takeOutbox.1) = s.nodes := by
      ext r : 1
      rw [SortedMap.get?_mapValues]
      cases hn : s.nodes.get? r with
      | none => rfl
      | some n =>
          obtain ⟨-, unsent⟩ := h.node hn
          obtain ⟨machine, inbox, outbox⟩ := n
          subst unsent
          rfl
    exact congrArg (fun nodes => { s with nodes }) nodes
  have carried : s.carryOutgoing = (s, 0) := by
    change carryAll s.emptied s.outgoing = (s, 0)
    rw [outgoing, emptied]
    rfl
  simp [Simulation.pass, h.pumpNodes, carried]

theorem quiet_of_pass (hc : s.Carried) (h : s.pass.2 = false) : s.Quiet := by
  refine ⟨hc, mail_of_pumpNodes ?_⟩
  have still : (s.pumpNodes.2 != 0 || s.pumpNodes.1.carryOutgoing.2 != 0) = false := h
  simpa using (Bool.or_eq_false_iff.mp still).1

theorem passed_iterate_of_quiet (h : s.Quiet) (k : Nat) : passed^[k] s = s := by
  have fixed : s.passed = s := congrArg Prod.fst h.pass
  exact Function.iterate_fixed fixed k

/-- Settling makes passes until the first one in which nothing moves. -/
theorem settleWithin_eq {limit k : Nat} (h : s.InOrder) (hc : s.Carried) (hk : k ≤ limit)
    (quiet : (passed^[k] s).Quiet) : settleWithin limit s = passed^[k] s := by
  induction limit generalizing s k with
  | zero =>
      obtain rfl := Nat.le_zero.mp hk
      rfl
  | succ limit ih =>
      have moved : s.pass = (s.passed, s.pass.2) := rfl
      rw [settleWithin, moved]
      cases hp : s.pass.2 with
      | false =>
          have fixed := quiet_of_pass hc hp
          rw [passed_iterate_of_quiet fixed]
          exact congrArg Prod.fst fixed.pass
      | true =>
          cases k with
          | zero =>
              have still : s.pass = (s, false) := Quiet.pass quiet
              rw [still] at hp
              cases hp
          | succ k => exact ih h.passed (carried_passed h) (Nat.le_of_succ_le_succ hk) quiet

theorem quiet_third (h : s.InOrder) : s.passed.passed.passed.Quiet := by
  -- Timers bring about heartbeats and reports, these bring about reports, and reports nothing.
  have h₁ := h.passed
  have h₂ := h₁.passed
  have c₁ := carried_passed h
  have m₁ : s.passed.Mail fun e => ∀ p, e.content ≠ .sendHeartbeat p :=
    fun r n hn e he p => mail_passed h r n hn e he (.send p)
  have m₂ := mail_passed_of_no_beat h₁ c₁ m₁
  exact ⟨carried_passed h₂, mail_passed_of_reports h₂ (carried_passed h₁) m₂⟩

/-- Whatever lies in the mailboxes, the third pass leaves nothing to do. -/
theorem settle_eq (h : s.InOrder) (hc : s.Carried) : s.settle = s.passed.passed.passed :=
  settleWithin_eq (k := 3) h hc (by decide) (quiet_third h)

end Settle

end Simulation
end Vigil
