import Vigil.Network

/-!
What becomes of the copies. Every copy that leaves its sender is counted as delivered, lost or
unreachable, and those that a posting hands out are the ones by which the count of the delivered
grows (`Progress`). They go to running instances in increasing order, and where there are no
recipients nothing is counted and nothing drawn.
-/

namespace Vigil

namespace LossRate

variable {r : LossRate} {d : Draw} {p : Float}

theorem ofProbability_of_not_pos (h : ¬ p > 0.0) : ofProbability p = ⟨0⟩ := if_neg h

/-- What is no number is not above zero, and nothing is lost. -/
example : (ofProbability (0.0 / 0.0)).losing = 0 := by decide +kernel

open Float.Model (UnpackedFloat) in
theorem ofProbability_of_one_le (h : p ≥ 1.0) : ofProbability p = ⟨drawLimit⟩ := by
  have above (u : UnpackedFloat) (hu : (1.0 : Float).toModel.unpack.le u = true) :
      UnpackedFloat.lt (.zero .positive) u = true := by
    cases u with
    | notANumber | zero _ => exact Bool.noConfusion (show false = true from hu)
    | infinity sign | finite sign =>
        cases sign with
        | positive => rfl
        | negative => exact Bool.noConfusion (show false = true from hu)
  have one_le : (1.0 : Float).toModel.unpack.le p.toModel.unpack = true := of_decide_eq_true h
  have positive : p > 0.0 := decide_eq_true (above _ one_le)
  rw [ofProbability, if_pos positive, if_pos h]

theorem loses_of_drawLimit_le (h : drawLimit ≤ r.losing) : r.loses d = true :=
  decide_eq_true (Nat.lt_of_lt_of_le d.isLt h)

end LossRate

/-- Every copy that was sent has come to one of three ends. -/
def NetworkStats.Balanced (s : NetworkStats) : Prop := s.sent = s.delivered + s.lost + s.unreachable

namespace NetworkStats.Balanced

variable {s : NetworkStats}

theorem deliver (h : s.Balanced) :
    Balanced { s with sent := s.sent + 1, delivered := s.delivered + 1 } := by
  simp only [Balanced] at h ⊢
  omega

theorem lose (h : s.Balanced) : Balanced { s with sent := s.sent + 1, lost := s.lost + 1 } := by
  simp only [Balanced] at h ⊢
  omega

theorem miss (h : s.Balanced) :
    Balanced { s with sent := s.sent + 1, unreachable := s.unreachable + 1 } := by
  simp only [Balanced] at h ⊢
  omega

end NetworkStats.Balanced

/-- An envelope to be routed, with its sender and the instances that are running at the time. -/
structure Posting where
  sender : InstanceId
  envelope : Envelope Signal
  running : InstanceSet

namespace Posting

/-- The instances to which copies are sent. -/
def targets (p : Posting) : List InstanceId :=
  match p.envelope.destination p.sender p.running with
  | .instances ids => ids
  | _ => []

/-- How many of the targets are not running. -/
def missed (p : Posting) : Nat := p.targets.countP fun id => decide (id ∉ p.running)

/-- What goes wrong with it before anything is sent. -/
def warnings (p : Posting) : List Warning :=
  match p.envelope.destination p.sender p.running with
  | .nowhere bad => [.recipientMalformed bad]
  | _ => []

variable {p : Posting} {address : String} {id : InstanceId} {bad : BadInstanceId}

theorem targets_of_internal (h : p.envelope.recipient? = none) : p.targets = [] := by
  simp [targets, Envelope.destination, h]

theorem targets_of_broadcast (h : p.envelope.recipient? = some Header.everybody) :
    p.targets = (p.running.erase p.sender).toList := by
  simp [targets, Envelope.destination, h]

theorem targets_of_directed (h : p.envelope.recipient? = some address)
    (directed : address ≠ Header.everybody) (parsed : InstanceId.parse address = .ok id) :
    p.targets = [id] := by
  simp [targets, Envelope.destination, h, directed, parsed]

theorem targets_of_malformed (h : p.envelope.recipient? = some address)
    (directed : address ≠ Header.everybody) (parsed : InstanceId.parse address = .error bad) :
    p.targets = [] := by
  simp [targets, Envelope.destination, h, directed, parsed]

theorem ne_sender_of_mem_targets (h : p.envelope.recipient? = some Header.everybody)
    (target : id ∈ p.targets) : id ≠ p.sender := by
  rw [targets_of_broadcast h, SortedSet.mem_toList, SortedSet.mem_erase] at target
  exact target.2

theorem parse_of_mem_targets (h : p.envelope.recipient? = some address)
    (directed : address ≠ Header.everybody) (target : id ∈ p.targets) :
    InstanceId.parse address = .ok id := by
  cases parsed : InstanceId.parse address with
  | ok other =>
      rw [targets_of_directed h directed parsed, List.mem_singleton] at target
      rw [target]
  | error bad =>
      rw [targets_of_malformed h directed parsed] at target
      exact absurd target List.not_mem_nil

theorem missed_of_broadcast (h : p.envelope.recipient? = some Header.everybody) :
    p.missed = 0 := by
  refine List.countP_eq_zero.mpr fun id target => ?_
  rw [targets_of_broadcast h, SortedSet.mem_toList, SortedSet.mem_erase] at target
  simpa using target.1

theorem missed_of_directed (h : p.envelope.recipient? = some address)
    (directed : address ≠ Header.everybody) (parsed : InstanceId.parse address = .ok id) :
    p.missed = if id ∈ p.running then 0 else 1 := by
  rw [missed, targets_of_directed h directed parsed]
  by_cases here : id ∈ p.running <;> simp [here]

/-- A copy goes to each target once. -/
theorem targets_increasing (p : Posting) : p.targets.Pairwise (· < ·) := by
  cases h : p.envelope.recipient? with
  | none => rw [targets_of_internal h]; exact .nil
  | some address =>
      by_cases directed : address ≠ Header.everybody
      · cases parsed : InstanceId.parse address with
        | ok id => rw [targets_of_directed h directed parsed]; exact List.pairwise_singleton ..
        | error bad => rw [targets_of_malformed h directed parsed]; exact .nil
      · rw [targets_of_broadcast (Decidable.of_not_not directed ▸ h)]
        exact (p.running.erase p.sender).increasing

end Posting

namespace Network

variable {γ : Type}

/-- How a network goes on when it sends copies of which `arrived` reach their recipients, and the
recipients of `missed` are not running. -/
structure Progress (n n' : Network γ) (sent arrived missed : Nat) : Prop where
  rate_eq : n'.rate = n.rate
  sent_eq : n'.stats.sent = n.stats.sent + sent
  delivered_eq : n'.stats.delivered = n.stats.delivered + arrived
  unreachable_eq : n'.stats.unreachable = n.stats.unreachable + missed
  balanced : n.stats.Balanced → n'.stats.Balanced
  lossless : n.rate.losing = 0 → n'.stats.lost = n.stats.lost
  hopeless : drawLimit ≤ n.rate.losing → arrived = 0

theorem Progress.refl (n : Network γ) : n.Progress n 0 0 0 :=
  ⟨rfl, rfl, rfl, rfl, id, fun _ => rfl, fun _ => rfl⟩

theorem Progress.trans {n n' n'' : Network γ} {sent arrived missed sent' arrived' missed' : Nat}
    (h : n.Progress n' sent arrived missed) (h' : n'.Progress n'' sent' arrived' missed') :
    n.Progress n'' (sent + sent') (arrived + arrived') (missed + missed') where
  rate_eq := h'.rate_eq.trans h.rate_eq
  sent_eq := by rw [h'.sent_eq, h.sent_eq, Nat.add_assoc]
  delivered_eq := by rw [h'.delivered_eq, h.delivered_eq, Nat.add_assoc]
  unreachable_eq := by rw [h'.unreachable_eq, h.unreachable_eq, Nat.add_assoc]
  balanced b := h'.balanced (h.balanced b)
  lossless l := (h'.lossless (h.rate_eq ▸ l)).trans (h.lossless l)
  hopeless l := by rw [h.hopeless l, h'.hopeless (h.rate_eq ▸ l)]

variable [DrawSource γ]

theorem mem_running_of_carry {n : Network γ} {running : InstanceSet} {id : InstanceId}
    (h : (n.carry running id).2 = true) : id ∈ running := by
  by_cases reached : id ∈ running
  · exact reached
  · simp [carry, reached] at h

theorem progress_carry (n : Network γ) (running : InstanceSet) (id : InstanceId) :
    n.Progress (n.carry running id).1 1 (n.carry running id).2.toNat
      (if id ∈ running then 0 else 1) := by
  by_cases here : id ∈ running
  · simp only [carry, here, not_true_eq_false, if_true, if_false]
    by_cases safe : n.rate.losing = 0
    · rw [if_pos safe]
      exact ⟨rfl, rfl, rfl, rfl, .deliver, fun _ => rfl, fun all => absurd (safe ▸ all) (by decide)⟩
    · rw [if_neg safe]
      split
      · exact ⟨rfl, rfl, rfl, rfl, .lose, fun none => absurd none safe, fun _ => rfl⟩
      · rename_i kept
        exact ⟨rfl, rfl, rfl, rfl, .deliver, fun _ => rfl,
          fun all => absurd (LossRate.loses_of_drawLimit_le all) kept⟩
  · simp only [carry, here, not_false_eq_true, if_true, if_false]
    exact ⟨rfl, rfl, rfl, rfl, .miss, fun _ => rfl, fun _ => rfl⟩

@[simp] theorem rate_carry (n : Network γ) (running : InstanceSet) (id : InstanceId) :
    (n.carry running id).1.rate = n.rate :=
  (n.progress_carry running id).rate_eq

theorem carry_of_losing_eq_zero {n : Network γ} {running : InstanceSet} {o : InstanceId}
    (h : n.rate.losing = 0) (ho : o ∈ running) : (n.carry running o).2 = true := by
  simp [carry, h, ho]

theorem progress_carryAll (n : Network γ) (running : InstanceSet) (ids : List InstanceId) :
    n.Progress (n.carryAll running ids).1 ids.length (n.carryAll running ids).2.length
      (ids.countP fun id => decide (id ∉ running)) := by
  induction ids generalizing n with
  | nil => exact .refl n
  | cons id ids ih =>
      have both := (n.progress_carry running id).trans (ih (n.carry running id).1)
      have reached : (n.carryAll running (id :: ids)).2.length = (n.carry running id).2.toNat +
          ((n.carry running id).1.carryAll running ids).2.length := by
        cases arrived : (n.carry running id).2 <;> simp [carryAll, arrived, Nat.add_comm]
      have missed : (id :: ids).countP (fun id => decide (id ∉ running)) =
          (if id ∈ running then 0 else 1) + ids.countP fun id => decide (id ∉ running) := by
        by_cases here : id ∈ running <;> simp [here, Nat.add_comm]
      rw [reached, missed, List.length_cons, Nat.add_comm ids.length]
      exact both

theorem carryAll_sublist (n : Network γ) (running : InstanceSet) (ids : List InstanceId) :
    (n.carryAll running ids).2.Sublist ids := by
  induction ids generalizing n with
  | nil => exact .slnil
  | cons id ids ih =>
      have rest := ih (n.carry running id).1
      unfold carryAll
      dsimp only
      split
      · exact rest.cons_cons id
      · exact rest.cons id

theorem mem_running_of_carryAll {n : Network γ} {running : InstanceSet} {ids : List InstanceId}
    {id : InstanceId} (h : id ∈ (n.carryAll running ids).2) : id ∈ running := by
  induction ids generalizing n with
  | nil => exact absurd h List.not_mem_nil
  | cons first ids ih =>
      cases arrived : (n.carry running first).2 with
      | true =>
          simp only [carryAll, arrived, if_true, List.mem_cons] at h
          rcases h with rfl | h
          · exact mem_running_of_carry arrived
          · exact ih h
      | false =>
          simp only [carryAll, arrived] at h
          exact ih h

theorem route_of_destination {n : Network γ} {sender o : InstanceId} {e : Envelope Signal}
    {running : InstanceSet} (h : e.destination sender running = .instances [o]) :
    n.route sender e running =
      ((n.carry running o).1, if (n.carry running o).2 then [(o, e)] else [], []) := by
  unfold route
  rw [h]
  cases hc : (n.carry running o).2 <;> simp [carryAll, hc]

/-- Route a posting: the answer lists the copies that arrive, with their recipients. -/
def post (n : Network γ) (p : Posting) :
    Network γ × List (InstanceId × Envelope Signal) × List Warning :=
  n.route p.sender p.envelope p.running

/-- The network after postings, one after the other. -/
def postAll (n : Network γ) (ps : List Posting) : Network γ :=
  ps.foldl (fun n p => (n.post p).1) n

variable {n : Network γ} {p : Posting} {address : String}

theorem post_of_internal (h : p.envelope.recipient? = none) :
    n.post p = (n, [(p.sender, p.envelope)], []) := by
  simp [post, route, Envelope.destination, h]

/-- What is addressed to others goes to its targets, copy by copy. -/
theorem post_of_recipient (h : p.envelope.recipient? = some address) :
    n.post p = ((n.carryAll p.running p.targets).1,
      (n.carryAll p.running p.targets).2.map fun id => (id, p.envelope), p.warnings) := by
  by_cases all : address = Header.everybody
  · simp [post, route, Posting.targets, Posting.warnings, Envelope.destination, h, all]
  · cases parsed : InstanceId.parse address <;>
      simp [post, route, Posting.targets, Posting.warnings, Envelope.destination, h, all, parsed,
        carryAll]

theorem progress_post_of_recipient (h : p.envelope.recipient? = some address) :
    n.Progress (n.post p).1 p.targets.length (n.post p).2.1.length p.missed := by
  rw [post_of_recipient h, List.length_map]
  exact n.progress_carryAll p.running p.targets

theorem recipients_post (h : p.envelope.recipient? = some address) :
    (n.post p).2.1.map Prod.fst = (n.carryAll p.running p.targets).2 := by
  simp [post_of_recipient h, Function.comp_def]

theorem recipients_post_increasing (h : p.envelope.recipient? = some address) :
    ((n.post p).2.1.map Prod.fst).Pairwise (· < ·) := by
  rw [recipients_post h]
  exact p.targets_increasing.sublist (n.carryAll_sublist p.running p.targets)

theorem of_mem_copies (h : p.envelope.recipient? = some address)
    {copy : InstanceId × Envelope Signal} (hc : copy ∈ (n.post p).2.1) :
    copy.2 = p.envelope ∧ copy.1 ∈ p.running ∧ copy.1 ∈ p.targets := by
  rw [post_of_recipient h] at hc
  obtain ⟨id, reached, rfl⟩ := List.mem_map.mp hc
  exact ⟨rfl, mem_running_of_carryAll reached, (n.carryAll_sublist _ _).subset reached⟩

theorem exists_progress_post (n : Network γ) (p : Posting) :
    ∃ sent arrived missed, n.Progress (n.post p).1 sent arrived missed := by
  cases h : p.envelope.recipient? with
  | none =>
      rw [post_of_internal h]
      exact ⟨_, _, _, .refl n⟩
  | some address => exact ⟨_, _, _, progress_post_of_recipient h⟩

theorem exists_progress_postAll (n : Network γ) (ps : List Posting) :
    ∃ sent arrived missed, n.Progress (n.postAll ps) sent arrived missed := by
  induction ps generalizing n with
  | nil => exact ⟨_, _, _, .refl n⟩
  | cons p ps ih =>
      obtain ⟨_, _, _, first⟩ := n.exists_progress_post p
      obtain ⟨_, _, _, rest⟩ := ih (n.post p).1
      exact ⟨_, _, _, first.trans rest⟩

/-- Every copy is accounted for, after any postings and whatever the draws. Of what is addressed to
others one copy is sent to each that is addressed, and as many come back as the count of the
delivered grows by, each with a running instance that was addressed; what has no recipient comes
back to its sender, and what has one that is no instance to nobody, and neither is counted or
draws. -/
theorem copies_accounted_for (draws : γ) (probability : Float) (ps : List Posting) (p : Posting) :
    let n := (start draws (.ofProbability probability)).postAll ps
    let n' := (n.post p).1
    let copies := (n.post p).2.1
    n.stats.Balanced ∧
    (∀ address, p.envelope.recipient? = some address →
      n'.stats.delivered = n.stats.delivered + copies.length ∧
      (copies.map Prod.fst).Pairwise (· < ·) ∧
      (∀ copy ∈ copies, copy.2 = p.envelope ∧ copy.1 ∈ p.running ∧
        (address = Header.everybody → copy.1 ≠ p.sender) ∧
        (address ≠ Header.everybody → InstanceId.parse address = .ok copy.1)) ∧
      (address = Header.everybody →
        n'.stats.sent = n.stats.sent + (p.running.erase p.sender).size ∧
        n'.stats.unreachable = n.stats.unreachable) ∧
      (∀ id, address ≠ Header.everybody → InstanceId.parse address = .ok id →
        n'.stats.sent = n.stats.sent + 1 ∧
        n'.stats.unreachable = n.stats.unreachable + if id ∈ p.running then 0 else 1) ∧
      (∀ bad, address ≠ Header.everybody → InstanceId.parse address = .error bad →
        copies = [] ∧ n' = n)) ∧
    (p.envelope.recipient? = none → copies = [(p.sender, p.envelope)] ∧ n' = n) ∧
    (¬ probability > 0.0 → n'.stats.lost = n.stats.lost) ∧
    (probability ≥ 1.0 → n'.stats.delivered = n.stats.delivered) := by
  intro n n' copies
  obtain ⟨_, _, _, before⟩ := (start draws (.ofProbability probability)).exists_progress_postAll ps
  obtain ⟨_, _, _, step⟩ := n.exists_progress_post p
  refine ⟨before.balanced rfl, fun address h => ?_, fun h => ?_, fun lossless => ?_,
    fun all => ?_⟩
  · have counted := progress_post_of_recipient (n := n) h
    refine ⟨counted.delivered_eq, recipients_post_increasing h, fun copy hc => ?_, fun all => ?_,
      fun id directed parsed => ?_, fun bad directed parsed => ?_⟩
    · obtain ⟨same, running, target⟩ := of_mem_copies h hc
      exact ⟨same, running, fun all => Posting.ne_sender_of_mem_targets (all ▸ h) target,
        fun directed => Posting.parse_of_mem_targets h directed target⟩
    · rw [Posting.targets_of_broadcast (all ▸ h), Posting.missed_of_broadcast (all ▸ h)] at counted
      exact ⟨counted.sent_eq, counted.unreachable_eq⟩
    · rw [Posting.targets_of_directed h directed parsed,
        Posting.missed_of_directed h directed parsed] at counted
      exact ⟨counted.sent_eq, counted.unreachable_eq⟩
    · have posted := post_of_recipient (n := n) h
      rw [Posting.targets_of_malformed h directed parsed] at posted
      exact ⟨congrArg (·.2.1) posted, congrArg (·.1) posted⟩
  · have posted := post_of_internal (n := n) h
    exact ⟨congrArg (·.2.1) posted, congrArg (·.1) posted⟩
  · have rate : n.rate = ⟨0⟩ := before.rate_eq.trans (LossRate.ofProbability_of_not_pos lossless)
    exact step.lossless (congrArg LossRate.losing rate)
  · have rate : n.rate = ⟨drawLimit⟩ := before.rate_eq.trans (LossRate.ofProbability_of_one_le all)
    have arrived := step.hopeless (Nat.le_of_eq (congrArg LossRate.losing rate).symm)
    rw [step.delivered_eq, arrived, Nat.add_zero]

end Network
end Vigil
