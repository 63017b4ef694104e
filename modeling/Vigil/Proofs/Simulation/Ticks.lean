import Vigil.Proofs.Simulation.Reports

/-!
From a quiet state over one tick of all clocks to the next quiet state. Timers run out whose
deadline has come, and everything that follows from that is settled at once; what a round does to
the own reports, to the deadlines and to what is known of others is said by the deadlines that
were due.
-/

namespace Vigil

/-- How long the timer of a key waits, in milliseconds. -/
def Scenario.wait (sc : Scenario) : TimerKey → Nat
  | .receive _ => sc.heartbeatTimeout
  | .send _ => sc.heartbeatInterval

namespace Simulation

open Detector (Awaited)

variable {γ : Type} {s : Simulation γ} {r o q x : InstanceId} {n m : Node} {k : TimerKey} {d : Nat}

/-- All clocks show the same time or less, and the timers wait as the scenario has it. -/
def OnTime (s : Simulation γ) : Prop :=
  ∀ r n, s.nodes.get? r = some n → n.detector.timers.now ≤ s.now ∧
    n.detector.timers.delay = s.scenario.timing.delay

/-- The timer of a key of `r` is pending until `d`. -/
def Pending (s : Simulation γ) (r : InstanceId) (k : TimerKey) (d : Nat) : Prop :=
  ∃ n, s.nodes.get? r = some n ∧ n.detector.timers.deadline? k = some d

/-- The timer of a key of `r` is pending, and its deadline has come. -/
def Due (s : Simulation γ) (r : InstanceId) (k : TimerKey) : Prop :=
  ∃ d, s.Pending r k d ∧ d ≤ s.now

/-! ### The tick -/

theorem get?_tickNodes (s : Simulation γ) (r : InstanceId) :
    s.tickNodes.nodes.get? r = (s.nodes.get? r).map (·.tick s.now) := by
  rw [tickNodes, SortedMap.get?_mapValues]

theorem exists_of_get?_tickNodes {n' : Node} (hn' : s.tickNodes.nodes.get? r = some n') :
    ∃ n, s.nodes.get? r = some n ∧ n.tick s.now = n' :=
  Option.map_eq_some_iff.mp ((s.get?_tickNodes r).symm.trans hn')

theorem mem_inbox_tick {e : Envelope Signal} {time : Nat} (unread : n.inbox = ∅) :
    e ∈ (n.tick time).inbox.toList ↔
      ∃ a ∈ n.detector.timers.pending, a.deadline ≤ max n.detector.timers.now time ∧
        a.message = e := by
  have due : (n.tick time).inbox.toList =
      n.inbox.toList ++ ((n.detector.timers.expire time).2.map Armed.message) := rfl
  rw [due, unread, Mailbox.toList_empty, List.nil_append, List.mem_map]
  simp only [LogicalTimers.mem_expired, and_assoc]

theorem attends_tick {me : InstanceId} {members : List InstanceId} {time : Nat}
    (h : n.Attends me members) : (n.tick time).Attends me members where
  phase_eq := h.phase_eq
  posted := h.posted
  watches :=
    { h.watches with
      agrees := h.watches.agrees
      distinct := h.watches.distinct.expire time
      armed := fun a ha => h.watches.armed a (List.mem_filter.mp ha).1 }

section Tick

variable (h : s.InOrder) (hq : s.Quiet)
include h hq

/-- What waits to be handled after a tick comes from timers of members that wait for others. -/
theorem signal_of_mem_inbox_tickNodes {n' : Node} (hn' : s.tickNodes.nodes.get? r = some n')
    {e : Envelope Signal} (he : e ∈ n'.inbox.toList) :
    ∃ k : TimerKey, e.content = k.signal ∧ k.peer ∈ s.group ∧ k.peer ≠ r := by
  obtain ⟨n, hn, rfl⟩ := exists_of_get?_tickNodes hn'
  obtain ⟨a, ha, -, rfl⟩ := (mem_inbox_tick (hq.node hn).1).mp he
  by_cases hr : r ∈ s.group
  · exact ⟨a.key, (h.attends r n hn hr).watches.armed a ha⟩
  · rw [(h.retired r n hn hr).unarmed] at ha
    exact absurd ha List.not_mem_nil

theorem InOrder.tickNodes : s.tickNodes.InOrder := by
  constructor
  · intro r n' hn' hr
    obtain ⟨n, hn, rfl⟩ := exists_of_get?_tickNodes hn'
    exact attends_tick (h.attends r n hn hr)
  · intro r n' hn' e he
    obtain ⟨k, content, member, other⟩ := signal_of_mem_inbox_tickNodes h hq hn' he
    exact .due k content member other
  · intro r n' hn' hr
    obtain ⟨n, hn, rfl⟩ := exists_of_get?_tickNodes hn'
    have retired := h.retired r n hn hr
    have pending : (n.tick s.now).detector.timers.pending = [] := by
      change n.detector.timers.pending.filter _ = []
      rw [retired.unarmed, List.filter_nil]
    refine ⟨retired.phase_eq, pending, ?_, retired.unsent⟩
    have unread : (n.tick s.now).inbox.toList = [] := by
      refine List.eq_nil_iff_forall_not_mem.mpr fun e he => ?_
      obtain ⟨a, ha, -⟩ := (mem_inbox_tick retired.unread).mp he
      rw [retired.unarmed] at ha
      exact absurd ha List.not_mem_nil
    exact congrArg Mailbox.mk unread

omit h in
theorem carried_tickNodes : s.tickNodes.Carried := by
  intro r n' hn'
  obtain ⟨n, hn, rfl⟩ := exists_of_get?_tickNodes hn'
  exact (hq.node hn).2

theorem justTicked_tickNodes : s.tickNodes.JustTicked := by
  intro r n' hn' e he
  obtain ⟨k, content, -, -⟩ := signal_of_mem_inbox_tickNodes h hq hn' he
  exact ⟨k, content⟩

/-- Exactly the timers run out whose deadline has come. -/
theorem ranOut_tickNodes (clock : s.OnTime) (hr : r ∈ s.group) :
    s.tickNodes.RanOut r k ↔ s.Due r k := by
  constructor
  · rintro ⟨n', hn', e, he, hk⟩
    obtain ⟨n, hn, rfl⟩ := exists_of_get?_tickNodes hn'
    obtain ⟨a, ha, hd, rfl⟩ := (mem_inbox_tick (hq.node hn).1).mp he
    have watches := (h.attends r n hn hr).watches
    have key : a.key = k := TimerKey.signal_inj.mp ((watches.armed a ha).1.symm.trans hk)
    have found := watches.distinct.find?_eq_some ha
    rw [Nat.max_eq_right (clock r n hn).1] at hd
    exact ⟨a.deadline, ⟨n, hn, by rw [LogicalTimers.deadline?, ← key, found]; rfl⟩, hd⟩
  · rintro ⟨d, ⟨n, hn, hd⟩, hle⟩
    obtain ⟨a, ha, rfl⟩ := Option.map_eq_some_iff.mp hd
    have pending := LogicalTimers.mem_of_find? ha
    have content := ((h.attends r n hn hr).watches.armed a pending).1
    rw [LogicalTimers.find?_key ha] at content
    refine ⟨n.tick s.now, by rw [get?_tickNodes, hn]; rfl, a.message, ?_, content⟩
    refine (mem_inbox_tick (hq.node hn).1).mpr ⟨a, pending, ?_, rfl⟩
    exact Nat.le_trans hle (Nat.le_max_right _ _)

/-- No wait ends in vain for anybody whom nobody has waited for too long. -/
theorem unheard_tickNodes (clock : s.OnTime) (heard : ∀ r ∈ s.group, ¬ s.Due r (.receive x)) :
    s.tickNodes.Mail fun e => e.content ≠ .timedOut x := by
  intro r n hn e he hc
  by_cases hr : r ∈ s.group
  · exact heard r hr ((ranOut_tickNodes h hq clock hr).mp ⟨n, hn, e, he, hc⟩)
  · rw [((h.tickNodes hq).retired r n hn hr).unread] at he
    exact absurd he List.not_mem_nil

end Tick

theorem reportOf_tick (n : Node) (time : Nat) (q : InstanceId) :
    (n.tick time).detector.reportOf q = n.detector.reportOf q := rfl

/-! ### The round -/

/-- What `r` knows `q` to suspect; nothing if `r` is not running. -/
def reportAt (s : Simulation γ) (r q : InstanceId) : InstanceSet :=
  ((s.nodes.get? r).map fun n => n.detector.reportOf q).getD ∅

theorem reportAt_eq (hn : s.nodes.get? r = some n) : s.reportAt r q = n.detector.reportOf q := by
  simp [reportAt, hn]

theorem exists_of_mem_reportAt (hx : x ∈ s.reportAt r q) :
    ∃ n, s.nodes.get? r = some n ∧ x ∈ n.detector.reportOf q := by
  cases hn : s.nodes.get? r with
  | none => simp [reportAt, hn] at hx
  | some n => exact ⟨n, rfl, reportAt_eq hn ▸ hx⟩

theorem reportAt_tickNodes (s : Simulation γ) (r q : InstanceId) :
    s.tickNodes.reportAt r q = s.reportAt r q := by
  rw [reportAt, reportAt, get?_tickNodes, Option.map_map]
  rfl

variable [DrawSource γ]

/-- All clocks move and everything settles. -/
def round (s : Simulation γ) : Simulation γ := s.tickNodes.settle

theorem isSome_passed (h : s.InOrder) (r : InstanceId) :
    (s.passed.nodes.get? r).isSome = (s.nodes.get? r).isSome := by
  obtain ⟨kept, -, -, get⟩ := get?_passed h
  rw [get, Option.isSome_map]

theorem clock_passed (h : s.InOrder) (hm : s.passed.nodes.get? r = some m) :
    ∃ n, s.nodes.get? r = some n ∧ m.detector.timers.now = n.detector.timers.now ∧
      m.detector.timers.delay = n.detector.timers.delay := by
  obtain ⟨n, hn, handled⟩ := detector_passed h hm
  refine ⟨n, hn, ?_⟩
  rw [handled]
  by_cases hr : r ∈ s.group
  · exact ⟨Node.now_after (h.attends r n hn hr) (h.awaited r n hn),
      Node.delay_after (h.attends r n hn hr) (h.awaited r n hn)⟩
  · rw [(h.retired r n hn hr).unread]
    exact ⟨rfl, rfl⟩

theorem now_passed (s : Simulation γ) : s.passed.now = s.now :=
  congrArg Prod.snd (s.frame_pass : s.passed.frame = s.frame)

theorem OnTime.passed (clock : s.OnTime) (h : s.InOrder) : s.passed.OnTime := by
  intro r n' hn'
  have scenario : s.passed.scenario = s.scenario :=
    congrArg Prod.fst (s.frame_pass : s.passed.frame = s.frame)
  obtain ⟨n, hn, now, delay⟩ := clock_passed h hn'
  rw [now, delay, now_passed, scenario]
  exact clock r n hn

theorem frame_round (s : Simulation γ) : s.round.frame = s.frame := frame_settleWithin 5 _

section Round

variable (h : s.InOrder) (hq : s.Quiet)
include h hq

theorem round_eq : s.round = s.tickNodes.passed.passed.passed :=
  settle_eq (h.tickNodes hq) (carried_tickNodes hq)

theorem InOrder.round : s.round.InOrder := by
  rw [round_eq h hq]
  exact (h.tickNodes hq).passed.passed.passed

theorem Quiet.round : s.round.Quiet := by
  rw [round_eq h hq]
  exact quiet_third (h.tickNodes hq)

theorem members_round : s.round.members = s.members := by
  rw [round_eq h hq, members_passed, members_passed, members_passed]
  rfl

theorem group_round : s.round.group = s.group := congrArg Cluster.seen (members_round h hq)

theorem agenda_round : s.round.agenda = s.agenda := by
  rw [round_eq h hq, agenda_passed, agenda_passed, agenda_passed]
  rfl

theorem rate_round : s.round.network.rate = s.network.rate := by
  have ticked := h.tickNodes hq
  rw [round_eq h hq, rate_passed ticked.passed.passed, rate_passed ticked.passed,
    rate_passed ticked]
  rfl

theorem isSome_round (r : InstanceId) :
    (s.round.nodes.get? r).isSome = (s.nodes.get? r).isSome := by
  have ticked := h.tickNodes hq
  rw [round_eq h hq, isSome_passed ticked.passed.passed, isSome_passed ticked.passed,
    isSome_passed ticked, get?_tickNodes, Option.isSome_map]

theorem mem_keys_round : r ∈ s.round.nodes.keys ↔ r ∈ s.nodes.keys := by
  simp only [SortedMap.mem_keys_iff, ← Option.isSome_iff_exists, isSome_round h hq]

omit [DrawSource γ] h hq in
theorem OnTime.tickNodes (clock : s.OnTime) : s.tickNodes.OnTime := by
  intro r n' hn'
  obtain ⟨n, hn, rfl⟩ := exists_of_get?_tickNodes hn'
  exact ⟨Nat.max_le.mpr ⟨(clock r n hn).1, Nat.le_refl _⟩, (clock r n hn).2⟩

theorem OnTime.round (clock : s.OnTime) : s.round.OnTime := by
  have ticked := h.tickNodes hq
  rw [round_eq h hq]
  exact ((clock.tickNodes.passed ticked).passed ticked.passed).passed ticked.passed.passed

variable (clock : s.OnTime) (lossless : s.network.rate.losing = 0)
include clock lossless

omit clock in
theorem running_round (running : r ∈ s.nodes.keys) :
    ∃ n m, s.nodes.get? r = some n ∧ s.tickNodes.nodes.get? r = some (n.tick s.now) ∧
      s.tickNodes.settle.nodes.get? r = some m := by
  obtain ⟨n, hn⟩ := SortedMap.mem_keys_iff.mp running
  have ticked : s.tickNodes.nodes.get? r = some (n.tick s.now) := by
    rw [get?_tickNodes, hn]
    rfl
  have settled := (get?_settle (h.tickNodes hq) (carried_tickNodes hq) lossless ticked).2.2
  exact ⟨n, _, hn, ticked, settled⟩

/-- An instance suspects those whom it suspected or from whom nothing came in time, but nobody
whose heartbeat was due. -/
theorem mem_own_round (hr : r ∈ s.group) (running : r ∈ s.nodes.keys) (hx : x ∈ s.group) :
    x ∈ s.round.reportAt r r ↔
      (x ∈ s.reportAt r r ∨ s.Due r (.receive x)) ∧ ¬ s.Due x (.send r) := by
  obtain ⟨n, m, hn, ticked, hm⟩ := running_round h hq lossless running
  have own := mem_own_settle (h.tickNodes hq) (carried_tickNodes hq) lossless
    (justTicked_tickNodes h hq) hr ticked hm hx
  rw [reportOf_tick, ranOut_tickNodes h hq clock hr, ranOut_tickNodes h hq clock hx] at own
  rw [reportAt_eq hn, round, reportAt_eq hm]
  exact own

/-- The timers that were due run anew, and those for peers whose heartbeat was due; the others
keep their deadlines. -/
theorem pending_round (hr : r ∈ s.group) (running : r ∈ s.nodes.keys) (hk : k.peer ∈ s.group)
    (small : s.now + s.scenario.wait k ≤ LogicalTimers.lastInstant) :
    (s.Due r k ∨ (∃ x, k = .receive x ∧ s.Due x (.send r)) →
      s.round.Pending r k (s.now + s.scenario.wait k)) ∧
    (¬ s.Due r k → (¬ ∃ x, k = .receive x ∧ s.Due x (.send r)) →
      ∀ d, s.Pending r k d → s.round.Pending r k d) := by
  obtain ⟨n, m, hn, ticked, hm⟩ := running_round h hq lossless running
  have delay : (n.tick s.now).detector.timers.delay = s.scenario.timing.delay := (clock r n hn).2
  have now : (n.tick s.now).detector.timers.now = s.now := Nat.max_eq_right (clock r n hn).1
  have wait : s.scenario.timing.wait k = .ofMillis (s.scenario.wait k) := by cases k <;> rfl
  have ranOut := ranOut_tickNodes (k := k) h hq clock hr
  have beaten : (∃ x, k = .receive x ∧ s.tickNodes.RanOut x (.send r)) ↔
      ∃ x, k = .receive x ∧ s.Due x (.send r) := by
    refine exists_congr fun x => and_congr_right fun hx => ?_
    subst hx
    exact ranOut_tickNodes h hq clock hk
  have deadlines := deadline?_settle (k := k) (h.tickNodes hq) (carried_tickNodes hq) lossless
    (justTicked_tickNodes h hq) hr ticked hm hk delay
  rw [ranOut, beaten, now, wait, LogicalTimers.deadlineAfter_ofMillis small] at deadlines
  refine ⟨fun due => ⟨m, hm, deadlines.1 due⟩, fun due beat d pending => ⟨m, hm, ?_⟩⟩
  obtain ⟨n', hn', hd⟩ := pending
  obtain rfl := Option.some.inj (hn'.symm.trans hn)
  rw [deadlines.2 due beat]
  have later : ¬ d ≤ s.now := fun hle => due ⟨d, ⟨n', hn, hd⟩, hle⟩
  refine ((h.attends r n' hn hr).watches.distinct.deadline?_expire s.now k).trans ?_
  rw [hd, Nat.max_eq_right (clock r n' hn).1]
  simp [Option.filter, later]

omit lossless [DrawSource γ] in
theorem Trusted.tickNodes (ht : s.Trusted o) (heard : ∀ r ∈ s.group, ¬ s.Due r (.receive o)) :
    s.tickNodes.Trusted o := by
  constructor
  · intro r hr n' hn'
    obtain ⟨n, hn, rfl⟩ := exists_of_get?_tickNodes hn'
    exact ht.trusts r hr n hn
  · intro r n hn e he
    refine ⟨unheard_tickNodes h hq clock heard r n hn e he, fun t ht => ?_⟩
    obtain ⟨k, hk⟩ := justTicked_tickNodes h hq r n hn e he
    rw [hk] at ht
    cases k <;> cases ht

omit lossless in
theorem Trusted.round (ht : s.Trusted o) (heard : ∀ r ∈ s.group, ¬ s.Due r (.receive o)) :
    s.round.Trusted o :=
  (ht.tickNodes h hq clock heard).settle (h.tickNodes hq) (carried_tickNodes hq)

omit clock in
/-- Of an instance that is not running the report is kept. -/
theorem reportAt_round (ho : o ∈ s.group) (running : o ∈ s.nodes.keys) (hne : r ≠ o)
    (hr : s.nodes.get? r = none) : s.round.reportAt o r = s.reportAt o r := by
  obtain ⟨n, m, hn, ticked, hm⟩ := running_round h hq lossless running
  have gone : s.tickNodes.nodes.get? r = none := by
    rw [get?_tickNodes, hr]
    rfl
  have kept := reportOf_settle (h.tickNodes hq) (carried_tickNodes hq) lossless
    (justTicked_tickNodes h hq) ho hne gone ticked hm
  rw [round, reportAt_eq hm, reportAt_eq hn, kept, reportOf_tick]

/-- What a trusted member knows about the suspicion of another it still knows after the round. -/
theorem told_round (ho : o ∈ s.group) (hr : r ∈ s.group) (hne : r ≠ o) (hro : o ∈ s.nodes.keys)
    (hrr : r ∈ s.nodes.keys) (ht : s.Trusted o) (heard : ∀ r ∈ s.group, ¬ s.Due r (.receive o))
    {R : Prop → Prop → Prop} (refl : ∀ p, R p p)
    (told : R (x ∈ s.reportAt o r) (x ∈ s.reportAt r r)) :
    R (x ∈ s.round.reportAt o r) (x ∈ s.round.reportAt r r) := by
  obtain ⟨n, m, hn, ticked, hm⟩ := running_round h hq lossless hro
  obtain ⟨n', m', hn', ticked', hm'⟩ := running_round h hq lossless hrr
  have settled := told_settle (x := x) (h.tickNodes hq) (carried_tickNodes hq) lossless
    (justTicked_tickNodes h hq) ho hr hne (ht.tickNodes h hq clock heard) refl ?_ m m' hm hm'
  · rwa [round, reportAt_eq hm, reportAt_eq hm']
  · intro p p' hp hp'
    obtain rfl := Option.some.inj (hp.symm.trans ticked)
    obtain rfl := Option.some.inj (hp'.symm.trans ticked')
    rwa [reportOf_tick, reportOf_tick, ← reportAt_eq hn, ← reportAt_eq hn']

/-- In a round in which `r` does not suspect `x` nobody comes to believe that it does. -/
theorem innocent_round (ho : o ∈ s.group) (hr : r ∈ s.group) (hne : r ≠ o) (hro : o ∈ s.nodes.keys)
    (own : x ∉ s.reportAt r r) (heard : ¬ s.Due r (.receive x))
    (believes : x ∈ s.round.reportAt o r) : x ∈ s.reportAt o r := by
  obtain ⟨n, m, hn, ticked, hm⟩ := running_round h hq lossless hro
  have innocent : s.tickNodes.Innocent r x := by
    refine ⟨fun n' hn' => ?_, fun n' hn' e he hc => ?_, fun q n' hn' e he t ht => ?_⟩
    · obtain ⟨n, hn, rfl⟩ := exists_of_get?_tickNodes hn'
      rwa [reportAt_eq hn] at own
    · exact heard ((ranOut_tickNodes h hq clock hr).mp ⟨n', hn', e, he, hc⟩)
    · have unsaid := unsaid_of_justTicked (r := r) (justTicked_tickNodes h hq) n' hn'
      rw [List.filterMap_eq_nil_iff.mp unsaid e he] at ht
      cases ht
  rw [round, reportAt_eq hm] at believes
  rw [reportAt_eq hn, ← reportOf_tick n s.now]
  exact innocent_settle (h.tickNodes hq) (carried_tickNodes hq) ho innocent hr hne ticked hm
    believes

end Round

end Simulation
end Vigil
