import Vigil.Proofs.Node.News
import Vigil.Proofs.Simulation.Upheaval

/-!
What a round adds to the log where nobody but `x` is suspected. If no heartbeat of `x` is due, `x` may
fail in the round and does not come alive (`seen_round_of_mute`). If everybody knows of those who
wait for `x` in vain that they suspect it, `x` may come alive and does not fail
(`seen_round_of_told`). Either way an observer notes nothing but how its failed instances at the end
of the round differ from those at its beginning.
-/

namespace Vigil
namespace Simulation

open Detector (Awaited)

variable {γ : Type} {s s' s'' : Simulation γ} {r o q x : InstanceId} {n m : Node}
  {e : ScheduledEvent} {R : Prop → Prop → Prop}

/-- What `o` has noted so far. -/
def seen (s : Simulation γ) (o : InstanceId) : List Observation :=
  s.log.filter fun e => e.observer == o

/-- Whom `o` fails; nobody if `o` is not running. -/
def failedAt (s : Simulation γ) (o : InstanceId) : InstanceSet :=
  ((s.nodes.get? o).map Node.failed).getD ∅

/-- The transitions as `o` notes them now. -/
def noted (s : Simulation γ) (o : InstanceId) (ts : List Transition) : List Observation :=
  ts.map fun t => ⟨s.now, o, t⟩

theorem failedAt_eq (hn : s.nodes.get? o = some n) : s.failedAt o = n.failed := by
  simp [failedAt, hn]

theorem failedAt_of_absent (hn : s.nodes.get? o = none) : s.failedAt o = ∅ := by
  simp [failedAt, hn]

theorem seen_record (s : Simulation γ) (q o : InstanceId) (out : NodeOutcome) :
    (s.record q out).seen o = s.seen o ++ if q = o then s.noted o out.transitions else [] := by
  have log : (s.record q out).log = s.log ++ s.noted q out.transitions := rfl
  rw [seen, log, List.filter_append]
  by_cases hq : q = o
  · subst hq
    have own : (s.noted q out.transitions).filter (fun e => e.observer == q) =
        s.noted q out.transitions := List.filter_eq_self.mpr fun e he => by
      obtain ⟨t, -, rfl⟩ := List.mem_map.mp he
      exact beq_self_eq_true q
    rw [own, if_pos rfl]
    rfl
  · have other : (s.noted q out.transitions).filter (fun e => e.observer == o) = [] :=
      List.filter_eq_nil_iff.mpr fun e he => by
        obtain ⟨t, -, rfl⟩ := List.mem_map.mp he
        simpa using hq
    rw [other, if_neg hq]
    rfl

theorem seen_recordAll (l : List (InstanceId × NodeOutcome)) (s : Simulation γ)
    (keys : (l.map Prod.fst).Nodup) :
    (s.recordAll l).seen o =
      s.seen o ++ ((SortedMap.lookup o l).map fun out => s.noted o out.transitions).getD [] := by
  induction l generalizing s with
  | nil => exact (List.append_nil _).symm
  | cons p l ih =>
      obtain ⟨q, out⟩ := p
      rw [List.map_cons, List.nodup_cons] at keys
      have noted : (s.record q out).noted o = s.noted o := rfl
      change ((s.record q out).recordAll l).seen o = _
      rw [ih _ keys.2, seen_record, noted, SortedMap.lookup]
      by_cases hq : q = o
      · have absent : SortedMap.lookup o l = none := SortedMap.lookup_eq_none (hq ▸ keys.1)
        simp [hq, absent]
      · simp [hq]

theorem transitions_pump (n : Node) :
    n.pump.transitions = (n.handleAll n.inbox.toList).transitions := by
  have unread : ∀ (es : List (Envelope Signal)) (n : Node),
      (({ n with inbox := ∅ } : Node).handleAll es).transitions = (n.handleAll es).transitions := by
    intro es
    induction es with
    | nil => exact fun n => rfl
    | cons e es ih => exact fun n => congrArg ((n.handle e).transitions ++ ·) (ih (n.handle e).node)
  exact unread n.inbox.toList n

/-! ### What events add to the log -/

theorem seen_startNode (s : Simulation γ) (q o : InstanceId) :
    (s.startNode q).seen o = s.seen o := by
  have started := s.seen_record q o (Node.start q s.members s.scenario.timing s.now).join
  rw [Node.transitions_join] at started
  refine started.trans ?_
  split <;> exact List.append_nil _

theorem seen_start (draws : γ) (sc : Scenario) (o : InstanceId) : (start draws sc).seen o = [] := by
  exact List.foldlRecOn (motive := fun s => s.seen o = []) sc.members startNode
    (b := blank draws sc) rfl fun s before q _ => (s.seen_startNode q o).trans before

theorem seen_happen (stays : e.action ≠ .leave) : (s.happen e).seen o = s.seen o := by
  cases he : e.action with
  | crash =>
      rw [happen_crash he]
      rfl
  | restart =>
      rw [happen_restart he]
      split
      · exact s.seen_startNode e.subject o
      · rfl
  | leave => exact absurd he stays

theorem seen_struck (h : s.Steady) (stays : ∀ e ∈ s.due, e.action ≠ .leave) :
    s.struck.seen o = s.seen o :=
  (struck_induction (P := fun s' => s'.seen o = s.seen o) h rfl
    fun _ _ before e he => (seen_happen (stays e he)).trans before).2

/-- Whoever goes on running fails whom it failed, and whoever starts fails nobody. -/
theorem failedAt_happen (stays : e.action ≠ .leave) (spared : ¬ e.Crashes o) :
    (s.happen e).failedAt o = s.failedAt o := by
  cases he : e.action with
  | crash =>
      have other : o ≠ e.subject := fun same => spared ⟨he, same.symm⟩
      rw [failedAt, get?_crash he, if_neg other, failedAt]
  | restart =>
      rw [happen_restart he]
      split
      · rename_i absent
        rw [failedAt, get?_startNode]
        split
        · rename_i starts
          have gone : s.nodes.get? o = none :=
            Option.eq_none_iff_forall_ne_some.mpr fun n hn =>
              absent.1 (starts ▸ SortedMap.mem_keys_iff.mpr ⟨n, hn⟩)
          rw [failedAt_of_absent gone, Option.map_some, Option.getD_some]
          exact Node.failed_join ..
        · rfl
      · rfl
  | leave => exact absurd he stays

theorem failedAt_struck (h : s.Steady) (stays : ∀ e ∈ s.due, e.action ≠ .leave)
    (spared : ∀ e ∈ s.due, ¬ e.Crashes o) : s.struck.failedAt o = s.failedAt o :=
  (struck_induction (P := fun s' => s'.failedAt o = s.failedAt o) h rfl
    fun _ _ before e he => (failedAt_happen (stays e he) (spared e he)).trans before).2

/-! ### What a pass adds to the log -/

variable [DrawSource γ]

theorem log_carryAll (l : List (InstanceId × Envelope Signal)) (s : Simulation γ) :
    (s.carryAll l).1.log = s.log := by
  induction l generalizing s with
  | nil => rfl
  | cons p l ih => exact ih _

theorem seen_passed (s : Simulation γ) (o : InstanceId) :
    s.passed.seen o = s.seen o ++
      ((s.nodes.get? o).map fun n => s.noted o (n.handleAll n.inbox.toList).transitions).getD [] := by
  have log : s.passed.log = (s.recordAll (s.nodes.mapValues fun _ n => n.pump).toList).log :=
    log_carryAll _ _
  have keys : ((s.nodes.mapValues fun _ n => n.pump).toList.map Prod.fst).Nodup := by
    change (s.nodes.toList.map fun p => (p.1, p.2.pump)).map Prod.fst |>.Nodup
    rw [List.map_map]
    exact s.nodes.keys.nodup
  have all := seen_recordAll (o := o) _ s keys
  have get : SortedMap.lookup o (s.nodes.mapValues fun _ n => n.pump).toList =
      (s.nodes.get? o).map Node.pump := SortedMap.get?_mapValues _ _ _
  rw [get, Option.map_map] at all
  rw [seen, log]
  refine all.trans ?_
  simp only [Function.comp_def, transitions_pump]

/-! ### Passes in which only `x` matters -/

/-- Every node has announced all its transitions. -/
def Announced (s : Simulation γ) : Prop :=
  ∀ r n, s.nodes.get? r = some n → n.detector.pending = []

omit [DrawSource γ] in
theorem Announced.happen (announced : s.Announced) (e : ScheduledEvent) :
    (s.happen e).Announced := by
  intro r n' hn'
  cases origin_of_happen hn' with
  | spared hn => exact announced r n' hn
  | started => rfl
  | @parted n _ hn =>
      apply Node.announced_forget
      split
      · rfl
      · exact announced r n hn

omit [DrawSource γ] in
theorem Announced.struck (announced : s.Announced) (h : s.Steady) : s.struck.Announced :=
  (struck_induction (P := Announced) h announced fun _ _ announced e _ => announced.happen e).2

theorem Announced.passed (announced : s.Announced) (h : s.InOrder) : s.passed.Announced := by
  intro r n' hn'
  obtain ⟨n, hn, handled⟩ := detector_passed h hn'
  rw [handled]
  exact Node.pending_after (announced r n hn) n.inbox.toList

/-- The cluster is in order, nothing is left to carry or to announce, and nobody but `x` is
suspected. -/
structure Focused (s : Simulation γ) (x : InstanceId) : Prop where
  order : s.InOrder
  carried : s.Carried
  announced : s.Announced
  others : ∀ y, y ≠ x → s.Trusted y

/-- From one state to the other `o` comes to fail `x`, or ceases to, in the direction `R` only, and
notes just that. -/
def Notes (R : Prop → Prop → Prop) (x o : InstanceId) (s s' : Simulation γ) : Prop :=
  ∃ ts, Swing R x (s.failedAt o) ts (s'.failedAt o) ∧ s'.seen o = s.seen o ++ s.noted o ts ∧
    s'.now = s.now

omit [DrawSource γ] in
theorem Notes.trans (oneWay : OneWay R) (h : Notes R x o s s') (h' : Notes R x o s' s'') :
    Notes R x o s s'' := by
  obtain ⟨ts, swing, seen, now⟩ := h
  obtain ⟨ts', swing', seen', now'⟩ := h'
  have noted : s'.noted o ts' = s.noted o ts' := by rw [Simulation.noted, now, Simulation.noted]
  refine ⟨ts ++ ts', swing.append oneWay swing', ?_, now'.trans now⟩
  rw [seen', seen, noted, List.append_assoc, Simulation.noted, Simulation.noted, Simulation.noted,
    List.map_append]

omit [DrawSource γ] in
theorem Notes.seen_eq (h : Notes R x o s s') :
    s'.seen o = s.seen o ++ s.noted o (Transition.about x (s.failedAt o) (s'.failedAt o)) := by
  obtain ⟨ts, swing, seen, -⟩ := h
  rw [seen, swing.told]

section Focused

variable (f : s.Focused x)
include f

omit [DrawSource γ] in
theorem Focused.only (hr : r ∈ s.group) (hn : s.nodes.get? r = some n) :
    n.detector.SuspectsOnly x :=
  fun y hy => (f.others y hy).trusts r hr n hn

omit [DrawSource γ] in
theorem Focused.concerns (hn : s.nodes.get? r = some n) :
    ∀ e ∈ n.inbox.toList, e.ConcernsOnly x :=
  fun e he y hy => (f.others y hy).spares r n hn e he

theorem Focused.passed : s.passed.Focused x :=
  ⟨f.order.passed, carried_passed f.order, f.announced.passed f.order,
    fun y hy => (f.others y hy).passed f.order f.carried⟩

theorem Focused.notes_passed (oneWay : OneWay R)
    (swing : ∀ n, o ∈ s.group → s.nodes.get? o = some n →
      Swing R x n.failed (n.handleAll n.inbox.toList).transitions (n.after n.inbox.toList).failed) :
    Notes R x o s s.passed := by
  obtain ⟨kept, -, -, get⟩ := get?_passed f.order
  have now : s.passed.now = s.now := congrArg Prod.snd s.frame_pass
  have seen := s.seen_passed o
  cases hn : s.nodes.get? o with
  | none =>
      have gone : s.passed.nodes.get? o = none := by
        rw [get, hn]
        rfl
      rw [hn] at seen
      refine ⟨[], ?_, seen, now⟩
      rw [failedAt_of_absent hn, failedAt_of_absent gone]
      exact .refl oneWay x ∅
  | some n =>
      have failed : s.passed.failedAt o = (n.after n.inbox.toList).failed := by
        rw [failedAt, get, hn]
        rfl
      rw [hn] at seen
      refine ⟨(n.handleAll n.inbox.toList).transitions, ?_, seen, now⟩
      rw [failedAt_eq hn, failed]
      by_cases ho : o ∈ s.group
      · exact swing n ho hn
      · rw [(f.order.retired o n hn ho).unread]
        exact .refl oneWay x n.failed

theorem Focused.notes_of_raises (raises : s.Mail (·.Raises x)) : Notes Gains x o s s.passed :=
  f.notes_passed oneWay_gains fun n ho hn =>
    Node.swing_after_of_raises (f.order.attends o n hn ho) (f.order.awaited o n hn) (f.only ho hn)
      (f.concerns hn) (f.announced o n hn) (raises o n hn)

theorem Focused.notes_of_lowers
    (lowers : ∀ n, o ∈ s.group → s.nodes.get? o = some n → n.Lowers o x n.inbox.toList) :
    Notes Loses x o s s.passed :=
  f.notes_passed oneWay_loses fun n ho hn =>
    Node.swing_after_of_lowers (f.order.attends o n hn ho) (f.order.awaited o n hn) (f.only ho hn)
      (f.concerns hn) (f.announced o n hn) (lowers n ho hn)

/-- While nobody hears from `x`, all reports that are sent are of `x`. -/
theorem Focused.reports_of_deaf (deaf : s.Mail fun e => e.content ≠ .iAmAlive x) :
    s.passed.Mail fun e => ∀ t, e.content = .suspicions t → x ∈ t := by
  intro r n' hn' e he t ht
  obtain ⟨q, n, hn, hq, he, -⟩ := posted_of_mem_sentTo f.order (mem_inbox_passed f.order hn' he)
  exact Node.mem_report_of_deaf (f.order.attends q n hn hq) (f.order.awaited q n hn)
    (f.carried q n hn) he ht (f.only hq hn) (f.concerns hn) (deaf q n hn)

/-- While nobody waits for `x` in vain, no report that is sent is of `x`. -/
theorem Focused.reports_of_heard (heard : s.Mail fun e => e.content ≠ .timedOut x) :
    s.passed.Mail fun e => ∀ t, e.content = .suspicions t → x ∉ t := by
  intro r n' hn' e he t ht
  obtain ⟨q, n, hn, hq, he, -⟩ := posted_of_mem_sentTo f.order (mem_inbox_passed f.order hn' he)
  exact Node.not_mem_report_of_heard (f.order.attends q n hn hq) (f.order.awaited q n hn)
    (f.carried q n hn) he ht (f.only hq hn) (f.concerns hn) (heard q n hn)

/-! ### From a tick until everything has settled -/

variable (ticked : s.JustTicked)
include ticked

omit f [DrawSource γ] in
theorem deaf_of_justTicked : s.Mail fun e => e.content ≠ .iAmAlive x := by
  intro r n hn e he hx
  obtain ⟨k, hk⟩ := ticked r n hn e he
  rw [hx] at hk
  cases k <;> cases hk

omit f [DrawSource γ] in
theorem untold_of_justTicked : s.Mail fun e => ∀ t, e.content ≠ .suspicions t := by
  intro r n hn e he t ht
  obtain ⟨k, hk⟩ := ticked r n hn e he
  rw [ht] at hk
  cases k <;> cases hk

theorem Focused.notes_of_mute (hx : x ∈ s.group) (mute : ∀ r, ¬ s.RanOut x (.send r)) :
    Notes Gains x o s s.passed.passed.passed := by
  have deaf : s.Mail fun e => e.content ≠ .iAmAlive x := deaf_of_justTicked ticked
  have deaf₁ : s.passed.Mail fun e => e.content ≠ .iAmAlive x := by
    intro r n hn e he beat
    exact mute r ((heartbeat_mem_sentTo f.order f.carried hx).mp
      ⟨e, mem_inbox_passed f.order hn he, beat⟩)
  have deaf₂ : s.passed.passed.Mail fun e => e.content ≠ .iAmAlive x := by
    intro r n hn e he beat
    obtain ⟨t, ht⟩ := mail_passed_of_no_beat f.order.passed f.passed.carried
      (fun r n hn e he p => mail_passed f.order r n hn e he (.send p)) r n hn e he
    cases beat.symm.trans ht
  have first : Notes Gains x o s s.passed :=
    f.notes_of_raises fun r n hn e he => ⟨deaf r n hn e he, fun t ht =>
      absurd ht (untold_of_justTicked ticked r n hn e he t)⟩
  have second : Notes Gains x o s.passed s.passed.passed :=
    f.passed.notes_of_raises fun r n hn e he =>
      ⟨deaf₁ r n hn e he, f.reports_of_deaf deaf r n hn e he⟩
  have third : Notes Gains x o s.passed.passed s.passed.passed.passed :=
    f.passed.passed.notes_of_raises fun r n hn e he =>
      ⟨deaf₂ r n hn e he, f.passed.reports_of_deaf deaf₁ r n hn e he⟩
  exact (first.trans oneWay_gains second).trans oneWay_gains third

/-- What a member is told after a tick it knew before, if it knew of those who now wait for `x` in
vain that they suspect it. -/
theorem Focused.lowers_of_told (ho : o ∈ s.group)
    (told : x ≠ o → ∀ q ∈ s.group, s.RanOut q (.receive x) → x ∈ s.reportAt o q)
    (hm : s.passed.nodes.get? o = some m) : m.Lowers o x m.inbox.toList := by
  have mail (e : Envelope Signal) (he : e ∈ m.inbox.toList) : e ∈ s.sentTo o :=
    mem_inbox_passed f.order hm he
  refine ⟨fun _ e he silence => absurd silence (mail_passed f.order o m hm e he (.receive x)),
    fun other e he q t report named => ?_⟩
  have content := (Envelope.content_of_reportFrom report).1
  obtain ⟨p, n', hn', hp, he', l, k, rfl, -⟩ := posted_of_mem_sentTo f.order (mail e he)
  have sender := (Envelope.content_of_reportFrom report).2
  rw [Letter.sender_seal] at sender
  obtain rfl := Except.ok.inj sender
  -- The report has been sent because the wait for `x` was over.
  have waited : s.RanOut p (.receive x) := by
    obtain ⟨e, he, ⟨-, silence⟩ | ⟨spared, -⟩⟩ :=
      Node.cause_of_report (f.order.attends p n' hn' hp) (f.order.awaited p n' hn')
        (f.carried p n' hn') he' content (f.only hp hn') (f.concerns hn')
    · exact ⟨n', hn', e, he, silence⟩
    · exact absurd named spared
  have believes := told other p hp waited
  have others := Detector.sender_ne_of_awaited (f.order.passed.awaited o m hm _ he) report
  obtain ⟨n, hn, handled⟩ := detector_passed f.order hm
  constructor
  · rw [handled, Node.reportOf_after (f.order.attends o n hn ho) (f.order.awaited o n hn) others,
      unsaid_of_justTicked ticked n hn, ← reportAt_eq hn]
    exact believes
  · intro e' he' t' report'
    exact f.reports_of_deaf (deaf_of_justTicked ticked) o m hm e' he' t'
      (Envelope.content_of_reportFrom report').1

theorem Focused.notes_of_told
    (told : o ∈ s.group → x ≠ o → ∀ q ∈ s.group, s.RanOut q (.receive x) → x ∈ s.reportAt o q) :
    Notes Loses x o s s.passed.passed.passed := by
  -- The first pass handles vain waits, the second what is reported of them and the heartbeats, and
  -- the third what the heartbeats make others take back.
  have heard₁ : s.passed.Mail fun e => e.content ≠ .timedOut x :=
    fun r n hn e he => mail_passed f.order r n hn e he (.receive x)
  have heard₂ : s.passed.passed.Mail fun e => e.content ≠ .timedOut x :=
    fun r n hn e he => mail_passed f.order.passed r n hn e he (.receive x)
  have first : Notes Loses x o s s.passed := by
    refine f.notes_of_lowers fun n ho hn => ⟨fun other e he silence => ⟨?_, ?_⟩, ?_⟩
    · rw [← reportAt_eq hn]
      exact told ho other o ho ⟨n, hn, e, he, silence⟩
    · exact deaf_of_justTicked ticked o n hn
    · intro other e he q t report
      exact absurd (Envelope.content_of_reportFrom report).1
        (untold_of_justTicked ticked o n hn e he t)
  have second : Notes Loses x o s.passed s.passed.passed :=
    f.passed.notes_of_lowers fun m ho hm => by
      rw [group_passed] at ho
      exact f.lowers_of_told ticked ho (told ho) hm
  have third : Notes Loses x o s.passed.passed s.passed.passed.passed := by
    refine f.passed.passed.notes_of_lowers fun m _ hm => ⟨fun _ e he silence => ?_, ?_⟩
    · exact absurd silence (heard₂ o m hm e he)
    · intro other e he q t report named
      exact absurd named (f.passed.reports_of_heard heard₁ o m hm e he t
        (Envelope.content_of_reportFrom report).1)
  exact (first.trans oneWay_loses second).trans oneWay_loses third

end Focused

/-! ### Rounds in which only `x` matters -/

omit [DrawSource γ] in
theorem failedAt_tickNodes (s : Simulation γ) (o : InstanceId) :
    s.tickNodes.failedAt o = s.failedAt o := by
  rw [failedAt, failedAt, get?_tickNodes, Option.map_map]
  rfl

omit [DrawSource γ] in
theorem Announced.tickNodes (announced : s.Announced) : s.tickNodes.Announced := by
  intro r n' hn'
  obtain ⟨n, hn, rfl⟩ := exists_of_get?_tickNodes hn'
  exact announced r n hn

theorem Announced.round (announced : s.Announced) (h : s.Steady) : s.round.Announced := by
  have ticked := h.order.tickNodes h.quiet
  rw [round_eq h.order h.quiet]
  exact ((announced.tickNodes.passed ticked).passed ticked.passed).passed ticked.passed.passed

section Round

variable (h : s.Steady) (announced : s.Announced)
  (others : ∀ y, y ≠ x → s.Trusted y ∧ ∀ r ∈ s.group, ¬ s.Due r (.receive y))
include h announced others

omit [DrawSource γ] in
theorem focused_tickNodes : s.tickNodes.Focused x where
  order := h.order.tickNodes h.quiet
  carried := carried_tickNodes h.quiet
  announced := announced.tickNodes
  others y hy := (others y hy).1.tickNodes h.order h.quiet h.clock (others y hy).2

/-- In a round without heartbeats of `x`, whoever comes to fail `x` notes that. -/
theorem seen_round_of_mute (hx : x ∈ s.group) (mute : ∀ r, ¬ s.Due x (.send r)) :
    s.round.seen o =
      s.seen o ++ s.noted o (Transition.about x (s.failedAt o) (s.round.failedAt o)) := by
  have focused := focused_tickNodes h announced others
  have ticked := justTicked_tickNodes h.order h.quiet
  have notes := focused.notes_of_mute (o := o) ticked hx fun r ranOut =>
    mute r ((ranOut_tickNodes h.order h.quiet h.clock hx).mp ranOut)
  rw [round_eq h.order h.quiet, ← failedAt_tickNodes]
  exact notes.seen_eq

/-- In a round in which only those wait for `x` in vain of whom that is known, whoever ceases to fail
`x` notes that. -/
theorem seen_round_of_told
    (told : o ∈ s.group → x ≠ o → ∀ q ∈ s.group, s.Due q (.receive x) → x ∈ s.reportAt o q) :
    s.round.seen o =
      s.seen o ++ s.noted o (Transition.about x (s.failedAt o) (s.round.failedAt o)) := by
  have focused := focused_tickNodes h announced others
  have ticked := justTicked_tickNodes h.order h.quiet
  have notes := focused.notes_of_told (o := o) ticked fun ho other q hq ranOut => by
    rw [reportAt_tickNodes]
    exact told ho other q hq ((ranOut_tickNodes h.order h.quiet h.clock hq).mp ranOut)
  rw [round_eq h.order h.quiet, ← failedAt_tickNodes]
  exact notes.seen_eq

end Round

/-! ### From the start -/

theorem announced_after (draws : γ) (sc : Scenario) (k : Nat) : (after draws sc k).Announced := by
  induction k with
  | zero =>
      intro r n hn
      have node := ((start_fields draws sc).2.2.2.2 r).symm.trans hn
      split at node
      · cases node
        rfl
      · cases node
  | succ k ih =>
      rw [after_succ, advance_eq_round]
      have steady := steady_after draws sc k
      exact (ih.struck steady).round steady.struck

end Simulation
end Vigil
