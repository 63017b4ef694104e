import Vigil.Proofs.Node.Post

/-!
A node that works through its mail. `Attends` says that a node takes part and is in order; it stays
so over any awaited mail, and each lemma after that says what a whole list of messages does to one
part of the node, by induction on the list.
-/

namespace Vigil
namespace Node

open Detector (Awaited rearmed?)
open Envelope (reportsFor reportsFor_append)

/-- The node takes part, and its detector and its outbox are in order. -/
structure Attends (n : Node) (me : InstanceId) (members : List InstanceId) : Prop where
  phase_eq : n.phase = .heartbeat
  watches : n.detector.Watches me members
  posted : ∀ e ∈ n.outbox.toList, Posted me members e

variable {n : Node} {me o p q x : InstanceId} {members : List InstanceId} {e : Envelope Signal}
  {es : List (Envelope Signal)} {k : TimerKey}

/-! ### One message -/

section Handle

variable (ha : n.Attends me members) (hm : Awaited me members e)
include ha

theorem respond_attending :
    n.machine.respond e = n.detector.respondInHeartbeat e := by
  have known : n.detector.checkMembers.1 = n.detector := by
    have same : n.detector.cluster.members = n.detector.known :=
      ha.watches.members_eq.trans ha.watches.known_eq.symm
    simp [Detector.checkMembers, same]
  have phase : n.machine.phase = .heartbeat := ha.phase_eq
  simp only [Machine.respond, phase]
  exact congrArg (Detector.respondInHeartbeat · e) known

theorem detector_handle :
    (n.handle e).node.detector = (n.detector.respondInHeartbeat e).detector.takePending.1 := by
  rw [← respond_attending ha]
  rfl

theorem outbox_handle :
    (n.handle e).node.outbox.toList = n.outbox.toList ++
      (Machine.hand Outlet.taking me n.machine.sentCount
        (n.detector.respondInHeartbeat e).letters).map Handed.envelope := by
  have me_eq : n.machine.me = me := ha.watches.me_eq
  rw [← respond_attending ha, ← me_eq]
  rfl

include hm

theorem Attends.handle : (n.handle e).node.Attends me members where
  phase_eq := by
    change (n.machine.respond e).phase = .heartbeat
    rw [respond_attending ha]
    cases hm with
    | due key hk hp hne =>
        cases key with
        | receive p => rw [Detector.respond_timedOut ha.watches hk hp]
        | send p => rw [Detector.respond_sendHeartbeat ha.watches hk hp hne]
    | heartbeat q h hq hne => rw [Detector.respond_iAmAlive ha.watches h hq hne]
    | report q s h hs => rw [Detector.respond_suspicions h hs]
  watches := by
    have after := ha.watches.respond hm
    rw [detector_handle ha]
    exact { after with agrees := after.agrees }
  posted e' he' := by
    rw [outbox_handle ha, List.mem_append] at he'
    rcases he' with he' | he'
    · exact ha.posted e' he'
    · obtain ⟨l, hl, k, rfl⟩ := Machine.mem_hand he'
      obtain ⟨member, other, signal⟩ := Detector.mem_letters_respond ha.watches hm hl
      refine ⟨l, k, rfl, member, other, signal.imp And.left fun h => ⟨_, h.1, fun x hx => ?_⟩⟩
      exact (Detector.inside_respond ha.watches hm hx).2.1

/-- A message makes the instance send heartbeats, or what it suspects afterwards; the latter if its
wait is over, or if it hears from one that it suspects. -/
theorem content_of_mem_outbox_handle {e' : Envelope Signal}
    (he' : e' ∈ (n.handle e).node.outbox.toList) :
    e' ∈ n.outbox.toList ∨ e'.content = .iAmAlive me ∨
      e'.content = .suspicions ((n.handle e).node.detector.reportOf me) ∧
        ((∃ q, e.content = .timedOut q) ∨
          ∃ q ∈ n.detector.reportOf me, e.content = .iAmAlive q) := by
  rw [outbox_handle ha, List.mem_append] at he'
  refine he'.imp_right fun sent => ?_
  obtain ⟨l, hl, k, rfl⟩ := Machine.mem_hand sent
  obtain ⟨-, -, ⟨signal, -⟩ | report⟩ := Detector.mem_letters_respond ha.watches hm hl
  · exact .inl signal
  · rw [detector_handle ha]
    exact .inr report

theorem mem_own_handle :
    x ∈ (n.handle e).node.detector.reportOf me ↔
      (x ∈ n.detector.reportOf me ∨ e.content = .timedOut x) ∧ e.content ≠ .iAmAlive x := by
  rw [detector_handle ha]
  exact Detector.mem_own_respond ha.watches hm

theorem reportOf_handle (hq : q ≠ me) :
    (n.handle e).node.detector.reportOf q =
      ((e.reportFrom q).map (·.erase me)).getD (n.detector.reportOf q) := by
  rw [detector_handle ha]
  exact Detector.reportOf_respond ha.watches hm hq

theorem timers_handle :
    (n.handle e).node.detector.timers =
      (rearmed? e.content).elim n.detector.timers fun k =>
        n.detector.timers.set k (.timeout k.signal e) := by
  rw [detector_handle ha]
  exact Detector.timers_respond ha.watches hm

theorem now_handle : (n.handle e).node.detector.timers.now = n.detector.timers.now := by
  rw [timers_handle ha hm]
  cases rearmed? e.content <;> rfl

theorem delay_handle : (n.handle e).node.detector.timers.delay = n.detector.timers.delay := by
  rw [timers_handle ha hm]
  cases rearmed? e.content <;> rfl

theorem heartbeat_handle :
    (∃ e' ∈ (n.handle e).node.outbox.toList, e'.isFor p ∧ e'.content = .iAmAlive me) ↔
      (∃ e' ∈ n.outbox.toList, e'.isFor p ∧ e'.content = .iAmAlive me) ∨
        e.content = .sendHeartbeat p := by
  rw [outbox_handle ha, ← Detector.heartbeat_mem_letters_respond ha.watches hm]
  constructor
  · rintro ⟨e', he', hp, hc⟩
    rcases List.mem_append.mp he' with he' | he'
    · exact .inl ⟨e', he', hp, hc⟩
    · obtain ⟨⟨o, signal⟩, hl, k, rfl⟩ := Machine.mem_hand he'
      rw [Letter.isFor_seal, decide_eq_true_eq] at hp
      rw [Letter.content_seal] at hc
      subst hp hc
      exact .inr hl
  · rintro (⟨e', he', h⟩ | hl)
    · exact ⟨e', List.mem_append_left _ he', h⟩
    · obtain ⟨k, hk⟩ := Machine.seal_mem_hand hl
      exact ⟨_, List.mem_append_right _ hk, by simp, rfl⟩

/-- A trusted peer that has the reports sent to it so far knows the own report. -/
theorem latest_handle {s : InstanceSet} (ho : o ∈ members) (hne : o ≠ me)
    (ht : (n.handle e).node.detector.Trusts o)
    (h : latest s (reportsFor o me n.outbox.toList) = n.detector.reportOf me) :
    latest s (reportsFor o me (n.handle e).node.outbox.toList) =
      (n.handle e).node.detector.reportOf me := by
  rw [detector_handle ha] at ht ⊢
  rw [outbox_handle ha, reportsFor_append, latest_append, h, Machine.reportsFor_hand]
  exact Detector.latest_reports_respond ha.watches hm ho hne ht

theorem Attends.trusts_handle (ht : n.detector.Trusts o) (hs : e.Spares o) :
    (n.handle e).node.detector.Trusts o := by
  rw [detector_handle ha]
  exact ht.respond ha.watches hm hs

/-- Whoever trusts `o` sends nothing that makes others suspect it. -/
theorem spares_handle (ht : (n.handle e).node.detector.Trusts o)
    (unsent : ∀ e ∈ n.outbox.toList, e.Spares o) :
    ∀ e' ∈ (n.handle e).node.outbox.toList, e'.Spares o := by
  intro e' he'
  rcases content_of_mem_outbox_handle ha hm he' with old | beat | ⟨report, -⟩
  · exact unsent e' old
  · exact ⟨by simp [beat], by simp [beat]⟩
  · refine ⟨by simp [report], fun s h => ?_⟩
    rw [report] at h
    cases h
    exact ht me

end Handle

/-! ### All messages in the inbox -/

section HandleAll

/-- The node after a list of messages. -/
def after (n : Node) (es : List (Envelope Signal)) : Node := (n.handleAll es).node

@[simp] theorem after_nil (n : Node) : n.after [] = n := rfl

@[simp] theorem after_cons (n : Node) (e : Envelope Signal) (es : List (Envelope Signal)) :
    n.after (e :: es) = (n.handle e).node.after es := rfl

theorem handled_handleAll (n : Node) (es : List (Envelope Signal)) :
    (n.handleAll es).handled = es.length := by
  induction es generalizing n with
  | nil => rfl
  | cons e es ih =>
      simp only [handleAll, ih, List.length_cons]
      exact Nat.add_comm _ _

variable (ha : n.Attends me members) (hm : ∀ e ∈ es, Awaited me members e)
include ha hm

theorem Attends.after : (n.after es).Attends me members := by
  induction es generalizing n with
  | nil => exact ha
  | cons e es ih =>
      rw [List.forall_mem_cons] at hm
      exact ih (ha.handle hm.1) hm.2

/-- Timers that run out make the instance suspect their peers. -/
theorem mem_own_after_due (due : ∀ e ∈ es, ∀ q, e.content ≠ .iAmAlive q) :
    x ∈ (n.after es).detector.reportOf me ↔
      x ∈ n.detector.reportOf me ∨ ∃ e ∈ es, e.content = .timedOut x := by
  induction es generalizing n with
  | nil => simp
  | cons e es ih =>
      rw [List.forall_mem_cons] at hm due
      rw [after_cons, ih (ha.handle hm.1) hm.2 due.2, mem_own_handle ha hm.1,
        and_iff_left (due.1 x), List.exists_mem_cons_iff, or_assoc]

/-- Heartbeats make it suspect their senders no more. -/
theorem mem_own_after_mail (mail : ∀ e ∈ es, ∀ q, e.content ≠ .timedOut q) :
    x ∈ (n.after es).detector.reportOf me ↔
      x ∈ n.detector.reportOf me ∧ ∀ e ∈ es, e.content ≠ .iAmAlive x := by
  induction es generalizing n with
  | nil => simp
  | cons e es ih =>
      rw [List.forall_mem_cons] at hm mail
      rw [after_cons, ih (ha.handle hm.1) hm.2 mail.2, mem_own_handle ha hm.1,
        or_iff_left (mail.1 x), List.forall_mem_cons, and_assoc]

/-- Of a peer the last of its reports is kept. -/
theorem reportOf_after (hq : q ≠ me) :
    (n.after es).detector.reportOf q =
      latest (n.detector.reportOf q) ((es.filterMap (·.reportFrom q)).map (·.erase me)) := by
  induction es generalizing n with
  | nil => rfl
  | cons e es ih =>
      rw [List.forall_mem_cons] at hm
      rw [after_cons, ih (ha.handle hm.1) hm.2, reportOf_handle ha hm.1 hq]
      cases h : e.reportFrom q with
      | none => simp [h]
      | some s =>
          rw [List.filterMap_cons_some h, List.map_cons, ← List.singleton_append, latest_append]
          rfl

theorem heartbeat_after :
    (∃ e' ∈ (n.after es).outbox.toList, e'.isFor p ∧ e'.content = .iAmAlive me) ↔
      (∃ e' ∈ n.outbox.toList, e'.isFor p ∧ e'.content = .iAmAlive me) ∨
        ∃ e ∈ es, e.content = .sendHeartbeat p := by
  induction es generalizing n with
  | nil => simp
  | cons e es ih =>
      rw [List.forall_mem_cons] at hm
      rw [after_cons, ih (ha.handle hm.1) hm.2, heartbeat_handle ha hm.1,
        List.exists_mem_cons_iff, or_assoc]

/-- Reports make nobody send anything. -/
theorem outbox_after_reports (reports : ∀ e ∈ es, ∃ s, e.content = .suspicions s) :
    (n.after es).outbox = n.outbox := by
  induction es generalizing n with
  | nil => rfl
  | cons e es ih =>
      rw [List.forall_mem_cons] at hm reports
      rw [after_cons, ih (ha.handle hm.1) hm.2 reports.2]
      have none_sent : (n.detector.respondInHeartbeat e).letters = [] := by
        obtain ⟨s, hs⟩ := reports.1
        refine List.eq_nil_iff_forall_not_mem.mpr fun l hl => ?_
        obtain ⟨-, -, ⟨-, h⟩ | ⟨-, ⟨q, h⟩ | ⟨q, -, h⟩⟩⟩ :=
          Detector.mem_letters_respond ha.watches hm.1 hl
        all_goals
          rw [hs] at h
          cases h
      have outbox := outbox_handle (e := e) ha
      rw [none_sent] at outbox
      exact congrArg Mailbox.mk (outbox.trans (List.append_nil _))

theorem now_after : (n.after es).detector.timers.now = n.detector.timers.now := by
  induction es generalizing n with
  | nil => rfl
  | cons e es ih =>
      rw [List.forall_mem_cons] at hm
      exact (ih (ha.handle hm.1) hm.2).trans (now_handle ha hm.1)

theorem delay_after : (n.after es).detector.timers.delay = n.detector.timers.delay := by
  induction es generalizing n with
  | nil => rfl
  | cons e es ih =>
      rw [List.forall_mem_cons] at hm
      exact (ih (ha.handle hm.1) hm.2).trans (delay_handle ha hm.1)

/-- The timers that the messages make the instance arm run from now, and the others run on. -/
theorem deadline?_after {timing : HeartbeatTiming}
    (delay : n.detector.timers.delay = timing.delay) :
    (n.after es).detector.timers.deadline? k =
      if ∃ e ∈ es, rearmed? e.content = some k then
        some (LogicalTimers.deadlineAfter n.detector.timers.now (timing.wait k))
      else n.detector.timers.deadline? k := by
  induction es generalizing n with
  | nil => simp
  | cons e es ih =>
      rw [List.forall_mem_cons] at hm
      rw [after_cons, ih (ha.handle hm.1) hm.2 ((delay_handle ha hm.1).trans delay),
        now_handle ha hm.1, timers_handle ha hm.1]
      by_cases later : ∃ e ∈ es, rearmed? e.content = some k
      · rw [if_pos later, if_pos ((List.exists_mem_cons_iff ..).mpr (.inr later))]
      · rw [if_neg later]
        cases hk : rearmed? e.content with
        | none => simp [later, hk]
        | some l =>
            have signal : timing.delay.of (Envelope.timeout l.signal e) = timing.wait l :=
              timing.delay_of (Envelope.content_timeout _ _)
            rw [Option.elim_some, LogicalTimers.deadline?_set, delay, signal]
            by_cases hl : k = l
            · simp [hl, hk]
            · simp [hl, Ne.symm hl, hk, later]

theorem Attends.trusts_after (ht : n.detector.Trusts o) (hs : ∀ e ∈ es, e.Spares o) :
    (n.after es).detector.Trusts o := by
  induction es generalizing n with
  | nil => exact ht
  | cons e es ih =>
      rw [List.forall_mem_cons] at hm hs
      exact ih (ha.handle hm.1) hm.2 (ha.trusts_handle hm.1 ht hs.1) hs.2

theorem spares_after (ht : n.detector.Trusts o) (hs : ∀ e ∈ es, e.Spares o)
    (unsent : ∀ e ∈ n.outbox.toList, e.Spares o) :
    ∀ e ∈ (n.after es).outbox.toList, e.Spares o := by
  induction es generalizing n with
  | nil => exact unsent
  | cons e es ih =>
      rw [List.forall_mem_cons] at hm hs
      have trusts := ha.trusts_handle hm.1 ht hs.1
      exact ih (ha.handle hm.1) hm.2 trusts hs.2 (spares_handle ha hm.1 trusts unsent)

/-- Whoever does not suspect `x` and does not come to do so sends nobody a report of `x`. -/
theorem innocent_after (own : x ∉ n.detector.reportOf me)
    (heard : ∀ e ∈ es, e.content ≠ .timedOut x)
    (unsent : ∀ e ∈ n.outbox.toList, ∀ t, e.content = .suspicions t → x ∉ t) :
    x ∉ (n.after es).detector.reportOf me ∧
      ∀ e ∈ (n.after es).outbox.toList, ∀ t, e.content = .suspicions t → x ∉ t := by
  induction es generalizing n with
  | nil => exact ⟨own, unsent⟩
  | cons e es ih =>
      rw [List.forall_mem_cons] at hm heard
      have own' : x ∉ (n.handle e).node.detector.reportOf me := by
        rw [mem_own_handle ha hm.1]
        rintro ⟨suspects | silence, -⟩
        · exact own suspects
        · exact heard.1 silence
      refine ih (ha.handle hm.1) hm.2 own' heard.2 fun e' he' t ht => ?_
      rcases content_of_mem_outbox_handle ha hm.1 he' with old | beat | ⟨report, -⟩
      · exact unsent e' old t ht
      · cases beat.symm.trans ht
      · cases report.symm.trans ht
        exact own'

/-- Whoever suspects nobody and waits for nobody in vain sends no reports. -/
theorem serene_after (own : ∀ x, x ∉ n.detector.reportOf me)
    (heard : ∀ e ∈ es, ∀ q, e.content ≠ .timedOut q)
    (unsent : ∀ e ∈ n.outbox.toList, ∀ t, e.content ≠ .suspicions t) :
    (∀ x, x ∉ (n.after es).detector.reportOf me) ∧
      ∀ e ∈ (n.after es).outbox.toList, ∀ t, e.content ≠ .suspicions t := by
  induction es generalizing n with
  | nil => exact ⟨own, unsent⟩
  | cons e es ih =>
      rw [List.forall_mem_cons] at hm heard
      refine ih (ha.handle hm.1) hm.2 (fun x suspects => ?_) heard.2 fun e' he' t ht => ?_
      · rcases ((mem_own_handle ha hm.1).mp suspects).1 with before | silence
        · exact own x before
        · exact heard.1 x silence
      · rcases content_of_mem_outbox_handle ha hm.1 he' with
          old | beat | ⟨-, ⟨q, silence⟩ | ⟨q, suspects, -⟩⟩
        · exact unsent e' old t ht
        · cases beat.symm.trans ht
        · exact heard.1 q silence
        · exact own q suspects

theorem latest_after {s : InstanceSet} (ho : o ∈ members) (hne : o ≠ me)
    (ht : n.detector.Trusts o) (hs : ∀ e ∈ es, e.Spares o)
    (h : latest s (reportsFor o me n.outbox.toList) = n.detector.reportOf me) :
    latest s (reportsFor o me (n.after es).outbox.toList) = (n.after es).detector.reportOf me := by
  induction es generalizing n with
  | nil => exact h
  | cons e es ih =>
      rw [List.forall_mem_cons] at hm hs
      have trusts := ha.trusts_handle hm.1 ht hs.1
      exact ih (ha.handle hm.1) hm.2 trusts hs.2 (latest_handle ha hm.1 ho hne trusts h)

end HandleAll

end Node
end Vigil
