import Vigil.Proofs.Simulation.Settling

/-!
What settling comes to where nothing is lost. An instance suspects afterwards whom it suspected
before or whose timer ran out, except those whose heartbeat was due (`mem_own_settle`); exactly the
timers that ran out, or whose peer sent a heartbeat, run anew (`deadline?_settle`).
-/

namespace Vigil
namespace Simulation

open Detector (Awaited rearmed?)

variable {γ : Type} {s : Simulation γ} {r o p q x : InstanceId} {n m : Node} {k : TimerKey}

/-- The timer of a key of `r` has run out. -/
def RanOut (s : Simulation γ) (r : InstanceId) (k : TimerKey) : Prop :=
  ∃ n, s.nodes.get? r = some n ∧ ∃ e ∈ n.inbox.toList, e.content = k.signal

/-- Only timers have put messages into the mailboxes. -/
def JustTicked (s : Simulation γ) : Prop :=
  s.Mail fun e => ∃ k : TimerKey, e.content = k.signal

variable [DrawSource γ]

/-- A node after a pass in which nothing is lost. -/
def refilled (s : Simulation γ) (q : InstanceId) (n : Node) : Node :=
  { n.after n.inbox.toList with outbox := ∅, inbox := ⟨s.sentTo q⟩ }

omit [DrawSource γ] in
theorem detector_refilled (s : Simulation γ) (q : InstanceId) (n : Node) :
    (s.refilled q n).detector = (n.after n.inbox.toList).detector := rfl

theorem get?_passed_of_lossless (h : s.InOrder) (lossless : s.network.rate.losing = 0)
    (q : InstanceId) : s.passed.nodes.get? q = (s.nodes.get? q).map (s.refilled q) := by
  obtain ⟨kept, -, all, get⟩ := get?_passed h
  rw [get]
  cases hn : s.nodes.get? q with
  | none => rfl
  | some n =>
      rw [Option.map_some, Option.map_some, all lossless q n hn]
      rfl

omit [DrawSource γ]

/-- The heartbeats for `r` that are sent are those that are due. -/
theorem heartbeat_mem_sentTo (h : s.InOrder) (hc : s.Carried) (hx : x ∈ s.group) :
    (∃ e ∈ s.sentTo r, e.content = .iAmAlive x) ↔ s.RanOut x (.send r) := by
  constructor
  · rintro ⟨e, he, hx⟩
    obtain ⟨q, m, hm, hq, he', posted⟩ := posted_of_mem_sentTo h he
    rcases content_of_worked h hc hm hq he' with ⟨p, hp, hcontent, e', hin, hsend⟩ | ⟨t, ht⟩
    · rw [hx] at hcontent
      cases hcontent
      obtain ⟨l, k, rfl, -⟩ := posted
      have hr := (mem_sentTo.mp he).2
      rw [Letter.isFor_seal, decide_eq_true_eq] at hp hr
      exact ⟨m, hm, e', hin, (hp.symm.trans hr) ▸ hsend⟩
    · rw [ht] at hx
      cases hx
  · rintro ⟨m, hm, e, he, hsend⟩
    obtain ⟨e', he', hfor, hcontent⟩ := (Node.heartbeat_after (p := r)
      (h.attends x m hm hx) (h.awaited x m hm)).mpr (.inr ⟨e, he, hsend⟩)
    exact ⟨e', mem_sentTo.mpr ⟨⟨x, m, hm, he'⟩, hfor⟩, hcontent⟩

section Refilled

variable (h : s.InOrder) (hr : r ∈ s.group) (hn : s.nodes.get? r = some n)
include hn

theorem ranOut_iff : s.RanOut r k ↔ ∃ e ∈ n.inbox.toList, e.content = k.signal := by
  constructor
  · rintro ⟨n', hn', he⟩
    obtain rfl := Option.some.inj (hn'.symm.trans hn)
    exact he
  · exact fun he => ⟨n, hn, he⟩

/-- Where only timers have put messages, those that ran out are armed anew. -/
theorem exists_rearmed_iff_ranOut (ticked : s.JustTicked) :
    (∃ e ∈ n.inbox.toList, rearmed? e.content = some k) ↔ s.RanOut r k := by
  rw [ranOut_iff hn]
  refine exists_congr fun e => and_congr_right fun he => ?_
  obtain ⟨l, hl⟩ := ticked r n hn e he
  rw [Detector.rearmed?_eq_some_iff, or_iff_left]
  rintro ⟨p, -, hp⟩
  rw [hl] at hp
  cases l <;> cases hp

/-- Where no timer has put a message, those that wait for a sender of heartbeats are armed anew. -/
theorem exists_rearmed_iff_heard (mail : s.Mail fun e => ∀ k : TimerKey, e.content ≠ k.signal) :
    (∃ e ∈ n.inbox.toList, rearmed? e.content = some k) ↔
      ∃ x, k = .receive x ∧ ∃ e ∈ n.inbox.toList, e.content = .iAmAlive x := by
  have heard (e : Envelope Signal) (he : e ∈ n.inbox.toList) :
      rearmed? e.content = some k ↔ ∃ x, k = .receive x ∧ e.content = .iAmAlive x := by
    rw [Detector.rearmed?_eq_some_iff, or_iff_right (mail r n hn e he k)]
  constructor
  · rintro ⟨e, he, armed⟩
    obtain ⟨x, key, content⟩ := (heard e he).mp armed
    exact ⟨x, key, e, he, content⟩
  · rintro ⟨x, key, e, he, content⟩
    exact ⟨e, he, (heard e he).mpr ⟨x, key, content⟩⟩

include h hr

theorem mem_own_refilled_due (ticked : s.JustTicked) :
    x ∈ (s.refilled r n).detector.reportOf r ↔
      x ∈ n.detector.reportOf r ∨ s.RanOut r (.receive x) := by
  rw [detector_refilled, ranOut_iff hn]
  refine Node.mem_own_after_due (h.attends r n hn hr) (h.awaited r n hn) fun e he q hq => ?_
  obtain ⟨k, hk⟩ := ticked r n hn e he
  rw [hq] at hk
  cases k <;> cases hk

theorem mem_own_refilled_mail (mail : s.Mail fun e => ∀ k : TimerKey, e.content ≠ k.signal) :
    x ∈ (s.refilled r n).detector.reportOf r ↔
      x ∈ n.detector.reportOf r ∧ ∀ e ∈ n.inbox.toList, e.content ≠ .iAmAlive x := by
  rw [detector_refilled]
  exact Node.mem_own_after_mail (h.attends r n hn hr) (h.awaited r n hn)
    fun e he q => mail r n hn e he (.receive q)

theorem deadline?_refilled {timing : HeartbeatTiming}
    (delay : n.detector.timers.delay = timing.delay) :
    (s.refilled r n).detector.timers.deadline? k =
      if ∃ e ∈ n.inbox.toList, rearmed? e.content = some k then
        some (LogicalTimers.deadlineAfter n.detector.timers.now (timing.wait k))
      else n.detector.timers.deadline? k :=
  Node.deadline?_after (h.attends r n hn hr) (h.awaited r n hn) delay

theorem clock_refilled :
    (s.refilled r n).detector.timers.now = n.detector.timers.now ∧
      (s.refilled r n).detector.timers.delay = n.detector.timers.delay :=
  ⟨Node.now_after (h.attends r n hn hr) (h.awaited r n hn),
    Node.delay_after (h.attends r n hn hr) (h.awaited r n hn)⟩

end Refilled

section Settle

variable [DrawSource γ]
variable (h : s.InOrder) (hc : s.Carried) (lossless : s.network.rate.losing = 0)
include h hc lossless

/-- The three states of a node while everything settles. -/
theorem get?_settle (hn : s.nodes.get? r = some n) :
    s.passed.nodes.get? r = some (s.refilled r n) ∧
      s.passed.passed.nodes.get? r = some (s.passed.refilled r (s.refilled r n)) ∧
      s.settle.nodes.get? r =
        some (s.passed.passed.refilled r (s.passed.refilled r (s.refilled r n))) := by
  have first : s.passed.nodes.get? r = some (s.refilled r n) := by
    rw [get?_passed_of_lossless h lossless, hn]
    rfl
  have lossless₁ : s.passed.network.rate.losing = 0 := by rw [rate_passed h, lossless]
  have second : s.passed.passed.nodes.get? r = some (s.passed.refilled r (s.refilled r n)) := by
    rw [get?_passed_of_lossless h.passed lossless₁, first]
    rfl
  have lossless₂ : s.passed.passed.network.rate.losing = 0 := by
    rw [rate_passed h.passed, lossless₁]
  refine ⟨first, second, ?_⟩
  rw [settle_eq h hc, get?_passed_of_lossless h.passed.passed lossless₂, second]
  rfl

variable (ticked : s.JustTicked) (hr : r ∈ s.group) (hn : s.nodes.get? r = some n)
  (hm : s.settle.nodes.get? r = some m)
include ticked hr hn hm

/-- An instance suspects those whom it suspected or whose timer ran out, but nobody whose heartbeat
was due. -/
theorem mem_own_settle (hx : x ∈ s.group) :
    x ∈ m.detector.reportOf r ↔
      (x ∈ n.detector.reportOf r ∨ s.RanOut r (.receive x)) ∧ ¬ s.RanOut x (.send r) := by
  obtain ⟨get₁, get₂, get₃⟩ := get?_settle h hc lossless hn
  obtain rfl := Option.some.inj (hm.symm.trans get₃)
  have hr₁ : r ∈ s.passed.group := s.group_passed.symm ▸ hr
  have hr₂ : r ∈ s.passed.passed.group := s.passed.group_passed.symm ▸ hr₁
  have reports := mail_passed_of_no_beat h.passed (carried_passed h)
    fun r n hn e he p => mail_passed h r n hn e he (.send p)
  have beat : (∀ e ∈ (s.refilled r n).inbox.toList, e.content ≠ .iAmAlive x) ↔
      ¬ s.RanOut x (.send r) := by
    rw [← heartbeat_mem_sentTo h hc hx]
    simp only [not_exists, not_and]
    rfl
  rw [mem_own_refilled_mail h.passed.passed hr₂ get₂ (mail_passed h.passed),
    mem_own_refilled_mail h.passed hr₁ get₁ (mail_passed h), mem_own_refilled_due h hr hn ticked,
    beat]
  refine and_iff_left fun e he hx => ?_
  obtain ⟨t, ht⟩ := reports r _ get₂ e he
  rw [hx] at ht
  cases ht

/-- The timers that ran out run anew, and those for peers whose heartbeat was due. -/
theorem deadline?_settle {timing : HeartbeatTiming} (hk : k.peer ∈ s.group)
    (delay : n.detector.timers.delay = timing.delay) :
    (s.RanOut r k ∨ (∃ x, k = .receive x ∧ s.RanOut x (.send r)) →
      m.detector.timers.deadline? k =
        some (LogicalTimers.deadlineAfter n.detector.timers.now (timing.wait k))) ∧
    (¬ s.RanOut r k → (¬ ∃ x, k = .receive x ∧ s.RanOut x (.send r)) →
      m.detector.timers.deadline? k = n.detector.timers.deadline? k) := by
  obtain ⟨get₁, get₂, get₃⟩ := get?_settle h hc lossless hn
  obtain rfl := Option.some.inj (hm.symm.trans get₃)
  have hr₁ : r ∈ s.passed.group := s.group_passed.symm ▸ hr
  have hr₂ : r ∈ s.passed.passed.group := s.passed.group_passed.symm ▸ hr₁
  have reports := mail_passed_of_no_beat h.passed (carried_passed h)
    fun r n hn e he p => mail_passed h r n hn e he (.send p)
  obtain ⟨now₁, delay₁⟩ := clock_refilled h hr hn
  obtain ⟨now₂, delay₂⟩ := clock_refilled h.passed hr₁ get₁
  have first := exists_rearmed_iff_ranOut (k := k) hn ticked
  have second : (∃ e ∈ (s.refilled r n).inbox.toList, rearmed? e.content = some k) ↔
      ∃ x, k = .receive x ∧ s.RanOut x (.send r) := by
    rw [exists_rearmed_iff_heard get₁ (mail_passed h)]
    refine exists_congr fun x => and_congr_right fun key => ?_
    have hx : x ∈ s.group := by rwa [key] at hk
    exact heartbeat_mem_sentTo h hc hx
  have third : ¬ ∃ e ∈ (s.passed.refilled r (s.refilled r n)).inbox.toList,
      rearmed? e.content = some k := by
    rintro ⟨e, he, hx⟩
    obtain ⟨t, ht⟩ := reports r _ get₂ e he
    rw [ht] at hx
    cases hx
  rw [deadline?_refilled h.passed.passed hr₂ get₂ (delay₂.trans (delay₁.trans delay)),
    if_neg third, deadline?_refilled h.passed hr₁ get₁ (delay₁.trans delay),
    deadline?_refilled h hr hn delay, now₁]
  constructor
  · rintro (ran | beaten)
    · rw [if_pos (first.mpr ran), ite_self]
    · rw [if_pos (second.mpr beaten)]
  · intro ran beaten
    rw [if_neg (fun hc => beaten (second.mp hc)), if_neg (fun hc => ran (first.mp hc))]

end Settle

end Simulation
end Vigil
