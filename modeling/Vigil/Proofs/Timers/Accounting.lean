import Vigil.Proofs.Timers.Balance
import Vigil.Timers.Script

/-!
The exact account of timers on a logical clock. What a tick fires is what its expiry took out, so
the account of a run (`Balanced`) says when each timer fires; that a tick may find the pending
timers in any order does not matter, since no two of them are equal in deadline and number.

A strategy that chooses times freely is no exception. Messages of a type of one's own may say for
how long they wait (`Delay.perMessage`), so a run under such a strategy is a run of messages to
which the chosen times are attached. Likewise a receiver that asks the timers how they stand
before it answers makes in any one run the calls of a receiver that has them written down in its
state.
-/

namespace Vigil
namespace LogicalTimers

section Entries

variable {κ μ σ : Type} [DecidableEq κ] [HasKind μ] {receive : TimerReceiver σ κ μ}
  {t : LogicalTimers κ μ} {s : σ} {a : Armed κ μ} {cs : List (TimerCommand κ μ)}

theorem fired_record (t : LogicalTimers κ μ) (c : TimerCommand κ μ) :
    timersIn .fired (t.record c) = [] := by
  cases c <;> simp [record, TimerEntry.about?]

theorem fired_recordAll : timersIn .fired (t.recordAll cs) = [] := by
  induction cs generalizing t with
  | nil => rfl
  | cons c cs ih => rw [recordAll, timersIn_append, fired_record, ih]; rfl

theorem fired_recordHandOver : timersIn .fired (t.recordHandOver receive s a) = [a] := by
  have refused (r : Option Refusal) :
      timersIn .fired (r.toList.map TimerEntry.refused : List (TimerEntry κ μ)) = [] := by
    cases r <;> rfl
  simp only [recordHandOver, timersIn_cons, timersIn_append, fired_recordAll, refused]
  rfl

theorem fired_recordHandOverAll {due : List (Armed κ μ)} :
    timersIn .fired (t.recordHandOverAll receive s due) = due := by
  induction due generalizing t s with
  | nil => rfl
  | cons a due ih =>
      simp only [recordHandOverAll, timersIn_append, fired_recordHandOver, ih]
      rfl

theorem fired_recordTick (time : Nat) :
    timersIn .fired (t.recordTick receive s time) = (t.expire time).2 := by
  simp [recordTick, recordExpiry, fired_recordHandOverAll, TimerEntry.about?]

end Entries

section Order

variable {κ μ : Type} {t : LogicalTimers κ μ} {past : List (TimerEntry κ μ)}
  {due : List (Armed κ μ)} {time : Nat} {a b : Armed κ μ}

/-- Sooner by deadline, and at equal deadlines by the order of arming. -/
def Sooner (a b : Armed κ μ) : Prop :=
  a.deadline < b.deadline ∨ a.deadline = b.deadline ∧ a.seq < b.seq

theorem Balanced.sooner (h : Balanced past t due) (time : Nat) :
    (t.expire time).2.Pairwise Sooner :=
  orderBy_stable Armed.deadline (h.ordered.filter _)

/-- There is one way only to put the expired timers in the order of deadline and number, in whatever
order they are found. -/
theorem Balanced.sorted_eq (h : Balanced past t due) {l : List (Armed κ μ)}
    (found : l.Perm (t.pending.filter fun a => decide (a.deadline ≤ max t.now time)))
    (sorted : l.Pairwise fun a b => ¬ Sooner b a) : l = (t.expire time).2 := by
  have same : l.Perm (t.expire time).2 := found.trans (orderBy_perm _ _).symm
  have sooner := h.sooner time
  have distinct : (t.expire time).2.Pairwise fun a b => ¬ Sooner b a :=
    sooner.imp fun hab hba => by unfold Sooner at hab hba; omega
  refine same.eq_of_pairwise ?_ sorted distinct
  -- of two timers with different numbers one is sooner
  intro a b ha hb hba hab
  have pending {c : Armed κ μ} (hc : c ∈ (t.expire time).2) : c ∈ t.pending :=
    (mem_expired.mp hc).1
  have numbers : (t.pending.map Armed.seq).Nodup :=
    (List.pairwise_map.mpr h.ordered).imp Nat.ne_of_lt
  have number : a.seq = b.seq := by unfold Sooner at hba hab; omega
  exact List.inj_on_of_nodup_map numbers (pending (same.mem_iff.mp ha)) (pending hb) number

end Order

section Clock

variable {κ μ σ : Type} [DecidableEq κ] [HasKind μ] {receive : TimerReceiver σ κ μ}
  {t : LogicalTimers κ μ} {s : σ}

@[simp] theorem now_apply (t : LogicalTimers κ μ) (c : TimerCommand κ μ) :
    (t.apply c).1.now = t.now := by
  cases c <;> rfl

@[simp] theorem now_applyAll (t : LogicalTimers κ μ) (cs : List (TimerCommand κ μ)) :
    (t.applyAll cs).1.now = t.now := by
  induction cs generalizing t with
  | nil => rfl
  | cons c cs ih => simp [applyAll, ih]

@[simp] theorem now_handOver (t : LogicalTimers κ μ) (a : Armed κ μ) :
    (t.handOver receive s a).1.now = t.now :=
  now_applyAll t _

@[simp] theorem now_handOverAll (t : LogicalTimers κ μ) (due : List (Armed κ μ)) :
    (t.handOverAll receive s due).1.now = t.now := by
  induction due generalizing t s with
  | nil => rfl
  | cons a due ih => simp [handOverAll, ih]

theorem now_tick (time : Nat) : (t.tick receive s time).1.now = max t.now time :=
  now_handOverAll (t.expire time).1 _

theorem now_call (c : TimerCall σ κ μ) : t.now ≤ (t.call receive s c).1.now := by
  cases c with
  | command c => exact Nat.le_of_eq (now_apply t c).symm
  | tick time => exact now_tick (t := t) time ▸ Nat.le_max_left ..
  | receiver s => exact Nat.le_refl _

end Clock

section Receivers

variable {κ μ σ : Type} {receive receive' : TimerReceiver σ κ μ}

/-- Two receivers change in the same way and make the same calls; one may refuse, or not be there,
where the other accepts. -/
def Alike (receive receive' : TimerReceiver σ κ μ) : Prop :=
  ∀ s key message,
    (receive s key message).1 = (receive' s key message).1 ∧
      ((receive s key message).2.map TimerReply.commands).getD [] =
        ((receive' s key message).2.map TimerReply.commands).getD []

namespace Alike

variable [DecidableEq κ] [HasKind μ] {t : LogicalTimers κ μ} {s : σ}

theorem handOver (h : Alike receive receive') (a : Armed κ μ) :
    (t.handOver receive s a).1 = (t.handOver receive' s a).1 ∧
      (t.handOver receive s a).2.1 = (t.handOver receive' s a).2.1 := by
  obtain ⟨state, commands⟩ := h s a.key a.message
  exact ⟨congrArg (fun cs => (t.applyAll cs).1) commands, state⟩

theorem handOverAll (h : Alike receive receive') (due : List (Armed κ μ)) :
    (t.handOverAll receive s due).1 = (t.handOverAll receive' s due).1 ∧
      (t.handOverAll receive s due).2.1 = (t.handOverAll receive' s due).2.1 := by
  induction due generalizing t s with
  | nil => exact ⟨rfl, rfl⟩
  | cons a due ih =>
      obtain ⟨timers, state⟩ := h.handOver (t := t) (s := s) a
      simp only [LogicalTimers.handOverAll, timers, state]
      exact ih

theorem callAll (h : Alike receive receive') (cs : List (TimerCall σ κ μ)) :
    (t.callAll receive s cs).1 = (t.callAll receive' s cs).1 ∧
      (t.callAll receive s cs).2.1 = (t.callAll receive' s cs).2.1 := by
  induction cs generalizing t s with
  | nil => exact ⟨rfl, rfl⟩
  | cons c cs ih =>
      have next : (t.call receive s c).1 = (t.call receive' s c).1 ∧
          (t.call receive s c).2.1 = (t.call receive' s c).2.1 := by
        cases c with
        | command c | receiver s => exact ⟨rfl, rfl⟩
        | tick time => exact h.handOverAll _
      simp only [LogicalTimers.callAll, next.1, next.2]
      exact ih

end Alike
end Receivers

section Account

variable {κ μ σ : Type} [DecidableEq κ] [HasKind μ] {receive : TimerReceiver σ κ μ}
  {t : LogicalTimers κ μ} {s : σ} {calls before after : List (TimerCall σ κ μ)} {time : Nat}
  {past : List (TimerEntry κ μ)} {a : Armed κ μ}

theorem ledger_append :
    t.ledger receive s (before ++ after) =
      t.ledger receive s before ++
        (t.callAll receive s before).1.ledger receive (t.callAll receive s before).2.1 after := by
  induction before generalizing t s with
  | nil => rfl
  | cons c before ih => simp only [List.cons_append, ledger, callAll, ih, List.append_assoc]

omit [DecidableEq κ] [HasKind μ] in
theorem Balanced.not_pending_of_fired (h : Balanced past t []) (ha : a ∈ timersIn .fired past) :
    a ∉ t.pending := by
  have nodup := h.atRest.nodup_iff.mp h.nodup
  rw [List.append_assoc, List.append_assoc, List.nodup_append] at nodup
  intro pending
  exact nodup.2.2 a pending a (by simp [ha]) rfl

/-- The account of timers at rest, of the next tick and of every moment in the middle of it. -/
structure Exact (receive : TimerReceiver σ κ μ) (past : List (TimerEntry κ μ))
    (t : LogicalTimers κ μ) (s : σ) : Prop where
  /-- Every request to set a timer has armed one, and no timer is armed twice. -/
  requested : past.filterMap TimerEntry.request? =
    (timersIn .armed past).map fun a => (a.key, a.message)
  nodup : (timersIn .armed past).Nodup
  /-- A timer that was armed is pending or has been replaced, cancelled or fired: one of these, and
  once. -/
  settled : (timersIn .armed past).Perm (t.pending ++ timersIn .replaced past ++
    timersIn .cancelled past ++ timersIn .fired past)
  /-- The same while the receiver of one timer's message makes its calls, after the timers in
  `first` and before those in `rest`, which the tick has taken out too. -/
  meanwhile : ∀ time first a rest cs cs', (t.expire time).2 = first ++ a :: rest →
    let u := (t.expire time).1.handOverAll receive s first
    let reply := (receive u.2.1 a.key a.message).2
    (reply.map TimerReply.commands).getD [] = cs ++ cs' →
      Balanced (past ++ (t.recordExpiry time ++
          (t.expire time).1.recordHandOverAll receive s first ++
          .fired u.1.now a reply.isSome :: u.1.recordAll cs))
        (u.1.applyAll cs).1 rest
  /-- A tick fires a timer if it is pending at its expiry and its deadline has come then. -/
  fires : ∀ time a, a ∈ timersIn .fired (t.recordTick receive s time) ↔
    a ∈ t.pending ∧ a.deadline ≤ max t.now time
  sooner : ∀ time, (timersIn .fired (t.recordTick receive s time)).Pairwise Sooner
  /-- Whatever the order in which a tick finds the timers, sorting makes it the order in which they
  fire. -/
  scan : ∀ time (l : List (Armed κ μ)),
    l.Perm (t.pending.filter fun a => decide (a.deadline ≤ max t.now time)) →
      l.Pairwise (fun a b => ¬ Sooner b a) →
        timersIn .fired (t.recordTick receive s time) = l
  /-- A timer that is set during a tick does not fire in it. -/
  later : ∀ time, (timersIn .armed (t.recordTick receive s time)).Disjoint
    (timersIn .fired (t.recordTick receive s time))
  clock : ∀ c, t.now ≤ (t.call receive s c).1.now
  clamped : ∀ time, (t.tick receive s time).1.now = max t.now time

theorem Course.meanwhile {delay : Delay} (h : Course delay past t [])
    {first rest : List (Armed κ μ)} (due : (t.expire time).2 = first ++ a :: rest)
    (claimed : Bool) (cs : List (TimerCommand κ μ)) :
    let u := (t.expire time).1.handOverAll receive s first
    Course delay (past ++ (t.recordExpiry time ++
        (t.expire time).1.recordHandOverAll receive s first ++
        .fired u.1.now a claimed :: u.1.recordAll cs))
      (u.1.applyAll cs).1 rest := by
  have expired := h.expire time
  rw [due] at expired
  simpa using ((expired.recordHandOverAll receive s).fire claimed).recordAll cs

theorem Course.exact {delay : Delay} (h : Course delay past t []) (s : σ) :
    Exact receive past t s where
  requested := h.balanced.requested
  nodup := h.balanced.nodup
  settled := h.balanced.atRest
  meanwhile _ _ _ _ _ _ due _ := (h.meanwhile due _ _).balanced
  fires time a := by rw [fired_recordTick, mem_expired]
  sooner time := by
    rw [fired_recordTick]
    exact h.balanced.sooner time
  scan time l found sorted := by rw [fired_recordTick, h.balanced.sorted_eq found sorted]
  later time := by
    intro a armed fired
    rw [fired_recordTick] at fired
    have earlier : a ∈ timersIn .armed past :=
      h.balanced.settled.mem_iff.mpr (by simp [(mem_expired.mp fired).1])
    have nodup := (h.recordTick receive s time).balanced.nodup
    rw [timersIn_append, List.nodup_append] at nodup
    exact nodup.2.2 a earlier a armed rfl
  clock := now_call
  clamped := now_tick

/-- Every run of calls is exactly accounted for, and its events are those of the account. A pending
timer has been found by no tick whose time had come to its deadline, and the timers are the same
whether or not the receiver refuses messages. -/
theorem exactly_accounted (delay : Delay) (receive : TimerReceiver σ κ μ) (s : σ)
    (calls : List (TimerCall σ κ μ)) :
    let run := fun cs => (start delay).callAll receive s cs
    let ledger := (start delay).ledger receive s calls
    (run calls).2.2 = ledger.flatMap TimerEntry.events ∧
      Exact receive ledger (run calls).1 (run calls).2.1 ∧
      (∀ before time after, calls = before ++ .tick time :: after →
        ∀ a ∈ (run before).1.pending, a ∈ (run calls).1.pending →
          max (run before).1.now time < a.deadline) ∧
      ∀ receive', Alike receive receive' →
        ((start delay).callAll receive' s calls).1 = (run calls).1 := by
  have course := course_ledger receive delay s calls
  refine ⟨events_callAll _ _ _, course.exact _, ?_, fun receive' h => (h.callAll calls).1.symm⟩
  rintro before time after rfl a earlier pending
  by_contra early
  rw [Nat.not_lt] at early
  refine course.balanced.not_pending_of_fired ?_ pending
  rw [ledger_append, ledger, entries, timersIn_append, timersIn_append, fired_recordTick]
  simp [mem_expired, earlier, early]

end Account

/-- Two timers of which one is set twice, and a third that waits longer; when the first one fires,
the receiver cancels the third, sets the first again and refuses the message. -/
def busyDay : List (TimerCall (Option Script) String Note) :=
  .receiver (some ⟨.ofList [("first", [.cancel "c", .again, .refuse .closed])], 9⟩) ::
    ([⟨"a", "first", ""⟩, ⟨"c", "late", ""⟩, ⟨"b", "second", ""⟩, ⟨"a", "first", ""⟩].map
      fun m : Note => .command (.set m.key m)) ++ [.tick 100]

theorem busyDay_accounted :
    let delay := Delay.perKind (.ofMillis 100) (.ofList [("late", .ofMillis 500)])
    let run := (start delay).callAll Script.receive none busyDay
    let ledger := (start delay).ledger Script.receive none busyDay
    Exact Script.receive ledger run.1 run.2.1 ∧
      (timersIn .replaced ledger).map Armed.seq = [0] ∧
      (timersIn .fired ledger).map Armed.seq = [2, 3] ∧
      (timersIn .cancelled ledger).map Armed.seq = [1] ∧
      run.1.pending.map Armed.seq = [4] :=
  ⟨(exactly_accounted _ Script.receive none busyDay).2.1, by decide +kernel⟩

end LogicalTimers
end Vigil
