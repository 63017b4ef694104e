import Vigil.Proofs.Timers.Sleepers

/-!
Timers on the logical clock and timers that sleep do the same. Used alike, with a receiver that
leaves them alone and times in whole milliseconds, both have the same timers pending after every use
(`RealTimers.table`) and tell the same of every use, in some order. Of sleepers that are due at one
time any may wake up first (`RealTimers.Lapses`); the order that `RealTimers.pass` chooses is one of
them.
-/

namespace Vigil

inductive TimerUse (κ μ : Type) where
  | command (c : TimerCommand κ μ)
  | advance (ms : Nat)
  deriving DecidableEq, Repr

/-- A call of an observer or of the receiver, whenever it comes. -/
inductive TimerNotice (κ μ : Type) where
  | triggered (key : κ) (message : μ)
  | delivered (key : κ) (message : μ)
  | cancelled (key : κ) (message : μ)
  deriving DecidableEq, Repr

section Notices

variable {κ μ σ : Type}

def TimerEvent.notice? : TimerEvent κ μ → Option (TimerNotice κ μ)
  | triggered _ key message => some (.triggered key message)
  | delivered _ key message => some (.delivered key message)
  | cancelled _ key message => some (.cancelled key message)
  | ticked _ _ | warned _ => none

def notices (es : List (TimerEvent κ μ)) : List (TimerNotice κ μ) := es.filterMap TimerEvent.notice?

@[simp] theorem notices_append (es es' : List (TimerEvent κ μ)) :
    notices (es ++ es') = notices es ++ notices es' :=
  List.filterMap_append

def Armed.firing (a : Armed κ μ) : List (TimerNotice κ μ) :=
  [.triggered a.key a.message, .delivered a.key a.message]

/-- There is a receiver, and it does not touch the timers. -/
def LeavesAlone (receive : TimerReceiver σ κ μ) : Prop :=
  ∀ s key message, ∃ refusal, (receive s key message).2 = some ⟨[], refusal⟩

theorem notices_handover (now : Nat) (a : Armed κ μ) (refusal : Option Refusal) :
    let events := TimerEvent.handover now a.key a.message (some ⟨[], refusal⟩)
    notices (events.1 ++ events.2) = a.firing := by
  cases refusal <;> rfl

end Notices

/-! ### The logical clock -/

namespace LogicalTimers

variable {κ μ σ : Type} {t : LogicalTimers κ μ}

/-- No timer is due. -/
def Ahead (t : LogicalTimers κ μ) : Prop := ∀ a ∈ t.pending, t.now < a.deadline

theorem Ahead.expire (t : LogicalTimers κ μ) (time : Nat) : (t.expire time).1.Ahead := by
  intro a ha
  have later := (List.mem_filter.mp ha).2
  simpa [LogicalTimers.expire] using later

theorem Ahead.expire_now (h : t.Ahead) : t.expire t.now = (t, []) := by
  have kept : t.pending.filter (fun a => !decide (a.deadline ≤ t.now)) = t.pending :=
    List.filter_eq_self.mpr fun a ha => by simpa using h a ha
  have none_due : t.pending.filter (fun a => decide (a.deadline ≤ t.now)) = [] :=
    List.filter_eq_nil_iff.mpr fun a ha => by simpa using h a ha
  simp only [LogicalTimers.expire, Nat.max_self, kept, none_due]
  rfl

variable [DecidableEq κ] [HasKind μ] {receive : TimerReceiver σ κ μ} {s : σ}

def use (receive : TimerReceiver σ κ μ) (t : LogicalTimers κ μ) (s : σ) :
    TimerUse κ μ → LogicalTimers κ μ × σ × List (TimerEvent κ μ)
  | .command c => let (t, es) := t.apply c; (t, s, es)
  | .advance ms => t.tick receive s (t.now + ms)

/-- Use timers several times; the answer has the timers after each use, and its events. -/
def useAll (receive : TimerReceiver σ κ μ) (t : LogicalTimers κ μ) (s : σ) :
    List (TimerUse κ μ) → List (LogicalTimers κ μ × List (TimerEvent κ μ))
  | [] => []
  | u :: us =>
    let (t, s, es) := t.use receive s u
    (t, es) :: t.useAll receive s us

theorem handOverAll_alone (alone : LeavesAlone receive) (due : List (Armed κ μ)) :
    (t.handOverAll receive s due).1 = t ∧
      notices (t.handOverAll receive s due).2.2 = due.flatMap Armed.firing := by
  induction due generalizing s with
  | nil => exact ⟨rfl, rfl⟩
  | cons a due ih =>
      obtain ⟨refusal, reply⟩ := alone s a.key a.message
      have first : t.handOver receive s a = (t, (receive s a.key a.message).1,
          (TimerEvent.handover t.now a.key a.message (some ⟨[], refusal⟩)).1 ++
            (TimerEvent.handover t.now a.key a.message (some ⟨[], refusal⟩)).2) := by
        simp [handOver, reply, applyAll]
      simp only [handOverAll, first]
      obtain ⟨same, told⟩ := ih (s := (receive s a.key a.message).1)
      refine ⟨same, ?_⟩
      rw [notices_append, notices_handover, told, List.flatMap_cons]

theorem tick_alone (alone : LeavesAlone receive) (time : Nat) :
    (t.tick receive s time).1 = (t.expire time).1 ∧
      notices (t.tick receive s time).2.2 = (t.expire time).2.flatMap Armed.firing :=
  handOverAll_alone (t := (t.expire time).1) (s := s) alone (t.expire time).2

omit [HasKind μ] in
/-- Time that passes in two parts, the first of which takes out one timer that is due. -/
theorem Distinct.expire_without (h : t.Distinct) {a : Armed κ μ} (ha : a ∈ t.pending) {time : Nat}
    (due : a.deadline ≤ time) :
    let rest := { t.without a.key with now := max t.now a.deadline }
    (rest.expire time).1 = (t.expire time).1 ∧
      (t.expire time).2.Perm (a :: (rest.expire time).2) := by
  have clock : max (max t.now a.deadline) time = max t.now time := by omega
  have found := h.find?_eq_some ha
  constructor
  · have kept : (t.without a.key).pending.filter (fun b => !decide (b.deadline ≤ max t.now time)) =
        t.pending.filter (fun b => !decide (b.deadline ≤ max t.now time)) := by
      simp only [LogicalTimers.without, List.filter_filter]
      refine List.filter_congr fun b hb => ?_
      by_cases key : b.key = a.key
      · have same : b = a := by simpa [key, found] using (h.find?_eq_some hb).symm
        have late : a.deadline ≤ max t.now time := Nat.le_trans due (Nat.le_max_right _ _)
        simp [same, late]
      · simp [key]
    simp only [LogicalTimers.expire, clock, kept]
    rfl
  · have taken := (h.perm_without a.key).filter fun b => decide (b.deadline ≤ max t.now time)
    have late : a.deadline ≤ max t.now time := Nat.le_trans due (Nat.le_max_right _ _)
    rw [found, List.filter_append] at taken
    simp only [Option.toList_some, List.filter_singleton, late, decide_true, cond_true] at taken
    refine (orderBy_perm _ _).trans (taken.trans ?_)
    refine (List.perm_append_singleton _ _).trans (.cons _ ?_)
    simp only [LogicalTimers.expire, clock]
    exact (orderBy_perm _ _).symm

end LogicalTimers

/-! ### Sleepers -/

namespace RealTimers

open LogicalTimers (lastInstant deadlineAfter deadlineAfter_ofMillis)

section Lapses

variable {κ μ σ : Type} [DecidableEq κ] [HasKind μ]

/-- The sleeper wakes up when its time has come. -/
def awake (receive : TimerReceiver σ κ μ) (t : RealTimers κ μ) (s : σ) (a : Sleeper κ μ) :
    RealTimers κ μ × σ × List (TimerEvent κ μ) :=
  { t with now := max t.now a.wake }.wakeUp receive s a.key a.number

/-- What may happen while time passes: one after the other the sleepers that are due wake up, each
at its time, and of those with the same time any of them first. -/
inductive Lapses (receive : TimerReceiver σ κ μ) (time : Nat) :
    RealTimers κ μ → σ → RealTimers κ μ × σ × List (TimerEvent κ μ) → Prop
  | rest {t s} : (∀ a ∈ t.sleeping, time < a.wake) →
      Lapses receive time t s ({ t with now := max t.now time }, s, [])
  | wake {t s r} (a : Sleeper κ μ) : a ∈ t.sleeping → a.wake ≤ time →
      (∀ b ∈ t.sleeping, a.wake ≤ b.wake) →
        Lapses receive time (t.awake receive s a).1 (t.awake receive s a).2.1 r →
          Lapses receive time t s (r.1, r.2.1, (t.awake receive s a).2.2 ++ r.2.2)

/-- After a command, too, whoever is due by then wakes up. -/
inductive Uses (receive : TimerReceiver σ κ μ) (t : RealTimers κ μ) (s : σ) :
    TimerUse κ μ → RealTimers κ μ × σ × List (TimerEvent κ μ) → Prop
  | command {c r} : Lapses receive t.now (t.apply c).1 s r →
      Uses receive t s (.command c) (r.1, r.2.1, (t.apply c).2 ++ r.2.2)
  | advance {ms r} : Lapses receive (t.now + ms) t s r → Uses receive t s (.advance ms) r

inductive UsesAll (receive : TimerReceiver σ κ μ) : RealTimers κ μ → σ → List (TimerUse κ μ) →
    List (RealTimers κ μ × List (TimerEvent κ μ)) → Prop
  | nil {t s} : UsesAll receive t s [] []
  | cons {t s u us r rs} : Uses receive t s u r → UsesAll receive r.1 r.2.1 us rs →
      UsesAll receive t s (u :: us) ((r.1, r.2.2) :: rs)

def use (receive : TimerReceiver σ κ μ) (budget : Nat) (t : RealTimers κ μ) (s : σ) :
    TimerUse κ μ → RealTimers κ μ × σ × List (TimerEvent κ μ)
  | .command c =>
    let (u, es) := t.apply c
    let (u, s, es') := u.pass receive budget s t.now
    (u, s, es ++ es')
  | .advance ms => t.pass receive budget s (t.now + ms)

def useAll (receive : TimerReceiver σ κ μ) (budget : Nat) (t : RealTimers κ μ) (s : σ) :
    List (TimerUse κ μ) → List (RealTimers κ μ × List (TimerEvent κ μ))
  | [] => []
  | u :: us =>
    let (t, s, es) := t.use receive budget s u
    (t, es) :: t.useAll receive budget s us

/-- From `now` on every timer that is set waits for whole milliseconds, at least for one and no
longer than the longest sleep, and no time is beyond the last instant. -/
def Suits (delay : Delay) : Nat → List (TimerUse κ μ) → Prop
  | _, [] => True
  | now, .command (.set _ message) :: us =>
    (∃ ms, delay.of message = .ofMillis ms ∧ 1 ≤ ms ∧ ms ≤ longestSleep ∧ now + ms ≤ lastInstant) ∧
      Suits delay now us
  | now, .command _ :: us => Suits delay now us
  | now, .advance ms :: us => now + ms ≤ lastInstant ∧ Suits delay (now + ms) us

/-- After a use of either sort the time is the same and the same timers are pending, with the same
messages and deadlines; what the use told is the same, in some order. -/
structure Concord (x : RealTimers κ μ × List (TimerEvent κ μ))
    (y : LogicalTimers κ μ × List (TimerEvent κ μ)) : Prop where
  same : x.1.table = y.1
  told : (notices x.2).Perm (notices y.2)

end Lapses

variable {κ μ σ : Type} {l : List (Sleeper κ μ)} {a : Sleeper κ μ} {time : Nat}

theorem firstDue?_eq_none : firstDue? time l = none ↔ ∀ a ∈ l, time < a.wake := by
  induction l with
  | nil => simp [firstDue?]
  | cons a l ih =>
      rw [List.forall_mem_cons, ← ih]
      cases rest : firstDue? time l with
      | none => simp [firstDue?, rest]
      | some b => by_cases earlier : a.wake ≤ b.wake <;> simp [firstDue?, rest, earlier]

theorem of_firstDue? (h : firstDue? time l = some a) :
    a ∈ l ∧ a.wake ≤ time ∧ ∀ b ∈ l, a.wake ≤ b.wake := by
  induction l generalizing a with
  | nil => exact absurd h (by simp [firstDue?])
  | cons c l ih =>
      unfold firstDue? at h
      cases rest : firstDue? time l with
      | none =>
          have later := firstDue?_eq_none.mp rest
          simp only [rest, Option.ite_none_right_eq_some, Option.some.injEq] at h
          obtain ⟨due, rfl⟩ := h
          refine ⟨List.mem_cons_self, due, List.forall_mem_cons.mpr ⟨Nat.le_refl _, ?_⟩⟩
          exact fun b hb => Nat.le_of_lt (Nat.lt_of_le_of_lt due (later b hb))
      | some b =>
          obtain ⟨hb, due, first⟩ := ih rest
          simp only [rest] at h
          split at h
          case isTrue earlier =>
            cases h
            refine ⟨List.mem_cons_self, Nat.le_trans earlier due, ?_⟩
            refine List.forall_mem_cons.mpr ⟨Nat.le_refl _, fun d hd => ?_⟩
            exact Nat.le_trans earlier (first d hd)
          case isFalse later =>
            cases h
            refine ⟨List.mem_cons_of_mem c hb, due, ?_⟩
            exact List.forall_mem_cons.mpr ⟨Nat.le_of_not_le later, first⟩

variable [DecidableEq κ] [HasKind μ] {receive : TimerReceiver σ κ μ} {t : RealTimers κ μ} {s : σ}

omit [HasKind μ] in
theorem find?_eq_some (distinct : t.table.Distinct) (ha : a ∈ t.sleeping) :
    t.find? a.key = some a := by
  have found : t.table.find? a.key = some a.timer :=
    distinct.find?_eq_some (List.mem_map_of_mem ha)
  rw [find?_table, Option.map_eq_some_iff] at found
  obtain ⟨b, found, same⟩ := found
  obtain ⟨key, message, wake, number⟩ := a
  obtain ⟨key', message', wake', number'⟩ := b
  cases same
  exact found

theorem awake_alone (alone : LeavesAlone receive) (distinct : t.table.Distinct)
    (ha : a ∈ t.sleeping) :
    (t.awake receive s a).1 = { t.without a.key with now := max t.now a.wake } ∧
      notices (t.awake receive s a).2.2 = a.timer.firing := by
  obtain ⟨refusal, reply⟩ := alone s a.key a.message
  have found : { t with now := max t.now a.wake }.find? a.key = some a := find?_eq_some distinct ha
  simp only [awake, wakeUp, fire, found, if_true, reply]
  refine ⟨rfl, ?_⟩
  have silent : ∀ u : RealTimers κ μ, (u.applyAll []).2 = [] := fun _ => rfl
  rw [Option.map_some, Option.getD_some, silent, List.append_nil]
  exact notices_handover (max t.now a.wake) a.timer refusal

theorem Lapses.outcome (alone : LeavesAlone receive)
    {r : RealTimers κ μ × σ × List (TimerEvent κ μ)} (h : Lapses receive time t s r)
    (distinct : t.table.Distinct) (past : t.now ≤ time) :
    r.1.table = (t.table.expire time).1 ∧
      (notices r.2.2).Perm ((t.table.expire time).2.flatMap Armed.firing) := by
  induction h with
  | @rest t s later =>
      -- the clock shows the time and nobody is due by then
      have ahead : ({ t.table with now := time } : LogicalTimers κ μ).Ahead := by
        rintro _ hb
        obtain ⟨b, pending, rfl⟩ := List.mem_map.mp hb
        exact later b pending
      have clock : max t.now time = time := Nat.max_eq_right past
      have still : t.table.expire time = ({ t.table with now := time }, []) := by
        rw [← ahead.expire_now]
        simp [LogicalTimers.expire, table, clock]
      rw [still, clock]
      exact ⟨rfl, .nil⟩
  | @wake t s r a ha due first _ ih =>
      obtain ⟨taken, told⟩ := awake_alone (s := s) alone distinct ha
      -- as timers, the others are left with the clock at the time of the one that fired
      have left : (t.awake receive s a).1.table =
          { t.table.without a.timer.key with now := max t.table.now a.timer.deadline } := by
        rw [taken]
        exact congrArg (fun u => { u with now := max t.now a.wake }) (table_without t a.key)
      have late : a.timer.deadline ≤ time := due
      obtain ⟨same, fired⟩ := distinct.expire_without (List.mem_map_of_mem ha) late
      have smaller : (t.awake receive s a).1.now ≤ time := by
        rw [taken]
        exact Nat.max_le.mpr ⟨past, due⟩
      obtain ⟨ends, tells⟩ := ih (left ▸ distinct.without _) smaller
      rw [left] at ends tells
      refine ⟨ends.trans same, ?_⟩
      rw [notices_append, told]
      exact (tells.append_left _).trans (fired.flatMap_right _).symm

/-- With as many wakings as there are sleepers nobody who is due sleeps on. -/
theorem lapses_passWithin (alone : LeavesAlone receive) {fuel : Nat} (enough : t.count ≤ fuel)
    (distinct : t.table.Distinct) :
    Lapses receive time t s (passWithin receive time fuel t s) := by
  induction fuel generalizing t s with
  | zero =>
      have nobody : t.sleeping = [] := List.length_eq_zero_iff.mp (Nat.le_zero.mp enough)
      exact .rest (by simp [nobody])
  | succ fuel ih =>
      unfold passWithin
      cases due : firstDue? time t.sleeping with
      | none => exact .rest (firstDue?_eq_none.mp due)
      | some a =>
          obtain ⟨ha, late, first⟩ := of_firstDue? due
          obtain ⟨taken, -⟩ := awake_alone (s := s) alone distinct ha
          have fewer : (t.awake receive s a).1.count ≤ fuel := by
            have shorter : (t.without a.key).count < t.count :=
              List.length_filter_lt_length_iff_exists.mpr ⟨a, ha, by simp⟩
            rw [taken]
            exact Nat.le_of_lt_succ (Nat.lt_of_lt_of_le shorter enough)
          have kept : (t.awake receive s a).1.table.Distinct := by
            have without := distinct.without a.key
            rw [← table_without] at without
            rw [taken]
            exact without
          exact .wake a ha late first (ih fewer kept)

/-! ### Alike -/

theorem events_apply_table (t : RealTimers κ μ) (c : TimerCommand κ μ) :
    (t.apply c).2 = (t.table.apply c).2 := by
  cases c with
  | set k m => rfl
  | cancel k => exact (t.events_apply _).trans (t.table.events_apply (.cancel k)).symm
  | cancelAll => exact (t.events_apply _).trans (t.table.events_apply .cancelAll).symm

theorem Suits.table_apply {c : TimerCommand κ μ} {us : List (TimerUse κ μ)}
    (h : Suits t.delay t.now (.command c :: us)) : (t.apply c).1.table = (t.table.apply c).1 := by
  cases c with
  | set k m =>
      obtain ⟨⟨ms, wait, -, short, inside⟩, -⟩ := h
      have deadline : (t.sleeperFor k m).timer = t.table.armedBy k m := by
        have sleep : t.now + min ms longestSleep = t.now + ms := by rw [Nat.min_eq_left short]
        simp only [sleeperFor, Sleeper.timer, LogicalTimers.armedBy, table, wait,
          deadlineAfter_ofMillis inside, Duration.toMillisUp_ofMillis, sleep]
      exact (t.table_set k m).trans (congrArg t.table.arm deadline)
  | cancel k => exact t.table_without k
  | cancelAll => rfl

omit [DecidableEq κ] in
theorem Suits.tail {c : TimerCommand κ μ} {us : List (TimerUse κ μ)}
    (h : Suits t.delay t.now (.command c :: us)) : Suits t.delay t.now us := by
  cases c with
  | set k m => exact h.2
  | cancel k => exact h
  | cancelAll => exact h

theorem Suits.ahead_apply {c : TimerCommand κ μ} {us : List (TimerUse κ μ)}
    (h : Suits t.delay t.now (.command c :: us)) (ahead : t.table.Ahead) :
    (t.table.apply c).1.Ahead := by
  cases c with
  | set k m =>
      obtain ⟨⟨ms, wait, positive, -, inside⟩, -⟩ := h
      intro a ha
      rcases LogicalTimers.mem_pending_set ha with old | rfl
      · exact ahead a old
      · have deadline : deadlineAfter t.now (t.delay.of m) = t.now + ms := by
          rw [wait, deadlineAfter_ofMillis inside]
        exact Nat.lt_of_lt_of_eq (Nat.lt_add_of_pos_right positive) deadline.symm
  | cancel k => exact fun a ha => ahead a (List.mem_filter.mp ha).1
  | cancelAll => exact fun a ha => absurd ha List.not_mem_nil

theorem distinct_apply (distinct : t.table.Distinct) (c : TimerCommand κ μ) :
    (t.apply c).1.table.Distinct := by
  cases c with
  | set k m => exact t.table_set k m ▸ distinct.arm _
  | cancel k => exact t.table_without k ▸ distinct.without k
  | cancelAll => exact List.nodup_nil

theorem delay_apply (t : RealTimers κ μ) (c : TimerCommand κ μ) :
    (t.apply c).1.delay = t.delay := by
  cases c <;> rfl

theorem now_apply (t : RealTimers κ μ) (c : TimerCommand κ μ) : (t.apply c).1.now = t.now := by
  cases c <;> rfl

variable {u : TimerUse κ μ} {us : List (TimerUse κ μ)}

theorem uses_use (alone : LeavesAlone receive) (budget : Nat) (distinct : t.table.Distinct) :
    Uses receive t s u (t.use receive budget s u) := by
  cases u with
  | command c =>
      exact .command (lapses_passWithin alone (Nat.le_add_right _ _) (distinct_apply distinct c))
  | advance ms => exact .advance (lapses_passWithin alone (Nat.le_add_right _ _) distinct)

theorem Uses.distinct {r : RealTimers κ μ × σ × List (TimerEvent κ μ)}
    (alone : LeavesAlone receive) (h : Uses receive t s u r) (distinct : t.table.Distinct) :
    r.1.table.Distinct := by
  cases h with
  | @command c r lapses =>
      have armed := distinct_apply distinct c
      rw [(lapses.outcome alone armed (Nat.le_of_eq (t.now_apply c))).1]
      exact armed.expire _
  | advance lapses =>
      rw [(lapses.outcome alone distinct (Nat.le_add_right _ _)).1]
      exact distinct.expire _

/-- One use of sleepers, of which none is due, against the same use of timers. -/
theorem Uses.concord {r : RealTimers κ μ × σ × List (TimerEvent κ μ)} (s' : σ)
    (alone : LeavesAlone receive) (h : Uses receive t s u r) (distinct : t.table.Distinct)
    (ahead : t.table.Ahead) (suits : Suits t.delay t.now (u :: us)) :
    Concord (r.1, r.2.2) ((t.table.use receive s' u).1, (t.table.use receive s' u).2.2) ∧
      r.1.table.Ahead ∧ Suits r.1.delay r.1.now us := by
  cases h with
  | @command c r lapses =>
      have clock := t.now_apply c
      obtain ⟨ends, tells⟩ := lapses.outcome alone (distinct_apply distinct c) (Nat.le_of_eq clock)
      -- nobody is due after the command
      have next : (t.apply c).1.table.Ahead := suits.table_apply ▸ suits.ahead_apply ahead
      have still := next.expire_now
      rw [show (t.apply c).1.table.now = t.now from clock] at still
      rw [still] at ends tells
      have silent : notices r.2.2 = [] := tells.eq_nil
      have delay : r.1.delay = t.delay :=
        (congrArg LogicalTimers.delay ends).trans (t.delay_apply c)
      have now : r.1.now = t.now := (congrArg LogicalTimers.now ends).trans clock
      refine ⟨⟨ends.trans suits.table_apply, ?_⟩, ends ▸ next, ?_⟩
      · rw [notices_append, silent, List.append_nil, events_apply_table]
        exact .refl _
      · rw [delay, now]
        exact suits.tail
  | @advance ms r lapses =>
      obtain ⟨ends, tells⟩ := lapses.outcome alone distinct (Nat.le_add_right _ _)
      obtain ⟨ticks, told⟩ := t.table.tick_alone (s := s') alone (t.now + ms)
      have delay : r.1.delay = t.delay := congrArg LogicalTimers.delay ends
      have now : r.1.now = t.now + ms :=
        (congrArg LogicalTimers.now ends).trans (Nat.max_eq_right (Nat.le_add_right _ _))
      refine ⟨⟨ends.trans ticks.symm, told ▸ tells⟩, ends ▸ .expire _ _, ?_⟩
      rw [delay, now]
      exact suits.2

theorem usesAll_useAll (alone : LeavesAlone receive) (budget : Nat) (distinct : t.table.Distinct)
    (us : List (TimerUse κ μ)) :
    UsesAll receive t s us (t.useAll receive budget s us) := by
  induction us generalizing t s with
  | nil => exact .nil
  | cons u us ih =>
      have first := uses_use (s := s) (u := u) alone budget distinct
      exact .cons first (ih (first.distinct alone distinct))

theorem UsesAll.concord {rs : List (RealTimers κ μ × List (TimerEvent κ μ))} (s' : σ)
    (alone : LeavesAlone receive) (h : UsesAll receive t s us rs) (distinct : t.table.Distinct)
    (ahead : t.table.Ahead) (suits : Suits t.delay t.now us) :
    List.Forall₂ Concord rs (t.table.useAll receive s' us) := by
  induction h generalizing s' with
  | nil => exact .nil
  | @cons t s u us r rs first _ ih =>
      obtain ⟨alike, later, fit⟩ := first.concord s' alone distinct ahead suits
      refine .cons alike ?_
      have rest := ih (t.table.use receive s' u).2.1 (first.distinct alone distinct) later fit
      rwa [alike.same] at rest

/-- Timers of either sort, used alike from the start with a receiver that leaves them alone, stay
the same after every use. This holds whatever order sleepers that are due at the same time wake up
in, and there is always an order. -/
theorem agree_with_logical_clock (delay : Delay) {receive : TimerReceiver σ κ μ}
    (alone : LeavesAlone receive) (s s' : σ) {uses : List (TimerUse κ μ)}
    (suits : Suits delay 0 uses) :
    (∀ budget, UsesAll receive (start delay) s uses ((start delay).useAll receive budget s uses)) ∧
      ∀ rs, UsesAll receive (start delay) s uses rs →
        List.Forall₂ Concord rs ((LogicalTimers.start delay).useAll receive s' uses) := by
  have distinct : (start delay : RealTimers κ μ).table.Distinct := List.nodup_nil
  have ahead : (start delay : RealTimers κ μ).table.Ahead := fun _ ha => absurd ha List.not_mem_nil
  exact ⟨fun budget => usesAll_useAll alone budget distinct uses,
    fun _ run => run.concord s' alone distinct ahead suits⟩

/-- Takes every second message and refuses the others. -/
def everySecond : TimerReceiver Nat String Note :=
  fun taken _ _ => (taken + 1, some ⟨[], if taken % 2 = 0 then none else some .closed⟩)

/-- Two timers are due at one time, another has been replaced and a fourth is cancelled. -/
def sharedHour : List (TimerUse String Note) :=
  ([⟨"a", "short", "1"⟩, ⟨"b", "long", "2"⟩, ⟨"c", "short", "3"⟩, ⟨"d", "long", "4"⟩].map
    fun m : Note => .command (.set m.key m)) ++
  [.advance 20, .command (.set "a" ⟨"a", "long", "5"⟩), .command (.cancel "d"), .advance 80,
    .advance 0, .command (.set "b" ⟨"b", "short", "6"⟩), .command .cancelAll]

theorem sharedHour_agrees :
    let delay := Delay.perKind (.ofMillis 100) (.ofList [("short", .ofMillis 30)])
    (LeavesAlone everySecond ∧ Suits delay 0 sharedHour) ∧
      (∀ budget, UsesAll everySecond (start delay) 0 sharedHour
        ((start delay).useAll everySecond budget 0 sharedHour)) ∧
      ∀ rs, UsesAll everySecond (start delay) 0 sharedHour rs → List.Forall₂ Concord rs
        ((LogicalTimers.start delay).useAll everySecond 1 sharedHour) := by
  intro delay
  have alone : LeavesAlone everySecond := fun _ _ _ => ⟨_, rfl⟩
  have short : ∀ key text, delay.of (⟨key, "short", text⟩ : Note) = .ofMillis 30 :=
    fun _ _ => by rfl
  have long : ∀ key text, delay.of (⟨key, "long", text⟩ : Note) = .ofMillis 100 :=
    fun _ _ => by rfl
  have suits : Suits delay 0 sharedHour := by
    have whole {ms now : Nat} (positive : 1 ≤ ms) (small : now + ms ≤ 200) :
        ∃ n, Duration.ofMillis ms = .ofMillis n ∧ 1 ≤ n ∧ n ≤ longestSleep ∧
          now + n ≤ lastInstant :=
      ⟨ms, rfl, positive, by unfold longestSleep; omega, by unfold lastInstant; omega⟩
    simp only [sharedHour, List.map_cons, List.map_nil, List.cons_append, List.nil_append, Suits,
      short, long, and_true]
    exact ⟨whole (by decide) (by decide), whole (by decide) (by decide),
      whole (by decide) (by decide), whole (by decide) (by decide), by decide,
      whole (by decide) (by decide), by decide, by decide, whole (by decide) (by decide)⟩
  exact ⟨⟨alone, suits⟩, agree_with_logical_clock delay alone 0 1 suits⟩

end RealTimers
end Vigil
