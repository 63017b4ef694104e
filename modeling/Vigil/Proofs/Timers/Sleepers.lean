import Vigil.Proofs.Timers.Balance
import Vigil.Timers.Script

/-!
What becomes of sleepers. A sleeper is a timer whose deadline is the time at which it should wake
up, so the account of timers on the logical clock (`LogicalTimers.Balanced`) serves for them too.
Nothing here depends on when a sleeper wakes up: it may do so at any time once it was armed, also
long after it was cancelled or replaced, since what decides is whether its number is still the one
that is pending for its key.
-/

namespace Vigil

def Sleeper.timer {κ μ : Type} (a : Sleeper κ μ) : Armed κ μ := ⟨a.key, a.message, a.wake, a.number⟩

/-- What happens to sleepers, each as a whole and one after the other. -/
inductive SleeperStep (κ μ : Type) where
  | command (c : TimerCommand κ μ)
  /-- The sleeper that was armed for a key under a number wakes up, pending or not. -/
  | wakeUp (key : κ) (number : Nat)
  | elapse (ms : Nat)
  deriving DecidableEq, Repr

/-- In the order of a numeric key the last element is the one with the greatest key. -/
theorem getLast?_eq_some_iff_forall_le {α : Type} {key : α → Nat} {l : List α} {a : α}
    (order : l.Pairwise fun x y => key x < key y) :
    l.getLast? = some a ↔ a ∈ l ∧ ∀ b ∈ l, key b ≤ key a := by
  induction l with
  | nil => simp
  | cons c l ih =>
      rw [List.pairwise_cons] at order
      cases l with
      | nil =>
          rw [List.getLast?_singleton, Option.some.injEq, List.mem_singleton,
            List.forall_mem_singleton]
          exact ⟨fun h => ⟨h.symm, h ▸ Nat.le_refl _⟩, fun h => h.1.symm⟩
      | cons d l =>
          rw [List.getLast?_cons_cons, ih order.2]
          constructor
          · rintro ⟨ha, last⟩
            refine ⟨List.mem_cons_of_mem c ha, List.forall_mem_cons.mpr ⟨?_, last⟩⟩
            exact Nat.le_of_lt (order.1 a ha)
          · rintro ⟨ha, last⟩
            have rest := (List.forall_mem_cons.mp last).2
            refine ⟨(List.mem_cons.mp ha).resolve_left ?_, rest⟩
            rintro rfl
            exact Nat.not_lt_of_le (rest d List.mem_cons_self) (order.1 d List.mem_cons_self)

namespace LogicalTimers

variable {κ μ : Type} [DecidableEq κ] {t t' : LogicalTimers κ μ} {past new : List (TimerEntry κ μ)}
  {due : List (Armed κ μ)} {a : Armed κ μ} {k : κ}

/-- A timer may be taken out and handed over at once, whatever its deadline. -/
theorem Balanced.takeOut (h : Balanced past t []) (found : t.find? k = some a) (now : Nat)
    (claimed : Bool) :
    Balanced (past ++ [.expired a, .fired now a claimed]) (t.without k) [] := by
  have taken := h.distinct.perm_without k
  rw [found] at taken
  refine h.extend (h.distinct.without k) (h.ordered.filter _) ?_ ?_ ?_ ?_
  · simp [TimerEntry.request?, TimerEntry.about?]
  · simp [TimerEntry.about?, LogicalTimers.without]
  · simpa [TimerEntry.about?] using taken
  · simp [TimerEntry.about?]

/-- The pending timer of a key is the one that was armed last for it, and whatever was replaced was
armed before another timer of its key. -/
structure Foremost (past : List (TimerEntry κ μ)) (t : LogicalTimers κ μ) : Prop where
  latest : ∀ a ∈ t.pending, ∀ b ∈ timersIn .armed past, b.key = a.key → b.seq ≤ a.seq
  superseded : ∀ b ∈ timersIn .replaced past,
    ∃ c ∈ timersIn .armed past, c.key = b.key ∧ b.seq < c.seq

namespace Foremost

omit [DecidableEq κ] in
theorem start (delay : Delay) : Foremost [] (.start delay : LogicalTimers κ μ) where
  latest _ ha := absurd ha List.not_mem_nil
  superseded _ hb := absurd hb List.not_mem_nil

omit [DecidableEq κ] in
/-- Timers may be dropped as long as none is armed or replaced. -/
theorem drop (h : Foremost past t) (kept : ∀ a ∈ t'.pending, a ∈ t.pending)
    (armed : timersIn .armed new = []) (replaced : timersIn .replaced new = []) :
    Foremost (past ++ new) t' where
  latest a ha b hb := by
    rw [timersIn_append, armed, List.append_nil] at hb
    exact h.latest a (kept a ha) b hb
  superseded b hb := by
    rw [timersIn_append, replaced, List.append_nil] at hb
    rw [timersIn_append, armed, List.append_nil]
    exact h.superseded b hb

theorem arm (h : Foremost past t) (balanced : Balanced past t due) (number : a.seq = t.nextSeq) :
    Foremost (past ++ .called (.set a.key a.message) ::
      ((t.find? a.key).toList.map .replaced ++ [.armed a])) (t.arm a) := by
  have armed : timersIn .armed (past ++ .called (.set a.key a.message) ::
      ((t.find? a.key).toList.map .replaced ++ [.armed a])) = timersIn .armed past ++ [a] := by
    simp [TimerEntry.about?]
  have earlier {b : Armed κ μ} (hb : b ∈ timersIn .armed past) : b.seq < a.seq := by
    have listed := List.mem_map_of_mem (f := Armed.seq) hb
    rwa [balanced.numbered, List.mem_range, ← number] at listed
  refine ⟨fun x hx b hb key => ?_, fun b hb => ?_⟩
  · rw [armed, List.mem_append, List.mem_singleton] at hb
    rcases List.mem_append.mp hx with old | new
    · obtain ⟨pending, other⟩ := List.mem_filter.mp old
      rcases hb with hb | rfl
      · exact h.latest x pending b hb key
      · exact absurd key.symm (by simpa using other)
    · cases List.mem_singleton.mp new
      rcases hb with hb | rfl
      · exact Nat.le_of_lt (earlier hb)
      · exact Nat.le_refl _
  · rw [armed]
    simp only [timersIn_append, timersIn_cons, timersIn_map, timersIn_nil, TimerEntry.about?,
      Option.toList_none, List.nil_append, List.append_nil, List.filterMap_some,
      List.mem_append, Option.mem_toList] at hb
    rcases hb with hb | found
    · obtain ⟨c, hc, key, later⟩ := h.superseded b hb
      exact ⟨c, List.mem_append_left _ hc, key, later⟩
    · refine ⟨a, List.mem_append_right _ (List.mem_singleton_self a), (find?_key found).symm, ?_⟩
      exact number ▸ balanced.seq_lt (mem_of_find? found)

end Foremost
end LogicalTimers

namespace RealTimers

section Table

variable {κ μ : Type}

def table (t : RealTimers κ μ) : LogicalTimers κ μ :=
  ⟨t.delay, t.now, t.nextNumber, t.sleeping.map Sleeper.timer⟩

def sleeperFor [HasKind μ] (t : RealTimers κ μ) (key : κ) (message : μ) : Sleeper κ μ :=
  ⟨key, message, t.now + min (t.delay.of message).toMillisUp longestSleep, t.nextNumber⟩

variable [DecidableEq κ] {t t' : RealTimers κ μ} {k : κ} {number : Nat} {a : Sleeper κ μ}

theorem find?_table (t : RealTimers κ μ) (k : κ) :
    t.table.find? k = (t.find? k).map Sleeper.timer := by
  simp only [LogicalTimers.find?, find?, table, List.find?_map]
  rfl

theorem table_without (t : RealTimers κ μ) (k : κ) : (t.without k).table = t.table.without k := by
  simp only [table, without, LogicalTimers.without, List.filter_map]
  rfl

/-- A sleeper fires if it is the one that is pending for its key; else nothing happens. -/
theorem fire_cases (t : RealTimers κ μ) (k : κ) (number : Nat) :
    t.fire k number = (t, none) ∨
      ∃ a, t.find? k = some a ∧ a.number = number ∧ t.fire k number = (t.without k, some a) := by
  unfold fire
  cases found : t.find? k with
  | none => exact .inl rfl
  | some a =>
      by_cases same : a.number = number
      · exact .inr ⟨a, rfl, same, if_pos same⟩
      · exact .inl (if_neg same)

variable [HasKind μ]

theorem table_set (t : RealTimers κ μ) (k : κ) (m : μ) :
    (t.set k m).table = t.table.arm (t.sleeperFor k m).timer := by
  simp only [table, set, without, LogicalTimers.arm, LogicalTimers.without, List.map_append,
    List.filter_map]
  rfl

end Table

section Ledger

variable {κ μ σ : Type} [DecidableEq κ] [HasKind μ]

def record (t : RealTimers κ μ) : TimerCommand κ μ → List (TimerEntry κ μ)
  | .set key message =>
    .called (.set key message) ::
      ((t.table.find? key).toList.map .replaced ++ [.armed (t.sleeperFor key message).timer])
  | c => t.table.record c

def recordAll (t : RealTimers κ μ) : List (TimerCommand κ μ) → List (TimerEntry κ μ)
  | [] => []
  | c :: cs => t.record c ++ (t.apply c).1.recordAll cs

/-- The entries of a sleeper that wakes up: it is taken out and its message is handed over, or there
is nothing to enter. -/
def recordWakeUp (receive : TimerReceiver σ κ μ) (t : RealTimers κ μ) (s : σ) (key : κ)
    (number : Nat) : List (TimerEntry κ μ) :=
  match t.fire key number with
  | (_, none) => []
  | (t', some a) =>
    let reply := (receive s a.key a.message).2
    .expired a.timer :: .fired t.now a.timer reply.isSome ::
      (t'.recordAll ((reply.map TimerReply.commands).getD []) ++
        (reply.bind TimerReply.refusal).toList.map .refused)

def step (receive : TimerReceiver σ κ μ) (t : RealTimers κ μ) (s : σ) :
    SleeperStep κ μ → RealTimers κ μ × σ × List (TimerEvent κ μ)
  | .command c => let (t, es) := t.apply c; (t, s, es)
  | .wakeUp key number => t.wakeUp receive s key number
  | .elapse ms => ({ t with now := t.now + ms }, s, [])

def stepAll (receive : TimerReceiver σ κ μ) (t : RealTimers κ μ) (s : σ) :
    List (SleeperStep κ μ) → RealTimers κ μ × σ × List (TimerEvent κ μ)
  | [] => (t, s, [])
  | x :: xs =>
    let (t, s, es) := t.step receive s x
    let (t, s, es') := t.stepAll receive s xs
    (t, s, es ++ es')

def entries (receive : TimerReceiver σ κ μ) (t : RealTimers κ μ) (s : σ) :
    SleeperStep κ μ → List (TimerEntry κ μ)
  | .command c => t.record c
  | .wakeUp key number => t.recordWakeUp receive s key number
  | .elapse _ => []

def ledger (receive : TimerReceiver σ κ μ) (t : RealTimers κ μ) (s : σ) :
    List (SleeperStep κ μ) → List (TimerEntry κ μ)
  | [] => []
  | x :: xs =>
    let (t', s', _) := t.step receive s x
    t.entries receive s x ++ t'.ledger receive s' xs

end Ledger

section Events

variable {κ μ σ : Type} [DecidableEq κ] [HasKind μ] {receive : TimerReceiver σ κ μ}

/-- Cancelling tells of sleepers what it tells of timers, and setting tells nothing. -/
theorem events_apply (t : RealTimers κ μ) (c : TimerCommand κ μ) :
    (t.apply c).2 = (t.record c).flatMap TimerEntry.events := by
  have cancelled (l : List (Sleeper κ μ)) :
      t.cancelled l = t.table.cancelled (l.map Sleeper.timer) := by
    simp only [RealTimers.cancelled, LogicalTimers.cancelled, List.map_map]
    rfl
  cases c with
  | set key message => cases h : t.table.find? key <;> simp [apply, record, TimerEntry.events, h]
  | cancel key =>
      have found : (t.find? key).toList.map Sleeper.timer = (t.table.find? key).toList := by
        rw [find?_table]
        cases t.find? key <;> rfl
      refine (cancelled _).trans (Eq.trans ?_ (t.table.events_apply (.cancel key)))
      rw [found]
      rfl
  | cancelAll => exact (cancelled _).trans (t.table.events_apply .cancelAll)

theorem events_applyAll (t : RealTimers κ μ) (cs : List (TimerCommand κ μ)) :
    (t.applyAll cs).2 = (t.recordAll cs).flatMap TimerEntry.events := by
  induction cs generalizing t with
  | nil => rfl
  | cons c cs ih => simp only [applyAll, recordAll, List.flatMap_append, ih, events_apply]

theorem events_wakeUp (t : RealTimers κ μ) (s : σ) (key : κ) (number : Nat) :
    (t.wakeUp receive s key number).2.2 =
      (t.recordWakeUp receive s key number).flatMap TimerEntry.events := by
  unfold wakeUp recordWakeUp
  rcases t.fire_cases key number with stale | ⟨a, -, -, fired⟩
  · simp only [stale, List.flatMap_nil]
  · simp only [fired]
    rcases receive s a.key a.message with ⟨s', _ | ⟨commands, _ | r⟩⟩
    · rfl
    · simp [TimerEvent.handover, TimerEntry.events, events_applyAll, Sleeper.timer, without]
    · simp [TimerEvent.handover, TimerEntry.events, events_applyAll, Sleeper.timer, without]

theorem events_stepAll (t : RealTimers κ μ) (s : σ) (xs : List (SleeperStep κ μ)) :
    (t.stepAll receive s xs).2.2 = (t.ledger receive s xs).flatMap TimerEntry.events := by
  induction xs generalizing t s with
  | nil => rfl
  | cons x xs ih =>
      have first : (t.step receive s x).2.2 =
          (t.entries receive s x).flatMap TimerEntry.events := by
        cases x with
        | command c => exact t.events_apply c
        | wakeUp key number => exact t.events_wakeUp s key number
        | elapse ms => rfl
      simp only [stepAll, ledger, List.flatMap_append, ih, first]

end Events

section Course

variable {κ μ σ : Type} [DecidableEq κ] [HasKind μ]

/-- The ways in which sleepers get from their start to a point of a run. -/
inductive Course (delay : Delay) : List (TimerEntry κ μ) → RealTimers κ μ → Prop
  | start : Course delay [] (.start delay)
  | call {past t} (c : TimerCommand κ μ) :
      Course delay past t → Course delay (past ++ t.record c) (t.apply c).1
  | fire {past t a key} (claimed : Bool) : Course delay past t → t.find? key = some a →
      Course delay (past ++ [.expired a.timer, .fired t.now a.timer claimed]) (t.without key)
  | refuse {past t} (r : Refusal) : Course delay past t → Course delay (past ++ [.refused r]) t
  | elapse {past t} (ms : Nat) :
      Course delay past t → Course delay past { t with now := t.now + ms }

variable {delay : Delay} {receive : TimerReceiver σ κ μ} {s : σ} {t : RealTimers κ μ}
  {past : List (TimerEntry κ μ)}

namespace Course

open LogicalTimers (Balanced Foremost)

theorem balanced (h : Course delay past t) : Balanced past t.table [] := by
  induction h with
  | start => exact .start delay
  | @call past t c _ ih =>
      cases c with
      | set k m =>
          rw [show (t.apply (.set k m)).1 = t.set k m from rfl, table_set]
          exact ih.arm (a := (t.sleeperFor k m).timer) rfl
      | cancel k =>
          rw [show (t.apply (.cancel k)).1 = t.without k from rfl, table_without]
          exact ih.cancel k
      | cancelAll => exact ih.cancelAll
  | @fire past t a key claimed _ found ih =>
      rw [table_without]
      exact ih.takeOut (by rw [find?_table, found]; rfl) t.now claimed
  | refuse r _ ih => exact ih.note rfl fun f => by cases f <;> rfl
  | elapse ms _ ih => exact { ih with }

theorem foremost (h : Course delay past t) : Foremost past t.table := by
  induction h with
  | start => exact .start delay
  | @call past t c before ih =>
      cases c with
      | set k m =>
          rw [show (t.apply (.set k m)).1 = t.set k m from rfl, table_set]
          exact ih.arm (a := (t.sleeperFor k m).timer) before.balanced rfl
      | cancel k =>
          rw [show (t.apply (.cancel k)).1 = t.without k from rfl, table_without]
          refine ih.drop (fun a ha => (List.mem_filter.mp ha).1) ?_ ?_ <;>
            simp [record, LogicalTimers.record, TimerEntry.about?]
      | cancelAll =>
          refine ih.drop (fun a ha => absurd ha List.not_mem_nil) ?_ ?_ <;>
            simp [record, LogicalTimers.record, TimerEntry.about?]
  | fire claimed _ _ ih =>
      rw [table_without]
      exact ih.drop (fun a ha => (List.mem_filter.mp ha).1) rfl rfl
  | refuse r _ ih => exact ih.drop (fun _ ha => ha) rfl rfl
  | elapse ms _ ih => exact { ih with }

theorem recordAll (h : Course delay past t) (cs : List (TimerCommand κ μ)) :
    Course delay (past ++ t.recordAll cs) (t.applyAll cs).1 := by
  induction cs generalizing past t with
  | nil => simpa [RealTimers.recordAll, applyAll] using h
  | cons c cs ih => simpa [RealTimers.recordAll, applyAll] using ih (h.call c)

theorem recordWakeUp (receive : TimerReceiver σ κ μ) (h : Course delay past t) (s : σ) (key : κ)
    (number : Nat) :
    Course delay (past ++ t.recordWakeUp receive s key number)
      (t.wakeUp receive s key number).1 := by
  unfold RealTimers.recordWakeUp wakeUp
  rcases t.fire_cases key number with stale | ⟨a, found, -, fired⟩
  · simpa only [stale, List.append_nil] using h
  · simp only [fired]
    rcases receive s a.key a.message with ⟨s', _ | ⟨commands, _ | r⟩⟩
    · simpa [RealTimers.recordAll, applyAll] using h.fire false found
    · simpa using (h.fire true found).recordAll commands
    · simpa using ((h.fire true found).recordAll commands).refuse r

theorem ledger (h : Course delay past t) (s : σ) (xs : List (SleeperStep κ μ)) :
    Course delay (past ++ t.ledger receive s xs) (t.stepAll receive s xs).1 := by
  induction xs generalizing past t s with
  | nil => simpa [RealTimers.ledger, stepAll] using h
  | cons x xs ih =>
      have next : Course delay (past ++ t.entries receive s x) (t.step receive s x).1 := by
        cases x with
        | command c => exact h.call c
        | wakeUp key number => exact h.recordWakeUp receive s key number
        | elapse ms => simpa [entries, step] using h.elapse ms
      simpa [RealTimers.ledger, stepAll] using ih next _

end Course

theorem course_ledger (receive : TimerReceiver σ κ μ) (delay : Delay) (s : σ)
    (xs : List (SleeperStep κ μ)) :
    Course delay ((start delay : RealTimers κ μ).ledger receive s xs)
      ((start delay).stepAll receive s xs).1 := by
  have begun : Course delay [] (start delay : RealTimers κ μ) := .start
  simpa using begun.ledger s xs

end Course

section Account

variable {κ μ σ : Type} [DecidableEq κ] [HasKind μ] {t : RealTimers κ μ}
  {past : List (TimerEntry κ μ)} {delay : Delay} {receive : TimerReceiver σ κ μ} {s : σ}

/-- The account of sleepers between two steps. -/
structure Accounted (past : List (TimerEntry κ μ)) (t : RealTimers κ μ) : Prop where
  /-- Every request to set a timer has armed a sleeper, and no two have the same number. -/
  requested : past.filterMap TimerEntry.request? =
    (timersIn .armed past).map fun a => (a.key, a.message)
  numbered : (timersIn .armed past).map Armed.seq = List.range t.nextNumber
  /-- A sleeper that was armed is pending or has been replaced, cancelled or fired: one of these,
  and once. -/
  settled : (timersIn .armed past).Perm (t.sleeping.map Sleeper.timer ++ timersIn .replaced past ++
    timersIn .cancelled past ++ timersIn .fired past)
  once : (t.sleeping.map Sleeper.timer ++ timersIn .replaced past ++
    timersIn .cancelled past ++ timersIn .fired past).Nodup
  /-- Pending for a key is the sleeper that was armed last for it, unless that was cancelled or has
  fired. -/
  entry : ∀ key a, (t.find? key).map Sleeper.timer = some a ↔
    ((timersIn .armed past).filter (·.key == key)).getLast? = some a ∧
      a ∉ timersIn .cancelled past ∧ a ∉ timersIn .fired past
  /-- No message is handed over whose sleeper was replaced or cancelled. -/
  silenced : ∀ a, a ∈ timersIn .replaced past ∨ a ∈ timersIn .cancelled past →
    a ∉ timersIn .fired past

namespace Course

theorem settled (h : Course delay past t) :
    (timersIn .armed past).Perm (t.sleeping.map Sleeper.timer ++ timersIn .replaced past ++
      timersIn .cancelled past ++ timersIn .fired past) :=
  h.balanced.atRest

theorem entry (h : Course delay past t) (key : κ) (a : Armed κ μ) :
    (t.find? key).map Sleeper.timer = some a ↔
      ((timersIn .armed past).filter (·.key == key)).getLast? = some a ∧
        a ∉ timersIn .cancelled past ∧ a ∉ timersIn .fired past := by
  have settled := h.settled
  have once := settled.nodup_iff.mp h.balanced.nodup
  have order : ((timersIn .armed past).filter (·.key == key)).Pairwise (·.seq < ·.seq) := by
    refine List.Pairwise.filter _ (List.pairwise_map.mp ?_)
    rw [h.balanced.numbered]
    exact List.pairwise_lt_range
  rw [← find?_table, getLast?_eq_some_iff_forall_le order]
  simp only [List.mem_filter, beq_iff_eq, and_imp]
  constructor
  · intro found
    have pending : a ∈ t.sleeping.map Sleeper.timer := LogicalTimers.mem_of_find? found
    have named := LogicalTimers.find?_key found
    simp only [List.nodup_append, List.mem_append] at once
    refine ⟨⟨⟨settled.mem_iff.mpr (by simp [pending]), named⟩, fun b hb key => ?_⟩, ?_, ?_⟩
    · exact h.foremost.latest a pending b hb (key.trans named.symm)
    · exact fun cancelled => once.1.2.2 a (.inl pending) a cancelled rfl
    · exact fun fired => once.2.2 a (.inl (.inl pending)) a fired rfl
  · rintro ⟨⟨⟨armed, rfl⟩, last⟩, uncancelled, unfired⟩
    have fate := settled.mem_iff.mp armed
    simp only [List.mem_append, uncancelled, unfired, or_false] at fate
    -- whatever was replaced is not the last one for its key
    have current : a ∉ timersIn .replaced past := fun replaced => by
      obtain ⟨c, hc, key, later⟩ := h.foremost.superseded a replaced
      exact Nat.not_lt_of_le (last c hc key) later
    exact h.balanced.distinct.find?_eq_some (fate.resolve_right current)

theorem accounted (h : Course delay past t) : Accounted past t where
  requested := h.balanced.requested
  numbered := h.balanced.numbered
  settled := h.settled
  once := h.settled.nodup_iff.mp h.balanced.nodup
  entry := h.entry
  silenced := by
    have once := h.settled.nodup_iff.mp h.balanced.nodup
    simp only [List.nodup_append, List.mem_append] at once
    rintro a (replaced | cancelled) fired
    · exact once.2.2 a (.inl (.inr replaced)) a fired rfl
    · exact once.2.2 a (.inr cancelled) a fired rfl

end Course

/-- Letting time pass is a run of steps, in which every sleeper wakes up in time. -/
theorem exists_stepAll_eq_passWithin (receive : TimerReceiver σ κ μ) (time fuel : Nat)
    (t : RealTimers κ μ) (s : σ) :
    ∃ xs, t.stepAll receive s xs = passWithin receive time fuel t s := by
  have until_max (m n : Nat) : m + (n - m) = max m n := by omega
  have rest (t : RealTimers κ μ) (s : σ) :
      t.stepAll receive s [.elapse (time - t.now)] = ({ t with now := max t.now time }, s, []) := by
    simp only [stepAll, step, List.append_nil, until_max]
  induction fuel generalizing t s with
  | zero => exact ⟨_, rest t s⟩
  | succ fuel ih =>
      unfold passWithin
      cases firstDue? time t.sleeping with
      | none => exact ⟨_, rest t s⟩
      | some a =>
          let awake := { t with now := max t.now a.wake }.wakeUp receive s a.key a.number
          obtain ⟨xs, hxs⟩ := ih awake.1 awake.2.1
          refine ⟨.elapse (a.wake - t.now) :: .wakeUp a.key a.number :: xs, ?_⟩
          simp only [stepAll, step, until_max, List.nil_append]
          exact congrArg (fun r => (r.1, r.2.1, awake.2.2 ++ r.2.2)) hxs

/-- Whatever the order of the steps, and whether or not sleepers wake up late or more than once, the
events are those of the ledger and the ledger accounts for every sleeper. Time that passes by itself
is no exception. -/
theorem settled_in_any_order (delay : Delay) (receive : TimerReceiver σ κ μ) (s : σ)
    (steps : List (SleeperStep κ μ)) :
    let run := (start delay).stepAll receive s steps
    let ledger := (start delay).ledger receive s steps
    run.2.2 = ledger.flatMap TimerEntry.events ∧ Accounted ledger run.1 ∧
      ∀ budget time, ∃ more,
        run.1.stepAll receive run.2.1 more = run.1.pass receive budget run.2.1 time :=
  ⟨events_stepAll _ _ _, (course_ledger receive delay s steps).accounted, fun _ _ =>
    exists_stepAll_eq_passWithin ..⟩

/-- A sleeper that has been replaced wakes up in vain, and nobody fires twice. -/
example :
    let note : Note := ⟨"a", "", ""⟩
    ((start (.fixed (.ofMillis 5))).stepAll Script.receive none
      [.command (.set "a" note), .command (.set "a" note), .elapse 7, .wakeUp "a" 0, .wakeUp "a" 1,
        .wakeUp "a" 1]).2.2 = [.triggered 7 "a" note, .warned .timeoutUnclaimed] := by
  decide +kernel

end Account

end RealTimers
end Vigil
