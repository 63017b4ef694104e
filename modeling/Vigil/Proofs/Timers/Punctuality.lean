import Vigil.Proofs.Timers.Accounting
import Vigil.Proofs.Timers.Revocation

/-!
When a timer comes. The account of one timer from the moment at which it was armed (`Tracked`) says
that it fires at the first tick that reaches its deadline, unless a call concerns its key. Its wait
counts modulo 2 ^ 64 milliseconds, though, so its deadline is the instant at which the wait is over
only where nothing is lost (`deadlineAfter_eq_dueAfter_iff`), and otherwise a tick may come between
the two.
-/

namespace Vigil

theorem Duration.toMillis_mono {d d' : Duration} (longer : d.toNanos ≤ d'.toNanos) :
    d.toMillis ≤ d'.toMillis := by
  rw [toMillis_eq, toMillis_eq]
  exact Nat.div_le_div_right longer

namespace TimerEntry

def instant? {κ μ : Type} : TimerEntry κ μ → Option Nat
  | ticked now _ => some now
  | _ => none

end TimerEntry

section Instants

variable {κ μ : Type} {l l' : List (TimerEntry κ μ)}

/-- The instants of the ticks in a ledger. -/
def instants (l : List (TimerEntry κ μ)) : List Nat := l.filterMap TimerEntry.instant?

/-- The clock after a ledger. -/
def clock (l : List (TimerEntry κ μ)) : Nat := (instants l).getLast?.getD 0

@[simp] theorem instants_append : instants (l ++ l') = instants l ++ instants l' :=
  List.filterMap_append

theorem instants_map {f : Armed κ μ → TimerEntry κ μ} {as : List (Armed κ μ)}
    (silent : ∀ a, (f a).instant? = none) : instants (as.map f) = [] := by
  simp [instants, silent]

theorem clock_append_of_silent (silent : instants l' = []) : clock (l ++ l') = clock l := by
  rw [clock, instants_append, silent, List.append_nil, clock]

end Instants

namespace LogicalTimers

/-! ### Waits -/

section Waits

variable {now : Nat} {d d' : Duration}

/-- The instant at which a wait from `now` on is over, or the last one. -/
def dueAfter (now : Nat) (d : Duration) : Nat := min (now + d.toMillis) lastInstant

theorem deadlineAfter_eq_dueAfter_iff :
    deadlineAfter now d = dueAfter now d ↔
      d.toMillis ≤ lastInstant ∨ lastInstant ≤ now + d.toMillis % 18446744073709551616 := by
  unfold deadlineAfter dueAfter lastInstant
  omega

theorem deadlineAfter_le_iff :
    deadlineAfter now d ≤ deadlineAfter now d' ↔
      d.toMillis % 18446744073709551616 ≤ d'.toMillis % 18446744073709551616 ∨
        lastInstant ≤ now + d'.toMillis % 18446744073709551616 := by
  unfold deadlineAfter
  omega

theorem deadlineAfter_mono (longer : d.toNanos ≤ d'.toNanos) (small : d'.toMillis ≤ lastInstant) :
    deadlineAfter now d ≤ deadlineAfter now d' := by
  have millis := Duration.toMillis_mono longer
  unfold lastInstant at small
  rw [deadlineAfter_le_iff, Nat.mod_eq_of_lt (by omega), Nat.mod_eq_of_lt (by omega)]
  exact .inl millis

end Waits

/-! ### One timer -/

variable {κ μ σ : Type} {t : LogicalTimers κ μ} {past before after new : List (TimerEntry κ μ)}
  {due : List (Armed κ μ)} {a b : Armed κ μ} {now : Nat}

/-- `now` is the instant of the first tick that reaches the deadline of a timer. -/
structure ComesAt (a : Armed κ μ) (l : List (TimerEntry κ μ)) (now : Nat) : Prop where
  ticked : now ∈ instants l
  reached : a.deadline ≤ now
  first : ∀ now' ∈ instants l, a.deadline ≤ now' → now ≤ now'

theorem ComesAt.append (h : ComesAt a after now) (later : ∀ now' ∈ instants new, now ≤ now') :
    ComesAt a (after ++ new) now := by
  refine ⟨by simp [h.ticked], h.reached, fun now' ticked reached => ?_⟩
  rcases List.mem_append.mp (instants_append ▸ ticked) with earlier | new
  · exact h.first now' earlier reached
  · exact later now' new

/-- The account of a timer, where `after` is what has happened since it was armed. -/
structure Tracked (a : Armed κ μ) (after : List (TimerEntry κ μ)) (t : LogicalTimers κ μ)
    (due : List (Armed κ μ)) : Prop where
  fired : ∀ now claimed, .fired now a claimed ∈ after → ComesAt a after now
  taken : a ∈ due → ComesAt a after t.now
  waiting : a ∈ t.pending → ∀ now ∈ instants after, now < a.deadline
  kept : (∀ c, .called c ∈ after → ¬ c.Concerns a.key) →
    a ∈ t.pending ∨ a ∈ due ∨ ∃ now claimed, .fired now a claimed ∈ after

theorem Balanced.armed_of_due (h : Balanced past t due) (taken : a ∈ due) :
    a ∈ timersIn .armed past :=
  h.settled.mem_iff.mpr (by simp [h.awaiting, taken])

variable [DecidableEq κ] [HasKind μ] {delay : Delay} {c : TimerCommand κ μ}

theorem instants_record (t : LogicalTimers κ μ) (c : TimerCommand κ μ) :
    instants (t.record c) = [] := by
  cases c with
  | set k m =>
      have replaced : instants ((t.find? k).toList.map TimerEntry.replaced) = [] :=
        instants_map fun _ => rfl
      change instants ((t.find? k).toList.map .replaced ++ [.armed (t.armedBy k m)]) = []
      rw [instants_append, replaced]
      rfl
  | cancel k | cancelAll => exact instants_map fun _ => rfl

omit [DecidableEq κ] [HasKind μ] in
theorem instants_recordExpiry (t : LogicalTimers κ μ) (time : Nat) :
    instants (t.recordExpiry time) = [(t.expire time).1.now] := by
  simp [instants, recordExpiry, TimerEntry.instant?]

theorem mem_pending_apply (pending : a ∈ t.pending) (other : ¬ c.Concerns a.key) :
    a ∈ (t.apply c).1.pending := by
  have kept {k : κ} (different : k ≠ a.key) : a ∈ (t.without k).pending :=
    List.mem_filter.mpr ⟨pending, by simpa using Ne.symm different⟩
  cases c with
  | set k m => exact List.mem_append_left _ (kept other)
  | cancel k => exact kept other
  | cancelAll => exact absurd trivial other

theorem mem_armed_record :
    a ∈ timersIn .armed (t.record c) ↔ ∃ k m, c = .set k m ∧ a = t.armedBy k m := by
  cases c with
  | set k m => simp [record, TimerEntry.about?]
  | cancel k | cancelAll => simp [record, TimerEntry.about?]

/-- A call arms a timer at the end of its record. -/
theorem record_of_armed (h : t.record c = before ++ .armed a :: after) :
    ∃ k m, c = .set k m ∧ a = t.armedBy k m ∧ after = [] ∧ instants before = [] := by
  have armed : a ∈ timersIn .armed (t.record c) := by simp [h, TimerEntry.about?]
  have silent := t.instants_record c
  rw [h, instants_append] at silent
  obtain ⟨k, m, rfl, same⟩ := mem_armed_record.mp armed
  refine ⟨k, m, rfl, same, ?_, (List.append_eq_nil_iff.mp silent).1⟩
  have recorded : (.called (.set k m) :: (t.find? k).toList.map .replaced) ++
      [.armed (t.armedBy k m)] = before ++ .armed a :: after := h
  rcases Course.split_at recorded with ⟨_, earlier, -⟩ | ⟨b, -, last⟩
  · have listed : TimerEntry.armed a ∈
        .called (.set k m) :: (t.find? k).toList.map TimerEntry.replaced := by simp [earlier]
    simp at listed
  · cases b with
    | nil => exact (List.cons.inj last).2.symm
    | cons _ _ => simp at last

namespace Course

theorem delay_eq (h : Course delay past t due) : t.delay = delay := by
  induction h with
  | start => rfl
  | call c _ ih => cases c <;> exact ih
  | expire _ _ ih | fire _ _ ih | refuse _ _ ih => exact ih

theorem now_eq (h : Course delay past t due) : t.now = clock past := by
  induction h with
  | start => rfl
  | call c _ ih => rw [now_apply, clock_append_of_silent (instants_record _ c), ih]
  | expire time _ _ => simp [clock, instants_recordExpiry]
  | fire _ _ ih | refuse _ _ ih => rw [clock_append_of_silent rfl, ih]

theorem instants_le (h : Course delay past t due) : ∀ now ∈ instants past, now ≤ t.now := by
  induction h with
  | start => exact fun now ticked => absurd ticked List.not_mem_nil
  | call c _ ih =>
      rw [instants_append, instants_record, List.append_nil, now_apply]
      exact ih
  | expire time _ ih =>
      rw [instants_append, instants_recordExpiry, List.forall_mem_append]
      exact ⟨fun now ticked => Nat.le_trans (ih now ticked) (Nat.le_max_left ..), by simp⟩
  | fire _ _ ih | refuse _ _ ih =>
      rw [instants_append]
      exact fun now ticked => ih now (by simpa [instants, TimerEntry.instant?] using ticked)

/-- No timer is armed twice. -/
theorem not_armed_before (h : Course delay (past ++ new) t due) (armed : a ∈ timersIn .armed new) :
    a ∉ timersIn .armed past := by
  have nodup := h.balanced.nodup
  rw [timersIn_append, List.nodup_append] at nodup
  exact fun earlier => nodup.2.2 a earlier a armed rfl

end Course

theorem Tracked.start (h : Course delay past t due) (k : κ) (m : μ) :
    Tracked (t.armedBy k m) [] (t.set k m) due where
  fired _ _ fired := absurd fired List.not_mem_nil
  taken taken := absurd (h.balanced.armed_of_due taken)
    ((h.call _).not_armed_before (mem_armed_record.mpr ⟨k, m, rfl, rfl⟩))
  waiting _ _ ticked := absurd ticked List.not_mem_nil
  kept _ := .inl (List.mem_append_right _ (List.mem_singleton_self _))

theorem Tracked.call (tracked : Tracked a after t due) (h : Course delay past t due)
    (armed : a ∈ timersIn .armed past) (c : TimerCommand κ μ) :
    Tracked a (after ++ t.record c) (t.apply c).1 due where
  fired now claimed fired := by
    rcases List.mem_append.mp fired with earlier | new
    · exact (tracked.fired now claimed earlier).append (by simp [instants_record])
    · have about : a ∈ timersIn .fired (t.record c) := List.mem_filterMap.mpr ⟨_, new, rfl⟩
      simp [fired_record] at about
  taken taken := by
    rw [now_apply]
    exact (tracked.taken taken).append (by simp [instants_record])
  waiting pending now ticked := by
    rw [instants_append, instants_record, List.append_nil] at ticked
    refine tracked.waiting ?_ now ticked
    cases c with
    | set k m =>
        exact (mem_pending_set pending).resolve_right fun same =>
          (h.call _).not_armed_before (mem_armed_record.mpr ⟨k, m, rfl, same⟩) armed
    | cancel k => exact (List.mem_filter.mp pending).1
    | cancelAll => exact absurd pending List.not_mem_nil
  kept untouched := by
    have other : ¬ c.Concerns a.key := untouched c (by simp [record])
    rcases tracked.kept fun c' called => untouched c' (List.mem_append_left _ called) with
      pending | taken | ⟨now, claimed, fired⟩
    · exact .inl (mem_pending_apply pending other)
    · exact .inr (.inl taken)
    · exact .inr (.inr ⟨now, claimed, List.mem_append_left _ fired⟩)

omit [DecidableEq κ] [HasKind μ] in
theorem Tracked.expire (tracked : Tracked a after t [])
    (monotone : ∀ now ∈ instants after, now ≤ t.now) (time : Nat) :
    Tracked a (after ++ t.recordExpiry time) (t.expire time).1 (t.expire time).2 where
  fired now claimed fired := by
    rcases List.mem_append.mp fired with earlier | new
    · have comes := tracked.fired now claimed earlier
      refine comes.append ?_
      rw [instants_recordExpiry, List.forall_mem_singleton]
      exact Nat.le_trans (monotone now comes.ticked) (Nat.le_max_left ..)
    · simp [recordExpiry] at new
  taken taken := by
    obtain ⟨pending, reached⟩ := mem_expired.mp taken
    refine ⟨by simp [instants_recordExpiry], reached, fun now ticked reached => ?_⟩
    rw [instants_append, instants_recordExpiry, List.mem_append, List.mem_singleton] at ticked
    rcases ticked with earlier | rfl
    · exact absurd reached (Nat.not_le.mpr (tracked.waiting pending now earlier))
    · exact Nat.le_refl _
  waiting pending now ticked := by
    obtain ⟨pending, unreached⟩ := List.mem_filter.mp pending
    rw [instants_append, instants_recordExpiry, List.mem_append, List.mem_singleton] at ticked
    rcases ticked with earlier | rfl
    · exact tracked.waiting pending now earlier
    · simpa [LogicalTimers.expire] using unreached
  kept untouched := by
    rcases tracked.kept fun c called => untouched c (List.mem_append_left _ called) with
      pending | taken | ⟨now, claimed, fired⟩
    · by_cases reached : a.deadline ≤ max t.now time
      · exact .inr (.inl (mem_expired.mpr ⟨pending, reached⟩))
      · exact .inl (List.mem_filter.mpr ⟨pending, by simpa using reached⟩)
    · exact absurd taken List.not_mem_nil
    · exact .inr (.inr ⟨now, claimed, List.mem_append_left _ fired⟩)

omit [DecidableEq κ] [HasKind μ] in
theorem Tracked.fire (tracked : Tracked a after t (b :: due)) (claimed : Bool) :
    Tracked a (after ++ [.fired t.now b claimed]) t due where
  fired now claimed fired := by
    rcases List.mem_append.mp fired with earlier | new
    · exact (tracked.fired now claimed earlier).append (by simp [instants, TimerEntry.instant?])
    · cases List.mem_singleton.mp new
      exact (tracked.taken (List.mem_cons_self ..)).append
        (by simp [instants, TimerEntry.instant?])
  taken taken := (tracked.taken (List.mem_cons_of_mem b taken)).append
    (by simp [instants, TimerEntry.instant?])
  waiting pending now ticked :=
    tracked.waiting pending now (by simpa [instants, TimerEntry.instant?] using ticked)
  kept untouched := by
    rcases tracked.kept fun c called => untouched c (List.mem_append_left _ called) with
      pending | taken | ⟨now, claimed, fired⟩
    · exact .inl pending
    · rcases List.mem_cons.mp taken with rfl | taken
      · exact .inr (.inr ⟨t.now, claimed, by simp⟩)
      · exact .inr (.inl taken)
    · exact .inr (.inr ⟨now, claimed, List.mem_append_left _ fired⟩)

omit [DecidableEq κ] [HasKind μ] in
theorem Tracked.refuse (tracked : Tracked a after t due) (r : Refusal) :
    Tracked a (after ++ [.refused r]) t due where
  fired now claimed fired :=
    (tracked.fired now claimed (by simpa using fired)).append
      (by simp [instants, TimerEntry.instant?])
  taken taken := (tracked.taken taken).append (by simp [instants, TimerEntry.instant?])
  waiting pending now ticked :=
    tracked.waiting pending now (by simpa [instants, TimerEntry.instant?] using ticked)
  kept untouched := by
    simpa using tracked.kept fun c called => untouched c (List.mem_append_left _ called)

/-- Wherever a ledger notes that a timer is armed, its deadline is reckoned from the clock of the
moment, and it is accounted for from then on. -/
theorem Course.tracked (h : Course delay past t due) (split : past = before ++ .armed a :: after) :
    a.deadline = deadlineAfter (clock before) (delay.of a.message) ∧ Tracked a after t due := by
  have armed {past after : List (TimerEntry κ μ)} (split : past = before ++ .armed a :: after) :
      a ∈ timersIn .armed past := by simp [split, TimerEntry.about?]
  -- Only a call can have armed `a` in its own record; whatever else is noted came after it.
  induction h generalizing after with
  | start => simp at split
  | @call past t due c h ih =>
      rcases split_at split with ⟨after, older, rfl⟩ | ⟨b, begun, recorded⟩
      · exact ⟨(ih older).1, (ih older).2.call h (armed older) c⟩
      · obtain ⟨k, m, rfl, rfl, rfl, silent⟩ := record_of_armed recorded
        rw [begun, clock_append_of_silent silent, ← h.now_eq, ← h.delay_eq]
        exact ⟨rfl, .start h k m⟩
  | @expire past t time h ih =>
      rcases split_at split with ⟨after, older, rfl⟩ | ⟨b, -, recorded⟩
      · refine ⟨(ih older).1, (ih older).2.expire (fun now ticked => h.instants_le now ?_) time⟩
        rw [older, instants_append]
        exact List.mem_append_right _ (by simpa [instants, TimerEntry.instant?] using ticked)
      · have listed : TimerEntry.armed a ∈ t.recordExpiry time := by simp [recorded]
        simp [recordExpiry] at listed
  | fire claimed h ih =>
      rcases split_at split with ⟨after, older, rfl⟩ | ⟨b, -, recorded⟩
      · exact ⟨(ih older).1, (ih older).2.fire claimed⟩
      · cases b <;> simp at recorded
  | refuse r h ih =>
      rcases split_at split with ⟨after, older, rfl⟩ | ⟨b, -, recorded⟩
      · exact ⟨(ih older).1, (ih older).2.refuse r⟩
      · cases b <;> simp at recorded

/-- The deadline of a timer is reckoned from the clock at which it was armed, and it fires at the
first tick that reaches it. So, if no later call concerns its key, it never fires before its wait is
over exactly if no tick falls between the deadline and that moment. The two are the same exactly if
the wait is below 2 ^ 64 milliseconds, or reaches the last instant even modulo 2 ^ 64. Of two waits
below 2 ^ 64 milliseconds, the longer does not get the earlier deadline. -/
theorem never_early_iff (delay : Delay) (receive : TimerReceiver σ κ μ) (s : σ)
    (calls : List (TimerCall σ κ μ))
    (split : (start delay).ledger receive s calls = before ++ .armed a :: after)
    (untouched : ∀ c, .called c ∈ after → ¬ c.Concerns a.key) :
    let now := clock before
    let wait := delay.of a.message
    a.deadline = deadlineAfter now wait ∧
    (∀ now' claimed, .fired now' a claimed ∈ after → ComesAt a after now') ∧
    ((∀ now' claimed, .fired now' a claimed ∈ after → dueAfter now wait ≤ now') ↔
      ∀ now' ∈ instants after, a.deadline ≤ now' → dueAfter now wait ≤ now') ∧
    (a.deadline = dueAfter now wait ↔
      wait.toMillis ≤ lastInstant ∨ lastInstant ≤ now + wait.toMillis % 18446744073709551616) ∧
    ∀ longer : Duration, wait.toNanos ≤ longer.toNanos →
      (longer.toMillis ≤ lastInstant → a.deadline ≤ deadlineAfter now longer) ∧
      (a.deadline ≤ deadlineAfter now longer ↔
        wait.toMillis % 18446744073709551616 ≤ longer.toMillis % 18446744073709551616 ∨
          lastInstant ≤ now + longer.toMillis % 18446744073709551616) := by
  intro now wait
  obtain ⟨deadline, tracked⟩ := (course_ledger receive delay s calls).tracked split
  refine ⟨deadline, tracked.fired, ⟨fun punctual now' ticked reached => ?_,
    fun spared now' claimed fired => ?_⟩, ?_, fun longer more => ?_⟩
  · rcases tracked.kept untouched with pending | taken | ⟨first, claimed, fired⟩
    · exact absurd reached (Nat.not_le.mpr (tracked.waiting pending now' ticked))
    · exact absurd taken List.not_mem_nil
    · have comes := tracked.fired first claimed fired
      exact Nat.le_trans (punctual first claimed fired) (comes.first now' ticked reached)
  · have comes := tracked.fired now' claimed fired
    exact spared now' comes.ticked comes.reached
  · rw [deadline]
    exact deadlineAfter_eq_dueAfter_iff
  · rw [deadline]
    exact ⟨deadlineAfter_mono more, deadlineAfter_le_iff⟩

/-- At 1000 a timer is armed for almost two seconds, while another one comes and goes. -/
def almostTwoSeconds : List (TimerCall (Option Script) String Note) :=
  [.receiver (some ⟨.ofList [], 9⟩), .tick 1000, .command (.set "a" ⟨"a", "first", ""⟩),
    .command (.set "b" ⟨"b", "second", ""⟩), .tick 2998, .command (.cancel "b"), .tick 2999]

/-- The timer fires in the last millisecond that it waits for, and not in the one before. -/
theorem fires_at_the_last_millisecond :
    let wait : Duration := ⟨1, 999999999⟩
    let ledger := (start (.fixed wait)).ledger Script.receive none almostTwoSeconds
    let a : Armed String Note := ⟨"a", ⟨"a", "first", ""⟩, 2999, 0⟩
    ledger = ledger.take 2 ++ .armed a :: ledger.drop 3 ∧
      (∀ c, .called c ∈ ledger.drop 3 → ¬ c.Concerns "a") ∧
      (∀ now claimed, .fired now a claimed ∈ ledger.drop 3 → dueAfter 1000 wait ≤ now) ∧
      .fired 2999 a true ∈ ledger.drop 3 := by
  intro wait ledger a
  have split : ledger = ledger.take 2 ++ .armed a :: ledger.drop 3 := by decide +kernel
  have later : ledger.drop 3 = [.called (.set "b" ⟨"b", "second", ""⟩),
      .armed ⟨"b", ⟨"b", "second", ""⟩, 2999, 1⟩, .ticked 2998 2, .called (.cancel "b"),
      .cancelled 2998 ⟨"b", ⟨"b", "second", ""⟩, 2999, 1⟩, .ticked 2999 1, .expired a,
      .fired 2999 a true] := by decide +kernel
  have untouched : ∀ c, .called c ∈ ledger.drop 3 → ¬ c.Concerns "a" := by
    simp [later, TimerCommand.Concerns]
  have punctual :=
    never_early_iff (.fixed wait) Script.receive none almostTwoSeconds split untouched
  have started : clock (ledger.take 2) = 1000 := by decide +kernel
  rw [started] at punctual
  refine ⟨split, untouched, punctual.2.2.1.mpr ?_, by simp [later]⟩
  decide +kernel

/-- A timer that waits for 2 ^ 64 milliseconds and 384 more fires after 384, sooner than one that
waits for a second. -/
theorem fires_early_beyond_range :
    let wait : Duration := ⟨18446744073709552, 0⟩
    let calls : List (TimerCall (Option Script) String Note) :=
      [.receiver (some ⟨.ofList [], 9⟩), .command (.set "a" ⟨"a", "first", ""⟩), .tick 384]
    let ledger := (start (.fixed wait)).ledger Script.receive none calls
    (¬ ∀ before a after, ledger = before ++ .armed a :: after →
      (∀ c, .called c ∈ after → ¬ c.Concerns a.key) →
      ∀ now claimed, .fired now a claimed ∈ after → dueAfter (clock before) wait ≤ now) ∧
    ¬ ∀ longer shorter : Duration, shorter.toNanos ≤ longer.toNanos →
      deadlineAfter 0 shorter ≤ deadlineAfter 0 longer := by
  intro wait calls ledger
  let a : Armed String Note := ⟨"a", ⟨"a", "first", ""⟩, 384, 0⟩
  have noted : ledger = [.called (.set "a" ⟨"a", "first", ""⟩), .armed a, .ticked 384 1, .expired a,
      .fired 384 a true] := by decide +kernel
  refine ⟨fun punctual => ?_, fun monotone => ?_⟩
  · have due := punctual [.called (.set "a" ⟨"a", "first", ""⟩)] a
      [.ticked 384 1, .expired a, .fired 384 a true] noted (by simp) 384 true (by simp)
    revert due
    decide +kernel
  · have later := monotone wait (.ofMillis 1000) (by decide +kernel)
    revert later
    decide +kernel

end LogicalTimers
end Vigil
