import Vigil.Proofs.Timers.Balance
import Vigil.Timers.Script

/-!
What cancelling and setting again can still prevent. A timer is out of their reach from the moment a
tick takes it out, and a tick takes all expired timers out before it hands any of them over, which
it does before it ends (`UnderWay.fires`).
-/

namespace Vigil

/-- A call that cancels or replaces whatever timer is pending for a key. -/
def TimerCommand.Concerns {κ μ : Type} (key : κ) : TimerCommand κ μ → Prop
  | set k _ | cancel k => k = key
  | cancelAll => True

namespace LogicalTimers

variable {κ μ σ : Type} [DecidableEq κ] [HasKind μ] {t : LogicalTimers κ μ}
  {past before after : List (TimerEntry κ μ)} {due : List (Armed κ μ)} {a : Armed κ μ}
  {c : TimerCommand κ μ}

/-- A pending timer is replaced or cancelled by any call that concerns it. -/
theorem Distinct.revoked (h : t.Distinct) (pending : a ∈ t.pending) (concerned : c.Concerns a.key) :
    a ∈ timersIn .replaced (t.record c) ∨ a ∈ timersIn .cancelled (t.record c) := by
  have found : t.find? a.key = some a := h.find?_eq_some pending
  cases c with
  | set k m =>
      cases concerned
      simp [record, TimerEntry.about?, found]
  | cancel k =>
      cases concerned
      simp [record, TimerEntry.about?, found]
  | cancelAll => simp [record, TimerEntry.about?, pending]

omit [DecidableEq κ] [HasKind μ] in
theorem Balanced.not_expired (h : Balanced past t due)
    (revoked : a ∈ timersIn .replaced past ∨ a ∈ timersIn .cancelled past) :
    a ∉ timersIn .expired past := by
  have nodup := h.settled.nodup_iff.mp h.nodup
  rw [List.nodup_append] at nodup
  intro expired
  exact nodup.2.2 a (by simp [revoked]) a expired rfl

omit [DecidableEq κ] [HasKind μ] in
theorem Balanced.fired_nodup (h : Balanced past t due) : (timersIn .fired past).Nodup := by
  have expired := (List.nodup_append.mp (h.settled.nodup_iff.mp h.nodup)).2.1
  exact (List.nodup_append.mp (h.awaiting ▸ expired)).1

/-- A timer that is neither replaced nor cancelled when a call concerns it, nor by this call, has
been taken out by then. -/
theorem Balanced.expired_of_unrevoked (h : Balanced before t due)
    (armed : a ∈ timersIn .armed before) (concerned : c.Concerns a.key)
    (replaced : a ∉ timersIn .replaced (before ++ t.record c))
    (cancelled : a ∉ timersIn .cancelled (before ++ t.record c)) :
    a ∈ timersIn .expired before := by
  rw [timersIn_append, List.mem_append, not_or] at replaced cancelled
  have pending : a ∉ t.pending := fun pending =>
    (h.distinct.revoked pending concerned).elim replaced.2 cancelled.2
  have fate := h.settled.mem_iff.mp armed
  simpa [pending, replaced.1, cancelled.1] using fate

/-- A timer that fires after a call that concerns it had been taken out before. -/
theorem Course.expired_of_fired_after {delay : Delay}
    (h : Course delay (before ++ .called c :: after) t due) (armed : a ∈ timersIn .armed before)
    (concerned : c.Concerns a.key) (fired : a ∈ timersIn .fired after) :
    a ∈ timersIn .expired before := by
  obtain ⟨u, waiting, earlier, later, noted⟩ := h.at_call rfl
  have expired : a ∈ timersIn .expired (before ++ .called c :: after) := by
    simp [h.balanced.awaiting, fired]
  have unrevoked := mt h.balanced.not_expired (not_not_intro expired)
  rw [← noted, ← List.append_assoc, timersIn_append, timersIn_append (l := before ++ _),
    not_or] at unrevoked
  exact earlier.balanced.expired_of_unrevoked armed concerned
    (mt (List.mem_append_left _) unrevoked.1) (mt (List.mem_append_left _) unrevoked.2)

/-! ### The tick that is under way -/

section UnderWay

variable {delay : Delay} {receive : TimerReceiver σ κ μ} {s : σ}
  {calls : List (TimerCall σ κ μ)} {call : TimerCall σ κ μ} {e : TimerEntry κ μ}
  {begun ahead : List (TimerEntry κ μ)}

/-- When the ledger of a run has come to `before`, `call` is under way: it has noted `begun`, and
`ahead` is what it notes from then on. -/
def UnderWay (receive : TimerReceiver σ κ μ) (t : LogicalTimers κ μ) (s : σ)
    (calls : List (TimerCall σ κ μ)) (before : List (TimerEntry κ μ)) (call : TimerCall σ κ μ)
    (begun ahead : List (TimerEntry κ μ)) : Prop :=
  ∃ earlier later, calls = earlier ++ call :: later ∧
    before = t.ledger receive s earlier ++ begun ∧
    (t.callAll receive s earlier).1.entries receive (t.callAll receive s earlier).2.1 call =
      begun ++ ahead

/-- Every entry of a ledger is noted by one of the calls of the run. -/
theorem exists_underWay (split : t.ledger receive s calls = before ++ e :: after) :
    ∃ call begun ahead, UnderWay receive t s calls before call begun (e :: ahead) ∧
      ahead <+: after := by
  induction calls generalizing t s before with
  | nil => simp [ledger] at split
  | cons first calls ih =>
      rcases Course.split_at split with ⟨ahead, noted, rfl⟩ | ⟨later, rfl, rest⟩
      · exact ⟨first, before, ahead, ⟨[], calls, rfl, rfl, noted⟩, List.prefix_append _ _⟩
      · obtain ⟨call, begun, ahead, ⟨between, last, rfl, rfl, noted⟩, follows⟩ := ih rest
        exact ⟨call, begun, ahead,
          ⟨first :: between, last, rfl, (List.append_assoc ..).symm, noted⟩, follows⟩

/-- A timer that has been taken out and has not fired waits for its turn in a tick, and gets it
before the tick ends: between two calls whatever was taken out has fired. -/
theorem UnderWay.fires
    (h : UnderWay receive (start delay) s calls before call begun (.called c :: ahead))
    (expired : a ∈ timersIn .expired before) (waits : a ∉ timersIn .fired before) :
    (∃ time, call = .tick time) ∧ a ∈ timersIn .expired begun ∧ a ∈ timersIn .fired ahead := by
  obtain ⟨earlier, later, rfl, rfl, noted⟩ := h
  have rest := course_ledger receive delay s earlier
  have rest' := noted ▸ rest.entries receive ((start delay).callAll receive s earlier).2.1 call
  simp only [timersIn_append, List.mem_append, not_or, rest.balanced.fired_eq] at expired waits
  have taken : a ∈ timersIn .expired begun := expired.resolve_left waits.1
  refine ⟨?_, taken, ?_⟩
  · cases call with
    | command c' =>
        obtain ⟨rfl, -⟩ := Course.record_of_called noted
        exact absurd taken List.not_mem_nil
    | tick time => exact ⟨time, rfl⟩
    | receiver s' => simp [entries] at noted
  · have fired : a ∈ timersIn .fired ((start delay).ledger receive s earlier ++
        (begun ++ .called c :: ahead)) := by
      simp [rest'.balanced.fired_eq, taken]
    simpa [rest.balanced.fired_eq, waits, TimerEntry.about?] using fired

/-- The tick that took a timer out fires it, whatever is called meanwhile. -/
theorem exists_tick_underWay
    (split : (start delay).ledger receive s calls = before ++ .called c :: after)
    (expired : a ∈ timersIn .expired before) (waits : a ∉ timersIn .fired before) :
    ∃ time begun ahead,
      UnderWay receive (start delay) s calls before (.tick time) begun (.called c :: ahead) ∧
        a ∈ timersIn .expired begun ∧ a ∈ timersIn .fired ahead ∧ ahead <+: after := by
  obtain ⟨call, begun, ahead, underWay, follows⟩ := exists_underWay split
  obtain ⟨⟨time, rfl⟩, taken, fired⟩ := underWay.fires expired waits
  exact ⟨time, begun, ahead, underWay, taken, fired, follows⟩

end UnderWay

/-- After a call that concerns it, a timer that has not fired yet fires exactly if a tick had
taken it out before the call, and then once and in that tick. -/
theorem fires_after_iff (delay : Delay) (receive : TimerReceiver σ κ μ) (s : σ)
    (calls : List (TimerCall σ κ μ))
    (split : (start delay).ledger receive s calls = before ++ .called c :: after)
    (armed : a ∈ timersIn .armed before) (concerned : c.Concerns a.key)
    (waits : a ∉ timersIn .fired before) :
    (a ∈ timersIn .fired after ↔ a ∈ timersIn .expired before) ∧ (timersIn .fired after).Nodup ∧
      (a ∈ timersIn .fired after → ∃ time begun ahead,
        UnderWay receive (start delay) s calls before (.tick time) begun (.called c :: ahead) ∧
          a ∈ timersIn .expired begun ∧ a ∈ timersIn .fired ahead ∧ ahead <+: after) ∧
      ((start delay).callAll receive s calls).2.2 =
        (before ++ .called c :: after).flatMap TimerEntry.events := by
  have course := split ▸ course_ledger receive delay s calls
  have taken (fired : a ∈ timersIn .fired after) : a ∈ timersIn .expired before :=
    course.expired_of_fired_after armed concerned fired
  refine ⟨⟨taken, fun expired => ?_⟩, ?_, fun fired => ?_, split ▸ events_callAll _ _ _⟩
  · obtain ⟨time, begun, ahead, -, -, fired, later, rfl⟩ := exists_tick_underWay split expired waits
    exact timersIn_append ▸ List.mem_append_left _ fired
  · have nodup := course.balanced.fired_nodup
    rw [timersIn_append, timersIn_cons] at nodup
    exact (List.nodup_append.mp nodup).2.1
  · exact exists_tick_underWay split (taken fired) waits

/-- Two timers with the same deadline. When the first one fires, the receiver cancels the second. -/
def meddling : List (TimerCall (Option Script) String Note) :=
  [.receiver (some ⟨.ofList [("first", [.cancel "b"])], 1⟩),
    .command (.set "a" ⟨"a", "first", ""⟩), .command (.set "b" ⟨"b", "second", ""⟩), .tick 100]

/-- Cancelled in time, the first timer never fires. Cancelled after the tick has taken it out, the
second fires in that tick. -/
theorem not_fired_once_cancelled :
    let ledger (calls : List (TimerCall (Option Script) String Note)) :=
      (start (.fixed (.ofMillis 100))).ledger Script.receive none calls
    let inTime := ledger (meddling.take 3 ++ [.command (.cancel "a"), .tick 100])
    let late := ledger meddling
    let first : Armed String Note := ⟨"a", ⟨"a", "first", ""⟩, 100, 0⟩
    let second : Armed String Note := ⟨"b", ⟨"b", "second", ""⟩, 100, 1⟩
    (first ∈ timersIn .armed (inTime.take 4) ∧ first ∉ timersIn .fired (inTime.drop 5)) ∧
      second ∈ timersIn .armed (late.take 8) ∧ second ∉ timersIn .fired (late.take 8) ∧
      ∃ time begun ahead,
        UnderWay Script.receive (start (.fixed (.ofMillis 100))) none meddling (late.take 8)
            (.tick time) begun (.called (.cancel "b") :: ahead) ∧
          second ∈ timersIn .expired begun ∧ second ∈ timersIn .fired ahead ∧
            ahead <+: late.drop 9 := by
  intro ledger inTime late first second
  have armed : first ∈ timersIn .armed (inTime.take 4) := by decide +kernel
  have split : inTime = inTime.take 4 ++ .called (.cancel "a") :: inTime.drop 5 := by
    decide +kernel
  have never := fires_after_iff (.fixed (.ofMillis 100)) Script.receive none _ split armed rfl
    (by decide +kernel)
  have armed' : second ∈ timersIn .armed (late.take 8) := by decide +kernel
  have waits : second ∉ timersIn .fired (late.take 8) := by decide +kernel
  have split' : late = late.take 8 ++ .called (.cancel "b") :: late.drop 9 := by decide +kernel
  have fires := fires_after_iff (.fixed (.ofMillis 100)) Script.receive none meddling split' armed'
    rfl waits
  exact ⟨⟨armed, mt never.1.mp (by decide +kernel)⟩, armed', waits,
    fires.2.2.1 (by decide +kernel)⟩

/-- The second timer fires although it is cancelled before its message is handed over. -/
theorem fired_though_cancelled :
    let ledger := (start (.fixed (.ofMillis 100))).ledger Script.receive none meddling
    ¬ ∀ before after a, ledger = before ++ .called (.cancel a.key) :: after →
      a ∈ timersIn .armed before → a ∉ timersIn .fired before → a ∉ timersIn .fired after := by
  intro ledger h
  exact h (ledger.take 8) (ledger.drop 9) ⟨"b", ⟨"b", "second", ""⟩, 100, 1⟩ (by decide +kernel)
    (by decide +kernel) (by decide +kernel) (by decide +kernel)

end LogicalTimers
end Vigil
