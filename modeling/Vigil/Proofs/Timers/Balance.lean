import Mathlib.Data.List.Nodup
import Vigil.Proofs.Timers.Ledger

/-!
The balance of a ledger of timers. Calls, expiry and handing over are the only moves of the timers
(`Course`), each may come at any point of a run, and each keeps the account of what has become of
every timer that was ever armed (`Balanced`). A run takes no other course (`course_ledger`),
whatever its receiver does.
-/

namespace Vigil

section Fates

variable {κ μ : Type} {f : Fate} {l l' : List (TimerEntry κ μ)}

@[simp] theorem timersIn_nil : timersIn f ([] : List (TimerEntry κ μ)) = [] := rfl

@[simp] theorem timersIn_append : timersIn f (l ++ l') = timersIn f l ++ timersIn f l' :=
  List.filterMap_append

@[simp] theorem timersIn_cons {e : TimerEntry κ μ} :
    timersIn f (e :: l) = (e.about? f).toList ++ timersIn f l := by
  unfold timersIn
  cases h : e.about? f <;> simp [h]

@[simp] theorem timersIn_map {g : Armed κ μ → TimerEntry κ μ} {as : List (Armed κ μ)} :
    timersIn f (as.map g) = as.filterMap fun a => (g a).about? f :=
  List.filterMap_map

end Fates

namespace LogicalTimers

section Account

variable {κ μ : Type} {t t' : LogicalTimers κ μ} {past new : List (TimerEntry κ μ)}
  {due due' : List (Armed κ μ)} {a : Armed κ μ}

/-- What has become of the timers that were armed, at a point of a run where those in `due` have
been taken out by a tick and wait for their turn. -/
structure Balanced (past : List (TimerEntry κ μ)) (t : LogicalTimers κ μ)
    (due : List (Armed κ μ)) : Prop where
  distinct : t.Distinct
  /-- Pending timers stand in the order in which they were armed. -/
  ordered : t.pending.Pairwise (·.seq < ·.seq)
  /-- Every request to set a timer has armed one. -/
  requested : past.filterMap TimerEntry.request? =
    (timersIn .armed past).map fun a => (a.key, a.message)
  numbered : (timersIn .armed past).map Armed.seq = List.range t.nextSeq
  /-- A timer that was armed is pending or has been replaced, cancelled or taken out: one of
  these, and once. -/
  settled : (timersIn .armed past).Perm
    (t.pending ++ timersIn .replaced past ++ timersIn .cancelled past ++ timersIn .expired past)
  /-- Timers fire in the order in which they were taken out, each once. -/
  awaiting : timersIn .expired past = timersIn .fired past ++ due

namespace Balanced

theorem nodup (h : Balanced past t due) : (timersIn .armed past).Nodup :=
  .of_map Armed.seq (h.numbered ▸ List.nodup_range)

/-- At rest what was taken out has fired. -/
theorem fired_eq (h : Balanced past t []) : timersIn .fired past = timersIn .expired past := by
  rw [h.awaiting, List.append_nil]

theorem atRest (h : Balanced past t []) :
    (timersIn .armed past).Perm (t.pending ++ timersIn .replaced past ++ timersIn .cancelled past ++
      timersIn .fired past) := by
  rw [h.fired_eq]
  exact h.settled

theorem seq_lt (h : Balanced past t due) (ha : a ∈ t.pending) : a.seq < t.nextSeq := by
  have armed : a ∈ timersIn .armed past := h.settled.mem_iff.mpr (by simp [ha])
  have number := List.mem_map_of_mem (f := Armed.seq) armed
  rwa [h.numbered, List.mem_range] at number

theorem start (delay : Delay) : Balanced [] (.start delay : LogicalTimers κ μ) [] where
  distinct := List.nodup_nil
  ordered := .nil
  requested := rfl
  numbered := rfl
  settled := .refl _
  awaiting := rfl

/-- New entries keep the balance if they account for what changes with them. -/
theorem extend (h : Balanced past t due) (distinct : t'.Distinct)
    (ordered : t'.pending.Pairwise (·.seq < ·.seq))
    (requested : new.filterMap TimerEntry.request? =
      (timersIn .armed new).map fun a => (a.key, a.message))
    (numbered : List.range t.nextSeq ++ (timersIn .armed new).map Armed.seq =
      List.range t'.nextSeq)
    (moved : (t.pending ++ timersIn .armed new).Perm
      (t'.pending ++ timersIn .replaced new ++ timersIn .cancelled new ++ timersIn .expired new))
    (awaiting : due ++ timersIn .expired new = timersIn .fired new ++ due') :
    Balanced (past ++ new) t' due' where
  distinct := distinct
  ordered := ordered
  requested := by
    rw [List.filterMap_append, h.requested, requested, timersIn_append, List.map_append]
  numbered := by rw [timersIn_append, List.map_append, h.numbered, numbered]
  settled := by
    -- a timer is on both sides as often as before, and as often as in what is new
    classical
    refine List.perm_iff_count.mpr fun b => ?_
    have before := h.settled.count_eq b
    have change := moved.count_eq b
    simp only [timersIn_append, List.count_append] at before change ⊢
    omega
  awaiting := by
    rw [timersIn_append, timersIn_append, h.awaiting, List.append_assoc, awaiting,
      List.append_assoc]

theorem note (h : Balanced past t due) {e : TimerEntry κ μ} (request : e.request? = none)
    (about : ∀ f, e.about? f = none) : Balanced (past ++ [e]) t due := by
  refine h.extend h.distinct h.ordered ?_ ?_ ?_ ?_ <;> simp [request, about]

theorem fire (h : Balanced past t (a :: due)) (now : Nat) (claimed : Bool) :
    Balanced (past ++ [.fired now a claimed]) t due := by
  refine h.extend h.distinct h.ordered ?_ ?_ ?_ ?_ <;>
    simp [TimerEntry.request?, TimerEntry.about?]

theorem expire (h : Balanced past t []) (time : Nat) :
    Balanced (past ++ t.recordExpiry time) (t.expire time).1 (t.expire time).2 := by
  have taken : t.pending.Perm ((t.expire time).1.pending ++ (t.expire time).2) :=
    (List.filter_append_perm _ _).symm.trans
      (List.perm_append_comm.trans ((orderBy_perm _ _).symm.append_left _))
  have next : (t.expire time).1.nextSeq = t.nextSeq := rfl
  refine h.extend (h.distinct.expire time) (h.ordered.filter _) ?_ ?_ ?_ ?_
  · simp [recordExpiry, TimerEntry.request?, TimerEntry.about?]
  · simp [recordExpiry, TimerEntry.about?, next]
  · simpa [recordExpiry, TimerEntry.about?] using taken
  · simp [recordExpiry, TimerEntry.about?]

end Balanced

variable [DecidableEq κ]

theorem Distinct.perm_without (h : t.Distinct) (k : κ) :
    t.pending.Perm ((t.without k).pending ++ (t.find? k).toList) := by
  obtain ⟨delay, now, next, l⟩ := t
  unfold Distinct at h
  unfold find? LogicalTimers.without
  dsimp only at h ⊢
  induction l with
  | nil => exact .refl _
  | cons b l ih =>
      rw [List.map_cons, List.nodup_cons] at h
      by_cases hk : b.key = k
      · have rest : l.filter (·.key != k) = l := by
          refine List.filter_eq_self.mpr fun c hc => ?_
          have different : c.key ≠ k := fun h' => h.1 (hk ▸ h' ▸ List.mem_map_of_mem hc)
          simpa using different
        simpa [hk, rest] using (List.perm_append_singleton b l).symm
      · simpa [hk] using ih h.2

/-- Whatever its deadline, a timer that is armed under the next number keeps the balance. -/
theorem Balanced.arm (h : Balanced past t due) (number : a.seq = t.nextSeq) :
    Balanced (past ++ .called (.set a.key a.message) ::
      ((t.find? a.key).toList.map .replaced ++ [.armed a])) (t.arm a) due := by
  have pending : (t.arm a).pending = (t.without a.key).pending ++ [a] := rfl
  have next : (t.arm a).nextSeq = t.nextSeq + 1 := rfl
  refine h.extend (h.distinct.arm a) ?_ ?_ ?_ ?_ ?_
  · rw [pending]
    refine List.pairwise_append.mpr ⟨h.ordered.filter _, List.pairwise_singleton _ _, ?_⟩
    intro b hb c hc
    rw [List.mem_singleton] at hc
    exact hc ▸ number ▸ h.seq_lt (List.mem_filter.mp hb).1
  · simp [TimerEntry.request?, TimerEntry.about?]
  · simp [TimerEntry.about?, next, List.range_succ, number]
  · simpa [TimerEntry.about?, pending] using
      ((h.distinct.perm_without a.key).append_right [a]).trans
        (by simpa using (List.perm_append_singleton _ _).append_left _)
  · simp [TimerEntry.about?]

variable [HasKind μ]

theorem Balanced.set (h : Balanced past t due) (k : κ) (m : μ) :
    Balanced (past ++ t.record (.set k m)) (t.set k m) due :=
  h.arm (a := t.armedBy k m) rfl

theorem Balanced.cancel (h : Balanced past t due) (k : κ) :
    Balanced (past ++ t.record (.cancel k)) (t.cancel k).1 due := by
  have pending : (t.cancel k).1.pending = (t.without k).pending := rfl
  refine h.extend (h.distinct.without k) (h.ordered.filter _) ?_ ?_ ?_ ?_
  · simp [record, TimerEntry.request?, TimerEntry.about?]
  · simp [record, TimerEntry.about?, LogicalTimers.cancel, LogicalTimers.without]
  · simpa [record, TimerEntry.about?, pending] using h.distinct.perm_without k
  · simp [record, TimerEntry.about?]

theorem Balanced.cancelAll (h : Balanced past t due) :
    Balanced (past ++ t.record .cancelAll) t.cancelAll.1 due := by
  refine h.extend List.nodup_nil .nil ?_ ?_ ?_ ?_ <;>
    simp [record, TimerEntry.request?, TimerEntry.about?, LogicalTimers.cancelAll]

theorem Balanced.apply (h : Balanced past t due) (c : TimerCommand κ μ) :
    Balanced (past ++ t.record c) (t.apply c).1 due := by
  cases c with
  | set k m => exact h.set k m
  | cancel k => exact h.cancel k
  | cancelAll => exact h.cancelAll

end Account

section Course

variable {κ μ σ : Type} [DecidableEq κ] [HasKind μ]

/-- The ways in which timers get from their start to a point of a run. A call may come from
outside or from a receiver in the middle of a tick; ticks do not overlap. -/
inductive Course (delay : Delay) :
    List (TimerEntry κ μ) → LogicalTimers κ μ → List (Armed κ μ) → Prop
  | start : Course delay [] (.start delay) []
  | call {past t due} (c : TimerCommand κ μ) :
      Course delay past t due → Course delay (past ++ t.record c) (t.apply c).1 due
  | expire {past t} (time : Nat) :
      Course delay past t [] →
        Course delay (past ++ t.recordExpiry time) (t.expire time).1 (t.expire time).2
  | fire {past t a due} (claimed : Bool) :
      Course delay past t (a :: due) → Course delay (past ++ [.fired t.now a claimed]) t due
  | refuse {past t due} (r : Refusal) :
      Course delay past t due → Course delay (past ++ [.refused r]) t due

variable {delay : Delay} {receive : TimerReceiver σ κ μ} {s : σ} {t : LogicalTimers κ μ}
  {past : List (TimerEntry κ μ)} {due : List (Armed κ μ)} {a : Armed κ μ}

namespace Course

theorem balanced (h : Course delay past t due) : Balanced past t due := by
  induction h with
  | start => exact .start delay
  | call c _ ih => exact ih.apply c
  | expire time _ ih => exact ih.expire time
  | fire claimed _ ih => exact ih.fire _ claimed
  | refuse r _ ih => exact ih.note rfl fun f => by cases f <;> rfl

theorem recordAll (h : Course delay past t due) (cs : List (TimerCommand κ μ)) :
    Course delay (past ++ t.recordAll cs) (t.applyAll cs).1 due := by
  induction cs generalizing past t with
  | nil => simpa [LogicalTimers.recordAll, applyAll] using h
  | cons c cs ih => simpa [LogicalTimers.recordAll, applyAll] using ih (h.call c)

theorem recordHandOver (receive : TimerReceiver σ κ μ) (h : Course delay past t (a :: due))
    (s : σ) :
    Course delay (past ++ t.recordHandOver receive s a) (t.handOver receive s a).1 due := by
  unfold LogicalTimers.recordHandOver handOver
  rcases receive s a.key a.message with ⟨s', _ | ⟨commands, _ | r⟩⟩
  · simpa [LogicalTimers.recordAll, applyAll] using h.fire false
  · simpa using (h.fire true).recordAll commands
  · simpa using ((h.fire true).recordAll commands).refuse r

theorem recordHandOverAll {first : List (Armed κ μ)} (receive : TimerReceiver σ κ μ)
    (h : Course delay past t (first ++ due)) (s : σ) :
    Course delay (past ++ t.recordHandOverAll receive s first)
      (t.handOverAll receive s first).1 due := by
  induction first generalizing past t s with
  | nil => simpa [LogicalTimers.recordHandOverAll, handOverAll] using h
  | cons a first ih =>
      simpa [LogicalTimers.recordHandOverAll, handOverAll] using
        ih (h.recordHandOver receive s) _

theorem recordTick (receive : TimerReceiver σ κ μ) (h : Course delay past t []) (s : σ)
    (time : Nat) :
    Course delay (past ++ t.recordTick receive s time) (t.tick receive s time).1 [] := by
  have expired := h.expire time
  rw [← List.append_nil (t.expire time).2] at expired
  simpa [LogicalTimers.recordTick, tick] using expired.recordHandOverAll receive s

theorem entries (receive : TimerReceiver σ κ μ) (h : Course delay past t []) (s : σ)
    (c : TimerCall σ κ μ) :
    Course delay (past ++ t.entries receive s c) (t.call receive s c).1 [] := by
  cases c with
  | command c => exact h.call c
  | tick time => exact h.recordTick receive s time
  | receiver s' => simpa [LogicalTimers.entries, LogicalTimers.call] using h

theorem ledger (h : Course delay past t []) (s : σ) (cs : List (TimerCall σ κ μ)) :
    Course delay (past ++ t.ledger receive s cs) (t.callAll receive s cs).1 [] := by
  induction cs generalizing past t s with
  | nil => simpa [LogicalTimers.ledger, callAll] using h
  | cons c cs ih => simpa [LogicalTimers.ledger, callAll] using ih (h.entries receive s c) _

omit [DecidableEq κ] [HasKind μ] in
/-- A call that is noted in the earlier or in the later part of a ledger. -/
theorem split_at {new before after : List (TimerEntry κ μ)} {e : TimerEntry κ μ}
    (split : past ++ new = before ++ e :: after) :
    (∃ after', past = before ++ e :: after' ∧ after = after' ++ new) ∨
      ∃ before', before = past ++ before' ∧ new = before' ++ e :: after := by
  rcases List.append_eq_append_iff.mp split with ⟨b, hb, rest⟩ | ⟨b, hb, rest⟩
  · exact .inr ⟨b, hb, rest⟩
  · cases b with
    | nil => exact .inr ⟨[], by simpa using hb.symm, by simpa using rest.symm⟩
    | cons d b =>
        rw [List.cons_append, List.cons.injEq] at rest
        obtain ⟨rfl, rfl⟩ := rest
        exact .inl ⟨b, hb, rfl⟩

/-- A call is noted first, and no other call with it. -/
theorem record_of_called {before after : List (TimerEntry κ μ)} {c c' : TimerCommand κ μ}
    (h : t.record c' = before ++ .called c :: after) : before = [] ∧ c' = c := by
  unfold record at h
  cases before with
  | nil =>
      rw [List.nil_append, List.cons.injEq, TimerEntry.called.injEq] at h
      exact ⟨rfl, h.1⟩
  | cons e before =>
      rw [List.cons_append, List.cons.injEq] at h
      have later : TimerEntry.called c ∈ before ++ .called c :: after := by simp
      rw [← h.2] at later
      cases c' <;> simp at later

omit [HasKind μ] [DecidableEq κ] in
theorem split_of_silent {new before after : List (TimerEntry κ μ)} {c : TimerCommand κ μ}
    (silent : ∀ c, TimerEntry.called c ∉ new)
    (split : past ++ new = before ++ .called c :: after) :
    ∃ after', past = before ++ .called c :: after' ∧ after = after' ++ new := by
  rcases split_at split with earlier | ⟨b, _, rest⟩
  · exact earlier
  · exact absurd (by simp [rest]) (silent c)

/-- Wherever a ledger notes a call, the timers were in some state then, and what follows in it
begins with what the call did to them. -/
theorem at_call (h : Course delay past t due) {before after : List (TimerEntry κ μ)}
    {c : TimerCommand κ μ} (split : past = before ++ .called c :: after) :
    ∃ t' due', Course delay before t' due' ∧ t'.record c <+: .called c :: after := by
  -- only a call notes a call; whatever else happens lengthens what follows
  induction h generalizing after with
  | start => simp at split
  | call c' earlier ih =>
      rcases split_at split with ⟨after, older, rfl⟩ | ⟨b, begun, rest⟩
      · obtain ⟨t', due', at', found⟩ := ih older
        exact ⟨t', due', at', found.trans (List.prefix_append _ _)⟩
      · obtain ⟨rfl, rfl⟩ := record_of_called rest
        rw [List.append_nil] at begun
        exact ⟨_, _, begun ▸ earlier, by simp [rest]⟩
  | expire time _ ih =>
      obtain ⟨after, older, rfl⟩ := split_of_silent (by simp [recordExpiry]) split
      obtain ⟨t', due', at', found⟩ := ih older
      exact ⟨t', due', at', found.trans (List.prefix_append _ _)⟩
  | fire claimed _ ih =>
      obtain ⟨after, older, rfl⟩ := split_of_silent (by simp) split
      obtain ⟨t', due', at', found⟩ := ih older
      exact ⟨t', due', at', found.trans (List.prefix_append _ _)⟩
  | refuse r _ ih =>
      obtain ⟨after, older, rfl⟩ := split_of_silent (by simp) split
      obtain ⟨t', due', at', found⟩ := ih older
      exact ⟨t', due', at', found.trans (List.prefix_append _ _)⟩

end Course

theorem course_ledger (receive : TimerReceiver σ κ μ) (delay : Delay) (s : σ)
    (cs : List (TimerCall σ κ μ)) :
    Course delay ((start delay : LogicalTimers κ μ).ledger receive s cs)
      ((start delay).callAll receive s cs).1 [] := by
  have begun : Course delay [] (start delay : LogicalTimers κ μ) [] := .start
  simpa using begun.ledger s cs

end Course
end LogicalTimers
end Vigil
