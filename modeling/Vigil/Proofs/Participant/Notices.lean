import Vigil.Proofs.Machine.Announcements
import Vigil.Proofs.Participant.Affairs

/-!
What listeners are told. Every listener is told of every transition as often as it is registered,
and of the transitions that arise at once in their order. But a call back that brings new
transitions tells of them first, so a listener can count on hearing all transitions in the order in
which they arose only where nothing arises while it has yet to be told of something (`Prompt`).
-/

namespace Vigil

section Owed

variable {name : String} {t : Transition} {notices later : List (String × Transition)}

/-- What notices tell a listener. -/
def owed (name : String) (notices : List (String × Transition)) : List Transition :=
  notices.filterMap fun notice => if notice.1 = name then some notice.2 else none

@[simp] theorem owed_nil : owed name [] = [] := rfl

theorem owed_cons {listener : String} : owed name ((listener, t) :: notices) =
    if listener = name then t :: owed name notices else owed name notices := by
  by_cases h : listener = name <;> simp [owed, h]

theorem owed_append : owed name (notices ++ later) = owed name notices ++ owed name later :=
  List.filterMap_append

theorem owed_round (name : String) (t : Transition) (names : List String) :
    owed name (names.map fun listener => (listener, t)) =
      List.replicate (names.count name) t := by
  induction names with
  | nil => rfl
  | cons listener names ih =>
      rw [List.map_cons, owed_cons, ih]
      by_cases h : listener = name
      · rw [if_pos h, h, List.count_cons_self]
        rfl
      · rw [if_neg h, List.count_cons_of_ne h]

theorem owed_notices (r : Registry) (ts : List Transition) (name : String) :
    owed name (r.notices ts) = ts.flatMap fun t => List.replicate (r.toList.count name) t := by
  induction ts with
  | nil => rfl
  | cons t ts ih =>
      have split : r.notices (t :: ts) =
          (r.toList.map fun listener => (listener, t)) ++ r.notices ts := rfl
      rw [split, owed_append, owed_round, ih, List.flatMap_cons]

theorem count_owed_notices (r : Registry) (ts : List Transition) (name : String) (t : Transition) :
    (owed name (r.notices ts)).count t = r.toList.count name * ts.count t := by
  rw [owed_notices]
  induction ts with
  | nil => rfl
  | cons t' ts ih =>
      rw [List.flatMap_cons, List.count_append, ih, List.count_replicate, List.count_cons,
        Nat.mul_add]
      split <;> simp [Nat.add_comm]

/-- A listener that is registered once is owed each transition once, in order. -/
theorem owed_notices_once {r : Registry} (once : r.toList.count name = 1) (ts : List Transition) :
    owed name (r.notices ts) = ts := by
  rw [owed_notices, once]
  exact List.flatMap_singleton' ts

end Owed

section Hearing

variable {outlet : Outlet} {registry : Registry} {m m' : Machine} {name : String} {n k : Nat}
  {notices : List (String × Transition)} {es es' : List Effect} {ts : List Transition}

theorem Conduct.count_heard (h : Conduct outlet registry m notices es m') (name : String)
    (t : Transition) :
    (heard name es).count t =
      (owed name notices).count t + registry.toList.count name * (arisen es).count t := by
  induction h with
  | done => rfl
  | tell listener t' _ ih =>
      rw [heard_told, owed_cons, arisen_told]
      split
      · rw [List.count_cons, List.count_cons, ih]
        omega
      · exact ih
  | aside quiet _ ih => rwa [quiet.heard_cons, quiet.arisen_cons]
  | handle e _ _ inner ih =>
      simp only [heard_took, heard_arose, heard_append, arisen_took, arisen_arose, arisen_append,
        List.count_append, ih, inner, count_owed_notices, Nat.mul_add]
      omega

/-- Nothing arises while a listener, which `n` transitions have yet to reach at the beginning, has
yet to be told of anything. -/
def PromptFrom (name : String) (n : Nat) (es : List Effect) : Prop :=
  ∀ before ts after, es = before ++ .arose ts :: after → ts ≠ [] →
    (heard name before).length = n + (arisen before).length

/-- Whenever something arises, the listener has been told of all that arose before. -/
def Prompt (name : String) (es : List Effect) : Prop :=
  ∀ before ts after, es = before ++ .arose ts :: after → ts ≠ [] →
    (heard name before).length = (arisen before).length

theorem prompt_iff : Prompt name es ↔
    ∀ i < es.length, es[i]?.elim [] Effect.news ≠ [] →
      (heard name (es.take i)).length = (arisen (es.take i)).length := by
  constructor
  · intro h i hi news
    rw [List.getElem?_eq_getElem hi] at news
    cases he : es[i] with
    | arose ts =>
        rw [he] at news
        refine h _ ts (es.drop (i + 1)) ?_ news
        rw [← he, List.cons_getElem_drop_succ, List.take_append_drop]
    | _ =>
        rw [he] at news
        exact absurd rfl news
  · rintro h before ts after rfl news
    simpa [Effect.news, news] using h before.length (by simp)

instance : Decidable (Prompt name es) := decidable_of_iff _ prompt_iff.symm

theorem promptFrom_zero : PromptFrom name 0 es ↔ Prompt name es := by
  simp only [PromptFrom, Prompt, Nat.zero_add]

theorem PromptFrom.before (h : PromptFrom name n (es ++ es')) : PromptFrom name n es := by
  rintro before ts after rfl
  exact h before ts (after ++ es') (by simp)

theorem PromptFrom.after (es : List Effect) (h : PromptFrom name n (es ++ es'))
    (rest : (heard name es).length + k = n + (arisen es).length) : PromptFrom name k es' := by
  rintro before ts after rfl news
  have prompt := h (es ++ before) ts after (by simp) news
  simp only [heard_append, arisen_append, List.length_append] at prompt
  omega

theorem PromptFrom.told {listener : String} {t : Transition}
    (h : PromptFrom name (n + (owed name ((listener, t) :: notices)).length)
      (.told listener t :: es)) :
    PromptFrom name (n + (owed name notices).length) es := by
  refine PromptFrom.after [.told listener t] h ?_
  rw [heard_told, owed_cons]
  split
  · simp
    omega
  · simp

theorem PromptFrom.aside {e : Effect} (quiet : e.Aside) (h : PromptFrom name n (e :: es)) :
    PromptFrom name n es :=
  PromptFrom.after [e] h (by
    rw [quiet.heard_cons, quiet.arisen_cons]
    exact Nat.zero_add n)

theorem PromptFrom.took {e : Envelope Signal} (h : PromptFrom name n (.took e :: es)) :
    PromptFrom name n es :=
  PromptFrom.after [.took e] h (Nat.zero_add n)

section Once

variable (once : registry.toList.count name = 1)
include once

theorem Conduct.heard_perm (h : Conduct outlet registry m notices es m') :
    (heard name es).Perm (owed name notices ++ arisen es) :=
  List.perm_iff_count.mpr fun t => by
    rw [h.count_heard name, once, Nat.one_mul, List.count_append]

theorem Conduct.length_heard (h : Conduct outlet registry m notices es m') :
    (heard name es).length = (owed name notices).length + (arisen es).length := by
  rw [(h.heard_perm once).length_eq, List.length_append]

/-- Nothing is left to hear where transitions arise. While the notices of a round are given it is
they, and afterwards what was left before. -/
theorem PromptFrom.round {inner : List Effect}
    (h : PromptFrom name n (.arose ts :: (inner ++ es)))
    (done : Conduct outlet registry m (registry.notices ts) inner m') :
    (ts = [] ∨ n = 0) ∧ PromptFrom name (n + (owed name (registry.notices ts)).length) inner ∧
      PromptFrom name n es := by
  have told := done.length_heard once
  rw [owed_notices_once once] at told ⊢
  refine ⟨?_, (PromptFrom.after [.arose ts] h (by simp)).before,
    PromptFrom.after (.arose ts :: inner) h ?_⟩
  · by_cases news : ts = []
    · exact .inl news
    · exact .inr (h [] ts _ rfl news).symm
  · simp only [heard_arose, arisen_arose, List.length_append]
    omega

theorem Conduct.arisen_eq_nil (h : Conduct outlet registry m notices es m') (behind : 0 < n)
    (prompt : PromptFrom name (n + (owed name notices).length) es) : arisen es = [] := by
  induction h generalizing n with
  | done => rfl
  | tell listener t _ ih => exact ih behind prompt.told
  | aside quiet _ ih => exact quiet.arisen_cons.trans (ih behind (prompt.aside quiet))
  | handle e done _ inner ih =>
      obtain ⟨news | nothing, within, later⟩ := (prompt.took).round once done
      · simp [news, inner (by omega) within, ih behind later]
      · omega

/-- A listener that is prompt hears first what it is owed, and then what arises, in order. -/
theorem Conduct.heard_eq (h : Conduct outlet registry m notices es m')
    (prompt : PromptFrom name (n + (owed name notices).length) es) :
    heard name es = owed name notices ++ arisen es := by
  induction h generalizing n with
  | done => rfl
  | tell listener t _ ih =>
      rw [heard_told, owed_cons, arisen_told, ih prompt.told]
      split <;> rfl
  | aside quiet _ ih => rw [quiet.heard_cons, quiet.arisen_cons, ih (prompt.aside quiet)]
  | @handle m _ _ notices inner _ e done _ ihInner ih =>
      obtain ⟨either, within, later⟩ := prompt.took.round once done
      have first := ihInner within
      rw [owed_notices_once once] at first
      -- either nothing is left to hear, or neither the round nor its calls bring anything
      have apart : owed name notices = [] ∨
          (m.handle outlet e).2.transitions = [] ∧ arisen inner = [] := by
        rcases either with news | nothing
        · rcases Nat.eq_zero_or_pos (owed name notices).length with none | behind
          · exact .inl (List.eq_nil_of_length_eq_zero none)
          · exact .inr ⟨news, done.arisen_eq_nil once (by omega) within⟩
        · exact .inl (List.eq_nil_of_length_eq_zero (by omega))
      simp only [heard_took, heard_arose, heard_append, arisen_took, arisen_arose, arisen_append,
        first, ih later]
      obtain none | ⟨news, calm⟩ := apart
      · simp [none]
      · simp [news, calm]

end Once

/-! ### Rounds without calls -/

theorem Conduct.not_arose (h : Conduct outlet registry m notices es m') (calm : taken es = [])
    (ts : List Transition) : .arose ts ∉ es := by
  induction h with
  | done => exact List.not_mem_nil
  | tell listener t _ ih => simpa using ih calm
  | @aside _ _ _ _ e quiet _ ih =>
      rw [quiet.taken_cons] at calm
      rw [List.mem_cons, not_or]
      refine ⟨?_, ih calm⟩
      rintro rfl
      exact quiet
  | handle => cases calm

theorem Conduct.not_arose_of_single {e : Envelope Signal}
    (h : Conduct outlet registry m notices (.took e :: .arose ts :: es) m') (single : taken es = [])
    (ts' : List Transition) : .arose ts' ∉ es := by
  cases h with
  | aside quiet _ => exact quiet.elim
  | handle e inner later =>
      rw [taken_append, List.append_eq_nil_iff] at single
      rw [List.mem_append, not_or]
      exact ⟨inner.not_arose single.1 ts', later.not_arose single.2 ts'⟩

theorem promptFrom_arose (later : ∀ ts, .arose ts ∉ es) : PromptFrom name 0 (.arose ts :: es) := by
  rintro before ts' after split -
  cases before with
  | nil => rfl
  | cons e before =>
      rw [List.cons_append, List.cons.injEq] at split
      exact absurd (by simp [split.2]) (later ts')

theorem PromptFrom.cons_took {e : Envelope Signal} (h : PromptFrom name n es) :
    PromptFrom name n (.took e :: es) := by
  intro before ts after split news
  cases before with
  | nil => cases split
  | cons e' before =>
      rw [List.cons_append, List.cons.injEq] at split
      obtain ⟨rfl, rfl⟩ := split
      exact h before ts after rfl news

theorem PromptFrom.append (h : PromptFrom name 0 es) (h' : PromptFrom name 0 es')
    (even : (heard name es).length = (arisen es).length) : PromptFrom name 0 (es ++ es') := by
  intro before ts after split news
  rcases List.append_eq_append_iff.mp split with ⟨b, rfl, rest⟩ | ⟨b, rfl, rest⟩
  · have prompt := h' b ts after rest news
    simp only [heard_append, arisen_append, List.length_append]
    omega
  · cases b with
    | nil => simpa using even
    | cons e b =>
        rw [List.cons_append, List.cons.injEq] at rest
        exact h before ts b (by rw [rest.1]) news

end Hearing
/-! ### Runs -/

namespace Machine

variable {m : Machine} {outlet : Outlet} {es : List (Envelope Signal)}

theorem recounts_handleEach (outlet : Outlet) (h : m.Current)
    (retains : ∀ e ∈ es, e.Retains m.detector.cluster.members) :
    Recounts m.detector.failed ((m.handleEach outlet es).2.map .announced)
        (m.handleEach outlet es).1.detector.failed ∧
      (m.handleEach outlet es).1.Current := by
  induction es generalizing m with
  | nil => exact ⟨.nil _, h⟩
  | cons e es ih =>
      rw [List.forall_mem_cons] at retains
      have rest := ih (h.handle outlet retains.1) (by
        rw [m.cluster_handle outlet e]
        exact retains.2)
      simp only [handleEach, List.map_append]
      exact ⟨(recounts_handle outlet h retains.1).append rest.1, rest.2⟩

end Machine

namespace Affair

/-- The affair is a message, a tick, a change of the listeners or that the members have grown. -/
def Adds : Affair → Prop
  | message _ | tick _ | enlist _ | dismiss _ => True
  | operate .syncMembers | operate (.changeCluster (.join _)) => True
  | operate _ => False

instance : DecidablePred Adds
  | message _ | tick _ | enlist _ | dismiss _ => inferInstanceAs (Decidable True)
  | operate .syncMembers | operate (.changeCluster (.join _)) => inferInstanceAs (Decidable True)
  | operate .forgetFailures | operate (.heardFrom _) | operate (.suspect _)
  | operate (.receiveReport _ _) | operate (.depart _) | operate .checkMembers
  | operate .takePending | operate (.armTimers _) | operate .disarmTimers
  | operate (.setTimer _ _) | operate (.cancelTimer _) | operate (.changeCluster (.leave _))
  | operate (.changeCluster (.elect _ _)) | operate (.changeCluster (.unelect _)) =>
    inferInstanceAs (Decidable False)

theorem recounts_opening {m : Machine} {a : Affair} (h : m.Current) (adds : a.Adds) :
    Recounts m.detector.failed ((a.opening m).2.map .announced) (a.opening m).1.detector.failed ∧
      (a.opening m).1.Current := by
  unfold Adds at adds
  split at adds
  · exact ⟨.nil _, h⟩
  · exact ⟨.nil _, h.pending, h.unreported⟩
  · exact ⟨.nil _, h⟩
  · exact ⟨.nil _, h⟩
  · exact ⟨Machine.recounts_of_announces h m.detector.announces_syncMembers, h.sync⟩
  · rename_i id
    have same : m.detector.Announces (m.detector.changeCluster (.join id)).1 := .refl m.detector
    exact ⟨Machine.recounts_of_announces h same, rfl, h.unreported⟩
  · exact adds.elim

end Affair

namespace Participant

variable {p : Participant} {a : Affair} {name : String} {affairs : List Affair}

/-- The transitions that the machine brings forth in a run, in order. -/
def produced (p : Participant) : List Affair → List Transition
  | [] => []
  | a :: as =>
    let (m, ts) := a.opening p.machine
    ts ++ (m.handleEach p.outlet (taken (p.undergo a).2)).2 ++ (p.undergo a).1.produced as

/-- Nobody departs in a run: members join only, no message makes this instance leave, and none is
the time-out of an instance that is no member. -/
def Retains (p : Participant) : List Affair → Prop
  | [] => True
  | a :: as =>
    a.Adds ∧
      (∀ e ∈ taken (p.undergo a).2, e.Retains (a.opening p.machine).1.detector.cluster.members) ∧
      (p.undergo a).1.Retains as

instance decidableRetains : (p : Participant) → (affairs : List Affair) →
    Decidable (p.Retains affairs)
  | _, [] => inferInstanceAs (Decidable True)
  | p, a :: as =>
    have := decidableRetains (p.undergo a).1 as
    inferInstanceAs (Decidable (_ ∧ _ ∧ _))

theorem arisen_undergoAll (p : Participant) (affairs : List Affair) :
    arisen (p.undergoAll affairs).2 = p.produced affairs := by
  induction affairs generalizing p with
  | nil => rfl
  | cons a affairs ih => simp [undergoAll_cons, produced, ih, (p.machine_undergo a).2]

theorem count_heard_undergo (p : Participant) (a : Affair) (name : String) (t : Transition) :
    (heard name (p.undergo a).2).count t =
      p.registry.toList.count name * (arisen (p.undergo a).2).count t := by
  obtain ⟨es, conduct, form⟩ := (p.undergo_conducts a).conduct
  have told := conduct.count_heard name t
  rw [count_owed_notices, ← Nat.mul_add, ← List.count_append] at told
  rcases form with form | ⟨none, form⟩
  · simpa [form] using told
  · simpa [form, none] using told

/-- Nobody registers the listener or takes it off the register. -/
def Stays (name : String) (affairs : List Affair) : Prop :=
  ∀ a ∈ affairs, a ≠ .enlist name ∧ a ≠ .dismiss name

instance : Decidable (Stays name affairs) := List.decidableBAll _ affairs

theorem Stays.count_undergo (h : Stays name (a :: affairs)) :
    (p.undergo a).1.registry.toList.count name = p.registry.toList.count name := by
  obtain ⟨enlist, dismiss⟩ := h a List.mem_cons_self
  rw [(p.undergo_conducts a).registry_eq, Affair.count_enrolled enlist dismiss]

theorem Stays.rest (h : Stays name (a :: affairs)) : Stays name affairs :=
  fun b hb => h b (List.mem_cons_of_mem a hb)

theorem count_heard_undergoAll (stays : Stays name affairs) (t : Transition) :
    (heard name (p.undergoAll affairs).2).count t =
      p.registry.toList.count name * (p.produced affairs).count t := by
  rw [← arisen_undergoAll]
  induction affairs generalizing p with
  | nil => rfl
  | cons a affairs ih =>
      simp only [undergoAll_cons, heard_append, arisen_append, List.count_append, ih stays.rest,
        Nat.mul_add, p.count_heard_undergo, stays.count_undergo]

theorem heard_undergo (once : p.registry.toList.count name = 1)
    (prompt : PromptFrom name 0 (p.undergo a).2) :
    heard name (p.undergo a).2 = arisen (p.undergo a).2 := by
  obtain ⟨es, conduct, form⟩ := (p.undergo_conducts a).conduct
  have round := owed_notices_once once (a.opening p.machine).2
  rcases form with form | ⟨none, form⟩
  · rw [form] at prompt ⊢
    have later := PromptFrom.after [.arose _] prompt (k := (a.opening p.machine).2.length)
      (by simp)
    have told := conduct.heard_eq once (n := 0) (by rwa [round, Nat.zero_add])
    rw [heard_arose, told, round, arisen_arose]
  · rw [form] at prompt ⊢
    have told := conduct.heard_eq once (n := 0) (by rwa [round, none])
    rw [told, round, none, List.nil_append]

theorem heard_undergoAll (once : p.registry.toList.count name = 1) (stays : Stays name affairs)
    (prompt : PromptFrom name 0 (p.undergoAll affairs).2) :
    heard name (p.undergoAll affairs).2 = p.produced affairs := by
  rw [← arisen_undergoAll]
  induction affairs generalizing p with
  | nil => rfl
  | cons a affairs ih =>
      rw [undergoAll_cons] at prompt ⊢
      have first := heard_undergo once prompt.before
      have later := ih (stays.count_undergo.trans once) stays.rest
        (prompt.after _ (by rw [first]; omega))
      rw [heard_append, arisen_append, first, later]

section Silence

variable {e : Envelope Signal} {es : List (Envelope Signal)} (silent : p.calls = 0)
include silent

theorem promptFrom_handle : PromptFrom name 0 (p.handle e).2 := by
  obtain ⟨ts, es, effects⟩ := handleWithin_effects p.calls p e
  have cost := calls_handleWithin p.calls p e
  have conduct := (gives_handleWithin p.calls p e).conduct
  rw [effects] at cost conduct
  rw [taken_took, taken_arose, List.length_cons, silent] at cost
  have single : taken es = [] := List.eq_nil_of_length_eq_zero (by omega)
  rw [handle, effects]
  exact (promptFrom_arose (conduct.not_arose_of_single single)).cons_took

variable (once : p.registry.toList.count name = 1)
include once

theorem promptFrom_handleAll : PromptFrom name 0 (p.handleAll es).2 := by
  induction es generalizing p with
  | nil => exact fun before ts after split => by simp [handleAll] at split
  | cons e es ih =>
      have gives := p.gives_handle e
      have left := calls_handleWithin_le p.calls p e
      refine (promptFrom_handle silent).append (ih ?_ (gives.registry_eq ▸ once)) ?_
      · exact Nat.eq_zero_of_le_zero (silent ▸ left)
      · rw [gives.conduct.length_heard once, owed_nil, List.length_nil, Nat.zero_add]

theorem promptFrom_undergo : PromptFrom name 0 (p.undergo a).2 := by
  cases a with
  | message e => exact promptFrom_handle silent
  | tick time =>
      exact promptFrom_handleAll (p := { p with machine := (p.machine.expire time).1 }) silent once
  | operate op =>
      let begun : Participant := { p with machine := (Affair.opening p.machine (.operate op)).1 }
      have gives := gives_tellAll (p := begun) (gives_handleWithin begun.calls)
        (Affair.opening p.machine (.operate op)).2
      exact promptFrom_arose (gives.conduct.not_arose (taken_operate_of_silent silent op))
  | enlist _ | dismiss _ => exact fun before ts after split => by simp [undergo] at split

theorem prompt_of_silent (stays : Stays name affairs) : Prompt name (p.undergoAll affairs).2 := by
  rw [← promptFrom_zero]
  induction affairs generalizing p with
  | nil => exact fun before ts after split => by simp [undergoAll] at split
  | cons a affairs ih =>
      have rest := ih (Nat.eq_zero_of_le_zero (silent ▸ p.calls_undergo_le a))
        (stays.count_undergo.trans once) stays.rest
      exact (promptFrom_undergo silent once).append rest (by
        rw [heard_undergo once (promptFrom_undergo silent once)])

end Silence

theorem recounts_undergo (h : p.machine.Current) (adds : a.Adds)
    (retains : ∀ e ∈ taken (p.undergo a).2,
      e.Retains (a.opening p.machine).1.detector.cluster.members) :
    Recounts p.machine.detector.failed ((arisen (p.undergo a).2).map .announced)
        (p.undergo a).1.machine.detector.failed ∧
      (p.undergo a).1.machine.Current := by
  obtain ⟨opened, current⟩ := Affair.recounts_opening h adds
  obtain ⟨handled, done⟩ := Machine.recounts_handleEach p.outlet current retains
  rw [(p.machine_undergo a).1, (p.machine_undergo a).2, List.map_append]
  exact ⟨opened.append handled, done⟩

theorem recounts_undergoAll (h : p.machine.Current) (retains : p.Retains affairs) :
    Recounts p.machine.detector.failed ((p.produced affairs).map .announced)
      (p.undergoAll affairs).1.machine.detector.failed := by
  induction affairs generalizing p with
  | nil => exact .nil _
  | cons a affairs ih =>
      obtain ⟨adds, each, later⟩ := retains
      obtain ⟨recounts, current⟩ := recounts_undergo h adds each
      have rest := recounts.append (ih current later)
      rw [← arisen_undergoAll, ← List.map_append] at rest
      rw [← arisen_undergoAll]
      simpa [undergoAll_cons] using rest

/-- A listener that is registered once, and stays so while others may come and go, hears of every
transition once. It hears them in the order in which the machine brings them forth if nothing arises
while it has yet to be told of something, as is so where no listener calls the machine. In runs from
the start in which nobody departs, it hears of one more failure than return of exactly those who are
failed, and if it is prompt, what it has heard last of an instance is its failure exactly if the
instance is failed. -/
theorem heard_in_order (p : Participant) (affairs : List Affair) (name : String)
    (once : p.registry.toList.count name = 1) (stays : Stays name affairs) :
    let r := p.undergoAll affairs
    (heard name r.2).Perm (p.produced affairs) ∧
      (Prompt name r.2 → heard name r.2 = p.produced affairs) ∧
      (p.calls = 0 → Prompt name r.2) ∧
      ∀ cluster timers, p.machine = .start (.start cluster timers) → p.Retains affairs → ∀ id,
        (heard name r.2).count (.failed id) =
            (heard name r.2).count (.alive id) +
              (if id ∈ r.1.machine.detector.failed then 1 else 0) ∧
          (Prompt name r.2 →
            (((heard name r.2).filter (·.subject == id)).getLast? = some (.failed id) ↔
              id ∈ r.1.machine.detector.failed)) := by
  intro r
  have counts (t : Transition) : (heard name r.2).count t = (p.produced affairs).count t := by
    rw [count_heard_undergoAll stays, once, Nat.one_mul]
  have order (prompt : Prompt name r.2) : heard name r.2 = p.produced affairs :=
    heard_undergoAll once stays (promptFrom_zero.mpr prompt)
  refine ⟨List.perm_iff_count.mpr counts, order, fun silent => prompt_of_silent silent once stays,
    fun cluster timers fresh retains id => ?_⟩
  have current : p.machine.Current := fresh ▸ .start cluster timers
  have recounts := recounts_undergoAll current retains
  have nobody : p.machine.detector.failed = ∅ := by rw [fresh]; rfl
  rw [nobody] at recounts
  refine ⟨?_, fun prompt => ?_⟩
  · rw [counts, counts]
    simpa using recounts.count_failed id
  · rw [order prompt, recounts.mem_iff_last id]
    cases ((p.produced affairs).filter (·.subject == id)).getLast? <;> simp

/-- The first instance of three. When its first listener hears that somebody has failed, it has the
machine handle a heartbeat of the third instance; the second listener only listens. -/
def interrupting : Participant where
  machine := .start (.start (.ofMembers 1 [1, 2, 3]) (.start (.fixed (.ofMillis 1000))))
  outlet := .taking
  registry := ⟨["a", "b"]⟩
  watchers := .ofList [("a", ⟨some .failed, .handle (.internal (.iAmAlive 3)) 1⟩)]

def thirdAccused : List Affair :=
  [.internal .join, .internal (.timedOut 3),
    (Envelope.internal (.suspicions (.ofList [3]))).setHeader Header.sender "2"].map .message

/-- The first listener is prompt, and hears the failure of the third instance and then its return.
-/
theorem first_listener_hears_in_order :
    let r := interrupting.undergoAll thirdAccused
    heard "a" r.2 = [.failed 3, .alive 3] ∧
      (((heard "a" r.2).filter (·.subject == 3)).getLast? = some (.failed 3) ↔
        3 ∈ r.1.machine.detector.failed) := by
  intro r
  have prompt : Prompt "a" r.2 := by decide +kernel
  have told := heard_in_order interrupting thirdAccused "a" (by decide) (by decide)
  refine ⟨(told.2.1 prompt).trans (by decide +kernel), ?_⟩
  exact (told.2.2.2 _ _ rfl (by decide +kernel) 3).2 prompt

/-- The second listener hears of the return first. What it has heard last is that the third
instance has failed, and nobody is failed. -/
theorem second_listener_hears_in_reverse :
    let r := interrupting.undergoAll thirdAccused
    heard "b" r.2 ≠ interrupting.produced thirdAccused ∧
      ¬ (((heard "b" r.2).filter (·.subject == 3)).getLast? = some (.failed 3) ↔
        3 ∈ r.1.machine.detector.failed) := by
  decide +kernel

end Participant
end Vigil
