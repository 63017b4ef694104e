import Vigil.Proofs.Simulation.Ending

/-!
The diary of a run. It says of every step what time it was and which events happened
(`Simulation.diary`), and a run is what is written in its diary (`Simulation.run_eq_foldl`). What
has happened and what is on the agenda is together always what was scheduled
(`Simulation.happened_append_agenda`). So every event happens once, in the first step that is not
before its time, and events of one time happen in the order they are listed in; and when they do, no
clock has moved but that of the simulation (`Simulation.keeps_to_agenda`).
-/

namespace Vigil

/-- What is written down about one step: its time and the events that happened in it, in order. -/
structure Page where
  time : Nat
  events : List ScheduledEvent
  deriving DecidableEq, Repr

/-- The pages tell that the events of a scenario happened once, on time and in order. -/
structure Scenario.KeptBy (sc : Scenario) (pages : List Page) : Prop where
  /-- There is a page for every step. -/
  times : pages.map Page.time =
    (List.range (sc.duration ⌈/⌉ sc.step)).map fun k => (k + 1) * sc.step
  /-- The events of one time happen in the first step that is not before it. -/
  on_time : ∀ past x later, pages = past ++ x :: later → ∀ t,
    (x.events.filter fun e => e.time = t) =
      if t ≤ x.time ∧ ∀ y ∈ past, y.time < t then sc.events.filter fun e => e.time = t else []
  in_order : (pages.flatMap Page.events).Pairwise fun a b => a.time ≤ b.time
  once : ∀ t, ((pages.flatMap Page.events).filter fun e => e.time = t) =
    if ∃ x ∈ pages, t ≤ x.time then sc.events.filter fun e => e.time = t else []

namespace Simulation

variable {γ : Type} {s s' : Simulation γ} {x : Page} {past later : List Page} {r : InstanceId}
  {n' : Node} {e : ScheduledEvent} {k : Nat}

/-! ### Pages -/

/-- What will be written down about the next step. -/
def page (s : Simulation γ) : Page := ⟨s.now + s.scenario.step, s.due⟩

/-- The beginning of a step, before any of its events. -/
def opened (s : Simulation γ) (x : Page) : Simulation γ :=
  { s with now := x.time, agenda := s.agenda.drop x.events.length }

/-- Make a step as it is written down: the events happen, then the clocks of all nodes follow, and
everything settles. -/
def enact [DrawSource γ] (s : Simulation γ) (x : Page) : Simulation γ :=
  (x.events.foldl happen (s.opened x)).tickNodes.settle

theorem opened_page (s : Simulation γ) : s.opened s.page = s.begun := by
  have rest : s.agenda.drop s.due.length = s.begun.agenda := by
    conv_lhs => rw [← List.takeWhile_append_dropWhile
      (p := fun e => decide (e.time ≤ s.now + s.scenario.step)) (l := s.agenda)]
    exact List.drop_left
  rw [opened, page, rest, begun]

/-- Whoever is not started by an event keeps the clock. -/
theorem clock_happen (h : (s.happen e).nodes.get? r = some n') :
    (∃ n, s.nodes.get? r = some n ∧ n'.detector.timers.now = n.detector.timers.now) ∨
      n'.detector.timers.now = s.now ∧ e.action = .restart ∧ e.subject = r := by
  cases origin_of_happen h with
  | spared hn => exact .inl ⟨n', hn, rfl⟩
  | started restart same => exact .inr ⟨(Node.clock_join _ _ _ _).1, restart, same.symm⟩
  | @parted n _ hn =>
      refine .inl ⟨n, hn, (Node.clock_forget _ _).1.trans ?_⟩
      split
      · exact (Node.clock_leave n).1
      · rfl

/-- No clock has moved since `s` but that of the simulation: the nodes of `s'` show the time of `s`,
or have been started by one of the events. -/
structure Unticked (s s' : Simulation γ) (happened : List ScheduledEvent) : Prop where
  moved : s.now < s'.now
  nodes : ∀ r n, s'.nodes.get? r = some n → n.detector.timers.now = s.now ∨
    n.detector.timers.now = s'.now ∧ ∃ e ∈ happened, e.action = .restart ∧ e.subject = r

/-- The clocks of all nodes show the time of the simulation. -/
def Synchronous (s : Simulation γ) : Prop :=
  ∀ r n, s.nodes.get? r = some n → n.detector.timers.now = s.now

theorem Synchronous.passed [DrawSource γ] (clock : s.Synchronous) (h : s.InOrder) :
    s.passed.Synchronous := by
  intro r n' hn'
  obtain ⟨n, hn, now, -⟩ := clock_passed h hn'
  rw [now, now_passed]
  exact clock r n hn

/-- No clock is ahead, so that a tick takes all of them to the same time. -/
theorem Steady.synchronous_round [DrawSource γ] (h : s.Steady) : s.round.Synchronous := by
  have ticked : s.tickNodes.Synchronous := by
    intro r n' hn'
    obtain ⟨n, hn, rfl⟩ := exists_of_get?_tickNodes hn'
    exact Nat.max_eq_right (h.clock r n hn).1
  have order := h.order.tickNodes h.quiet
  rw [round_eq h.order h.quiet]
  exact ((ticked.passed order).passed order.passed).passed order.passed.passed

theorem Synchronous.opened (h : s.Synchronous) (later : s.now < x.time) :
    s.Unticked (s.opened x) [] :=
  ⟨later, fun r n hn => .inl (h r n hn)⟩

theorem Unticked.happen {happened : List ScheduledEvent} (h : s.Unticked s' happened)
    (e : ScheduledEvent) : s.Unticked (s'.happen e) (happened ++ [e]) := by
  have now := s'.now_happen e
  refine ⟨now ▸ h.moved, fun r n' hn' => ?_⟩
  rw [now]
  rcases clock_happen hn' with ⟨n, hn, same⟩ | ⟨fresh, started⟩
  · rw [same]
    refine (h.nodes r n hn).imp_right fun ⟨clock, e', he', started⟩ => ⟨clock, e', ?_, started⟩
    exact List.mem_append_left _ he'
  · exact .inr ⟨fresh, e, List.mem_append_right _ (List.mem_singleton_self e), started⟩

theorem Unticked.foldl_happen (h : s.Unticked s' []) (l : List ScheduledEvent) :
    s.Unticked (l.foldl Simulation.happen s') l := by
  induction l using List.reverseRecOn with
  | nil => exact h
  | append_singleton l e ih =>
      rw [List.foldl_append]
      exact ih.happen e

variable [DrawSource γ]

theorem enact_page (s : Simulation γ) : s.enact s.page = s.advance := by
  rw [enact, opened_page]
  rfl

/-! ### Diaries -/

/-- The steps of a run, as they are made. -/
def diary (s : Simulation γ) : List Page :=
  if _h : s.now < s.scenario.duration ∧ 0 < s.scenario.step then s.page :: diary s.advance else []
termination_by s.scenario.duration - s.now
decreasing_by
  rw [now_advance, scenario_advance]
  omega

/-- A run is what is written in its diary. -/
theorem run_eq_foldl (s : Simulation γ) : s.run = s.diary.foldl enact s := by
  fun_induction diary s with
  | case1 s more ih => rw [run, dif_pos more, List.foldl_cons, enact_page, ih]
  | case2 s ended => rw [run, dif_neg ended, List.foldl_nil]

theorem Runs.diary_eq {t : Simulation γ} (h : s.Runs k t) (hs : 0 < s.scenario.step) :
    s.diary = (List.range k).map fun i => (advance^[i] s).page := by
  induction h with
  | finished ended => rw [diary, dif_neg fun more => Nat.not_lt_of_le ended more.1]; rfl
  | @step s t k early _ ih =>
      rw [diary, dif_pos ⟨early, hs⟩, ih (by rwa [scenario_advance]), List.range_succ_eq_map,
        List.map_cons, List.map_map]
      rfl

section Start

variable (draws : γ) {sc : Scenario}

theorem foldl_enact_page (k : Nat) :
    ((List.range k).map fun i => (after draws sc i).page).foldl enact (start draws sc) =
      after draws sc k := by
  induction k with
  | zero => rfl
  | succ k ih =>
      rw [List.range_succ, List.map_append, List.foldl_append, ih, after_succ]
      exact enact_page _

/-- What has happened and what is still to come is what was scheduled. -/
theorem happened_append_agenda (k : Nat) :
    (List.range k).flatMap (fun i => (after draws sc i).due) ++ (after draws sc k).agenda =
      orderBy ScheduledEvent.time sc.events := by
  induction k with
  | zero => exact (start_fields draws sc).2.2.1
  | succ k ih =>
      have next : (after draws sc k).due ++ (after draws sc (k + 1)).agenda =
          (after draws sc k).agenda := by
        rw [after_succ, agenda_advance (steady_after draws sc k)]
        exact List.takeWhile_append_dropWhile
      rw [List.range_succ, List.flatMap_append, List.append_assoc, List.flatMap_singleton, next, ih]

theorem synchronous_after (k : Nat) : (after draws sc k).Synchronous := by
  cases k with
  | zero =>
      intro r n hn
      have started := (start_fields draws sc).2.2.2.2 r
      rw [show (start draws sc).nodes.get? r = some n from hn] at started
      split at started
      · cases started
        exact (Node.clock_join r sc.members sc.timing 0).1.trans (by rw [now_after, Nat.zero_mul])
      · cases started
  | succ k =>
      rw [after_succ]
      exact (steady_after draws sc k).struck.synchronous_round

section Steps

variable (hs : 0 < sc.step)
include hs

theorem diary_start :
    (start draws sc).diary =
      (List.range (sc.duration ⌈/⌉ sc.step)).map fun k => (after draws sc k).page := by
  refine (runs_start draws hs).diary_eq ?_
  rwa [show (start draws sc).scenario = sc from scenario_after draws sc 0]

omit hs in
theorem time_page_after (k : Nat) : (after draws sc k).page.time = (k + 1) * sc.step := by
  rw [page, now_after, scenario_after, Nat.succ_mul]

/-- A page of the diary, and what it was written after. -/
theorem split_diary_start (h : (start draws sc).diary = past ++ x :: later) :
    x = (after draws sc past.length).page ∧
      past = (List.range past.length).map fun k => (after draws sc k).page := by
  rw [diary_start draws hs] at h
  generalize sc.duration ⌈/⌉ sc.step = m at h
  have lengths := congrArg List.length h
  rw [List.length_map, List.length_range, List.length_append, List.length_cons] at lengths
  have short : past.length < m := by omega
  constructor
  · have here := congrArg (·[past.length]?) h
    simp only [List.getElem?_map, List.getElem?_range short, Option.map_some,
      List.getElem?_append_right (Nat.le_refl _), Nat.sub_self,
      List.getElem?_cons_zero, Option.some.injEq] at here
    exact here.symm
  · have first := congrArg (List.take past.length) h
    rw [List.take_left, ← List.map_take, List.take_range, Nat.min_eq_left (Nat.le_of_lt short)]
      at first
    exact first.symm

theorem filter_due_after (k t : Nat) :
    ((after draws sc k).due.filter fun e => e.time = t) =
      if sc.stepsBefore t = k then sc.events.filter fun e => e.time = t else [] := by
  rw [due_after draws sc hs, List.filter_filter, ← filter_orderBy]
  split
  · rename_i here
    refine List.filter_congr fun e _ => ?_
    simp only [Bool.and_eq_left_iff_imp, decide_eq_true_eq]
    rintro rfl
    exact here
  · rename_i elsewhere
    refine List.filter_eq_nil_iff.mpr fun e _ both => ?_
    simp only [Bool.and_eq_true, decide_eq_true_eq] at both
    obtain ⟨rfl, here⟩ := both
    exact elsewhere here

theorem stepsBefore_eq_iff {t : Nat} :
    sc.stepsBefore t = k ↔ t ≤ (k + 1) * sc.step ∧ ∀ i < k, (i + 1) * sc.step < t := by
  constructor
  · rintro rfl
    refine ⟨(Scenario.stepsBefore_le_iff hs).mp (Nat.le_refl _), fun i early => ?_⟩
    rw [← Nat.not_le, ← Scenario.stepsBefore_le_iff hs]
    exact Nat.not_le_of_lt early
  · rintro ⟨within, beyond⟩
    refine Nat.le_antisymm ((Scenario.stepsBefore_le_iff hs).mpr within) ?_
    refine Nat.le_of_not_lt fun early => Nat.not_le_of_lt (beyond _ early) ?_
    exact (Scenario.stepsBefore_le_iff hs).mp (Nat.le_refl _)

/-- What has happened of one time: all there is, or nothing yet. -/
theorem filter_happened (k t : Nat) :
    (((List.range k).flatMap fun i => (after draws sc i).due).filter fun e => e.time = t) =
      if sc.stepsBefore t < k then sc.events.filter fun e => e.time = t else [] := by
  induction k with
  | zero => rfl
  | succ k ih =>
      rw [List.range_succ, List.flatMap_append, List.filter_append, ih, List.flatMap_singleton,
        filter_due_after draws hs]
      rcases Nat.lt_trichotomy (sc.stepsBefore t) k with before | here | beyond
      · rw [if_pos before, if_neg (Nat.ne_of_lt before), if_pos (Nat.lt_succ_of_lt before),
          List.append_nil]
      · rw [if_neg (Nat.not_lt_of_le (Nat.le_of_eq here.symm)), if_pos here,
          if_pos (Nat.lt_succ_of_le (Nat.le_of_eq here)), List.nil_append]
      · rw [if_neg (Nat.lt_asymm beyond), if_neg (Nat.ne_of_gt beyond),
          if_neg (Nat.not_lt_of_le beyond), List.append_nil]

theorem keptBy_diary_start : sc.KeptBy (start draws sc).diary where
  times := by
    rw [diary_start draws hs, List.map_map]
    exact List.map_congr_left fun k _ => time_page_after draws k
  on_time past x later split t := by
    obtain ⟨rfl, written⟩ := split_diary_start draws hs split
    have first : (t ≤ (after draws sc past.length).page.time ∧ ∀ y ∈ past, y.time < t) ↔
        sc.stepsBefore t = past.length := by
      rw [stepsBefore_eq_iff hs, time_page_after, and_congr_right_iff]
      intro _
      conv_lhs => rw [written]
      simp only [List.forall_mem_map, List.mem_range, time_page_after]
    simp only [first]
    exact filter_due_after draws hs past.length t
  in_order := by
    have whole := orderBy_ordered ScheduledEvent.time sc.events
    rw [← happened_append_agenda draws (sc.duration ⌈/⌉ sc.step)] at whole
    rw [diary_start draws hs, List.flatMap_map]
    exact whole.sublist (List.sublist_append_left _ _)
  once t := by
    have reached : (∃ x ∈ (start draws sc).diary, t ≤ x.time) ↔
        sc.stepsBefore t < sc.duration ⌈/⌉ sc.step := by
      simp only [diary_start draws hs, List.mem_map, List.mem_range, exists_exists_and_eq_and,
        time_page_after, ← Scenario.stepsBefore_le_iff hs]
      exact ⟨fun ⟨k, hk, within⟩ => Nat.lt_of_le_of_lt within hk,
        fun within => ⟨_, within, Nat.le_refl _⟩⟩
    simp only [reached]
    rw [diary_start draws hs, List.flatMap_map]
    exact filter_happened draws hs _ t

end Steps

/-- Every event happens once, in the first step that is not before its time, and events of one time
happen in the order they are listed in. When an event happens, no node has noticed yet that time has
moved on; at the end of the step all of them have. -/
theorem keeps_to_agenda (valid : sc.error? = none) :
    (start draws sc).run = (start draws sc).diary.foldl enact (start draws sc) ∧
    sc.KeptBy (start draws sc).diary ∧
    ∀ past x later, (start draws sc).diary = past ++ x :: later →
      let s := past.foldl enact (start draws sc)
      (∀ before e rest, x.events = before ++ e :: rest →
        s.Unticked (before.foldl happen (s.opened x)) before) ∧
      (s.enact x).Synchronous ∧ (s.enact x).now = x.time := by
  have hs := Scenario.step_pos_of_valid valid
  refine ⟨run_eq_foldl _, keptBy_diary_start draws hs, fun past x later split => ?_⟩
  obtain ⟨rfl, written⟩ := split_diary_start draws hs split
  have time : (after draws sc past.length).page.time = (past.length + 1) * sc.step :=
    time_page_after draws past.length
  have moved : (after draws sc past.length).now < (after draws sc past.length).page.time := by
    rw [time, now_after, Nat.succ_mul]
    exact Nat.lt_add_of_pos_right hs
  intro s
  have reached : s = after draws sc past.length := by
    rw [← foldl_enact_page draws past.length, ← written]
  rw [reached, enact_page, ← after_succ, now_after]
  refine ⟨fun before e rest _ => ?_, synchronous_after draws _, time.symm⟩
  exact ((synchronous_after draws past.length).opened moved).foldl_happen before

end Start

/-- The events are not listed in order, two of them are of one time, one is due at once, and one
comes too late. -/
def crowdedTrio : Scenario :=
  { Scenario.standard with
    step := 7, duration := 20
    events := [⟨8, 1, .restart⟩, ⟨3, 1, .crash⟩, ⟨3, 2, .leave⟩, ⟨22, 1, .crash⟩, ⟨0, 3, .crash⟩] }

theorem crowdedTrio_keeps_to_agenda :
    crowdedTrio.error? = none ∧
      ((start (CipherDraws.ofSeed 0) crowdedTrio).diary.map Page.time) = [7, 14, 21] ∧
      (((start (CipherDraws.ofSeed 0) crowdedTrio).diary.flatMap Page.events).filter
        fun e => e.time = 3) = [⟨3, 1, .crash⟩, ⟨3, 2, .leave⟩] ∧
      (((start (CipherDraws.ofSeed 0) crowdedTrio).diary.flatMap Page.events).filter
        fun e => e.time = 22) = [] := by
  have valid : crowdedTrio.error? = none := rfl
  obtain ⟨-, kept, -⟩ := keeps_to_agenda (CipherDraws.ofSeed 0) valid
  have times : (start (CipherDraws.ofSeed 0) crowdedTrio).diary.map Page.time = [7, 14, 21] :=
    kept.times
  have reached (t : Nat) : (∃ x ∈ (start (CipherDraws.ofSeed 0) crowdedTrio).diary, t ≤ x.time) ↔
      ∃ time ∈ [7, 14, 21], t ≤ time := by
    simp only [← times, List.mem_map, exists_exists_and_eq_and]
  refine ⟨valid, times, (kept.once 3).trans ?_, (kept.once 22).trans ?_⟩
  · rw [if_pos ((reached 3).mpr (by decide))]
    rfl
  · rw [if_neg ((reached 22).not.mpr (by decide))]

end Simulation
end Vigil
