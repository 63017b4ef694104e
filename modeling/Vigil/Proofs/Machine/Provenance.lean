import Mathlib.Data.List.Infix
import Vigil.Proofs.Machine.Coverage

/-!
Where the pending timers of a machine come from. A timer becomes pending only while a message is
handled, and what it delivers is the signal of its key in the conversation of that message
(`Machine.timeout_of_mem_undergo`). So every timer that is pending after a run was armed by one
message of the run (`Machine.exists_armedBy`), and by no other (`Machine.ArmedBy.unique`).
-/

namespace Vigil

namespace Envelope

variable {α β : Type}

theorem header?_copyHeaders (target : Envelope α) (source : Envelope β) (names : List String)
    (name : String) :
    (target.copyHeaders source names).header? name =
      if name ∈ names then (source.header? name).or (target.header? name)
      else target.header? name := by
  induction names generalizing target with
  | nil => rfl
  | cons first names ih =>
      rw [copyHeaders, List.foldl_cons]
      refine (ih _).trans ?_
      by_cases same : name = first
      · subst same
        cases found : source.header? name <;> simp
      · cases source.header? first <;> simp [same]

/-- A timeout has the headers of the conversation, with the values of its cause, and no others. -/
theorem header?_timeout (content : α) (cause : Envelope β) (name : String) :
    (timeout content cause).header? name =
      if name ∈ conversationHeaders then cause.header? name else none := by
  rw [timeout, header?_copyHeaders, header?_internal, Option.or_none]

theorem isInternal_timeout (content : α) (cause : Envelope β) :
    (timeout content cause).isInternal = true := by
  rw [isInternal, recipient?, header?_timeout, if_neg (by decide)]
  rfl

end Envelope

namespace Machine

variable {m : Machine} {history : List Stimulus} {s : Stimulus} {outlet : Outlet}
  {e e' : Envelope Signal} {a : Armed TimerKey (Envelope Signal)}

/-- Only a message arms timers. -/
theorem timeout_of_mem_undergo (ha : a ∈ (m.undergo s).detector.timers.pending) :
    a ∈ m.detector.timers.pending ∨
      ∃ outlet e, s = .handle outlet e ∧ a.message = .timeout a.key.signal e := by
  cases s with
  | handle outlet e => exact (timeout_of_mem_handle ha).imp_right fun h => ⟨outlet, e, rfl, h⟩
  | expire time => exact .inl (List.mem_filter.mp ha).1
  | change c => exact .inl ha
  | sync => exact .inl (m.detector.timers_syncMembers ▸ ha)
  | depart id =>
      change a ∈ (m.detector.depart id).timers.pending at ha
      rw [Detector.timers_depart] at ha
      exact .inl (Detector.mem_pending_cancelTimers.mp ha).1

/-- The timer was armed while `e` was handled, and has been pending ever since. -/
def ArmedBy (m : Machine) (history : List Stimulus) (a : Armed TimerKey (Envelope Signal))
    (e : Envelope Signal) : Prop :=
  ∃ past outlet future, history = past ++ .handle outlet e :: future ∧
    a ∉ (m.undergoAll past).detector.timers.pending ∧
    ∀ since, since <+: future →
      a ∈ (m.undergoAll (past ++ .handle outlet e :: since)).detector.timers.pending

theorem ArmedBy.concat (h : m.ArmedBy history a e)
    (still : a ∈ (m.undergoAll (history ++ [s])).detector.timers.pending) :
    m.ArmedBy (history ++ [s]) a e := by
  obtain ⟨past, outlet, future, rfl, new, kept⟩ := h
  refine ⟨past, outlet, future ++ [s], by simp, new, fun since within => ?_⟩
  rcases List.prefix_concat_iff.mp within with rfl | within
  · simpa using still
  · exact kept since within

theorem exists_armedBy (unarmed : m.detector.timers.pending = [])
    (ha : a ∈ (m.undergoAll history).detector.timers.pending) :
    ∃ e, m.ArmedBy history a e ∧ a.message = .timeout a.key.signal e := by
  induction history using List.reverseRecOn with
  | nil =>
      rw [undergoAll, List.foldl_nil, unarmed] at ha
      exact absurd ha List.not_mem_nil
  | append_singleton history s ih =>
      have last : m.undergoAll (history ++ [s]) = (m.undergoAll history).undergo s := by
        rw [undergoAll_append]
        rfl
      by_cases old : a ∈ (m.undergoAll history).detector.timers.pending
      · obtain ⟨e, armed, message⟩ := ih old
        exact ⟨e, armed.concat ha, message⟩
      · obtain ⟨outlet, e, rfl, message⟩ := (timeout_of_mem_undergo (last ▸ ha)).resolve_left old
        refine ⟨e, ⟨history, outlet, [], rfl, old, fun since within => ?_⟩, message⟩
        rw [List.prefix_nil.mp within]
        exact ha

/-- A timer that has been pending ever since is not armed again later. -/
theorem same_of_earlier {past past' future future' : List Stimulus} {x x' : Stimulus}
    (split : past ++ x :: future = past' ++ x' :: future')
    (kept : ∀ since, since <+: future →
      a ∈ (m.undergoAll (past ++ x :: since)).detector.timers.pending)
    (new : a ∉ (m.undergoAll past').detector.timers.pending) (earlier : past <+: past') :
    x = x' := by
  obtain ⟨more, rfl⟩ := earlier
  rw [List.append_assoc, List.append_cancel_left_eq] at split
  cases more with
  | nil => exact (List.cons.inj split).1
  | cons y more =>
      obtain ⟨rfl, rest⟩ := List.cons.inj split
      exact absurd (kept more ⟨_, rest.symm⟩) new

theorem ArmedBy.unique (h : m.ArmedBy history a e) (h' : m.ArmedBy history a e') : e = e' := by
  obtain ⟨past, outlet, future, rfl, new, kept⟩ := h
  obtain ⟨past', outlet', future', split, new', kept'⟩ := h'
  have same : Stimulus.handle outlet e = .handle outlet' e' := by
    rcases List.prefix_or_prefix_of_prefix ⟨_, rfl⟩ ⟨_, split.symm⟩ with earlier | later
    · exact same_of_earlier split kept new' earlier
    · exact (same_of_earlier split.symm kept' new later).symm
  exact (Stimulus.handle.inj same).2

end Machine
end Vigil
