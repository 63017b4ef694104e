import Mathlib.Data.List.Basic
import Vigil.Listeners

/-!
A pass of notifications. The listeners called are those that were registered when the pass began,
whatever the callbacks do to the registry meanwhile and however they break off
(`Registry.exists_run`); what they do to it is done call by call (`Registry.Run.edited`).
-/

namespace Vigil

theorem Warning.map_message_listenerPanicked (panics : List Panic) :
    (panics.map listenerPanicked).map message =
      (panics.map Panic.message).map ("Listener panicked during notification: " ++ ·) := by
  rw [List.map_map, List.map_map]
  rfl

namespace Registry

/-- What a callback may do to the registry. -/
inductive Edit where
  | add (name : String)
  | remove (name : String)

def edit (r : Registry) : Edit → Registry
  | .add name => r.add name
  | .remove name => (r.remove name).1

def editAll (r : Registry) (es : List Edit) : Registry := es.foldl edit r

theorem editAll_append (r : Registry) (es es' : List Edit) :
    r.editAll (es ++ es') = (r.editAll es).editAll es' :=
  List.foldl_append

/-- A removal drops every registration of the listener, and those of the others stay in their
order. -/
theorem remove_spec (r : Registry) (name : String) :
    ((r.remove name).2 = true ↔ name ∈ r.toList) ∧
    (r.remove name).1.toList.Sublist r.toList ∧
    ∀ other, (r.remove name).1.toList.count other =
      if other = name then 0 else r.toList.count other := by
  refine ⟨List.contains_iff_mem, List.filter_sublist, fun other => ?_⟩
  by_cases same : other = name
  · have gone : name ∉ r.toList.filter (· != name) := by simp
    simpa [remove, same] using List.count_eq_zero_of_not_mem gone
  · rw [if_neg same]
    exact List.count_filter (by simpa using same)

variable {σ : Type}

/-- A call of a listener: the state it found, and how it broke off, if it did. -/
structure Call (σ : Type) where
  listener : String
  state : σ
  panic : Option Panic

/-- Calls one after the other, each in the state that the one before has left. -/
inductive Run (call : String → σ → σ × Option Panic) : σ → List (Call σ) → σ → Prop where
  | nil (s : σ) : Run call s [] s
  | cons (name : String) (s : σ) {calls : List (Call σ)} {t : σ}
      (rest : Run call (call name s).1 calls t) :
      Run call s (⟨name, s, (call name s).2⟩ :: calls) t

/-- The callbacks edit the registry, and do not change it in any other way. -/
def Edits (call : String → σ → σ × Option Panic) (registry : σ → Registry)
    (edits : String → σ → List Edit) : Prop :=
  ∀ name s, registry (call name s).1 = (registry s).editAll (edits name s)

variable {call : String → σ → σ × Option Panic} {s t : σ} {calls : List (Call σ)}

theorem Run.panic_eq (run : Run call s calls t) :
    ∀ c ∈ calls, c.panic = (call c.listener c.state).2 := by
  induction run with
  | nil s => exact fun c hc => absurd hc List.not_mem_nil
  | cons name s _ ih => exact List.forall_mem_cons.mpr ⟨rfl, ih⟩

theorem Run.edited {registry : σ → Registry} {edits : String → σ → List Edit}
    (run : Run call s calls t) (h : Edits call registry edits) :
    registry t = (registry s).editAll (calls.flatMap fun c => edits c.listener c.state) := by
  induction run with
  | nil s => rfl
  | cons name s _ ih => rw [ih, h, List.flatMap_cons, editAll_append]

/-- Calling listeners is a run of calls, one for each of them, with a warning for each that breaks
off. -/
theorem exists_run (call : String → σ → σ × Option Panic) (names : List String) (s : σ) :
    ∃ calls, Run call s calls (callEach call names s).1 ∧ calls.map Call.listener = names ∧
      (callEach call names s).2 =
        (calls.filterMap Call.panic).map Warning.listenerPanicked := by
  induction names generalizing s with
  | nil => exact ⟨[], .nil s, rfl, rfl⟩
  | cons name names ih =>
      obtain ⟨calls, run, listeners, warnings⟩ := ih (call name s).1
      refine ⟨⟨name, s, (call name s).2⟩ :: calls, .cons name s run, ?_, ?_⟩
      · rw [List.map_cons, listeners]
      · cases panic : (call name s).2 <;> simp [callEach, warnings, panic]

end Registry

def Callback.edits (c : Callback) : List Registry.Edit :=
  (c.add.map .add).toList ++ (c.remove.map .remove).toList

/-- The words of a listener that breaks off when it is told a text. -/
def Breakdown.words (name text : String) : Breakdown → String
  | fixedText => "static panic"
  | madeText => name ++ " on " ++ text
  | noText => "<non-string panic>"

namespace Audience

open Registry (Call Edits Run)

variable {text : String} {a b : Audience} {calls : List (Call Audience)}

theorem edits_call (text : String) :
    Edits (call text) registry fun name a => (a.callbackOf name).edits := by
  intro name a
  simp only [call, Callback.edits]
  cases (a.callbackOf name).add <;> cases (a.callbackOf name).remove <;> rfl

theorem message_panic_call (text name : String) (a : Audience) :
    (call text name a).2.map Panic.message =
      (a.callbackOf name).breakdown.map (Breakdown.words name text) := by
  unfold call
  dsimp only
  cases (a.callbackOf name).breakdown with
  | none => rfl
  | some b => cases b <;> rfl

theorem log_of_run (run : Run (call text) a calls b) :
    b.log = a.log ++ (calls.map Call.listener).map (· ++ ":" ++ text) := by
  induction run with
  | nil a => simp
  | cons name a _ ih => simp [ih, call]

/-- The callbacks are not changed on the way. -/
theorem callbackOf_of_run (run : Run (call text) a calls b) :
    ∀ c ∈ calls, c.state.callbackOf = a.callbackOf := by
  induction run with
  | nil a => exact fun c hc => absurd hc List.not_mem_nil
  | cons name a _ ih => exact List.forall_mem_cons.mpr ⟨rfl, ih⟩

theorem edits_of_run (run : Run (call text) a calls b) :
    calls.flatMap (fun c => (c.state.callbackOf c.listener).edits) =
      (calls.map Call.listener).flatMap fun name => (a.callbackOf name).edits := by
  rw [List.flatMap_map]
  exact List.flatMap_congr fun c hc => by rw [callbackOf_of_run run c hc]

theorem words_of_run (run : Run (call text) a calls b) :
    (calls.filterMap Call.panic).map Panic.message =
      (calls.map Call.listener).filterMap fun name =>
        (a.callbackOf name).breakdown.map (Breakdown.words name text) := by
  rw [List.map_filterMap, List.filterMap_map]
  refine List.filterMap_congr fun c hc => ?_
  rw [run.panic_eq c hc, message_panic_call, callbackOf_of_run run c hc, Function.comp_apply]

end Audience

open Registry in
/-- Whatever callbacks do, a pass calls those that were registered when it began, each registration
once and in their order; it reports those that break off, in that order; and it leaves the registry
with the edits of all calls made one after the other. As the callbacks of an audience stay the same,
its calls, reports and edits are known from the start. -/
theorem notified_in_isolation :
    (∀ {σ : Type} {call : String → σ → σ × Option Panic} {registry : σ → Registry}
        {edits : String → σ → List Edit}, Edits call registry edits → ∀ s : σ,
      ∃ calls : List (Call σ), Run call s calls (callEach call (registry s).toList s).1 ∧
        calls.map Call.listener = (registry s).toList ∧
        (callEach call (registry s).toList s).2.map Warning.message =
          ((calls.filterMap Call.panic).map Panic.message).map
            ("Listener panicked during notification: " ++ ·) ∧
        registry (callEach call (registry s).toList s).1 =
          (registry s).editAll (calls.flatMap fun c => edits c.listener c.state)) ∧
    (∀ (a : Audience) (text : String),
      (a.notify text).1.log = a.log ++ a.registry.toList.map (· ++ ":" ++ text) ∧
      (a.notify text).2.map Warning.message =
        (a.registry.toList.filterMap fun name =>
          (a.callbackOf name).breakdown.map (Breakdown.words name text)).map
            ("Listener panicked during notification: " ++ ·) ∧
      (a.notify text).1.registry = a.registry.editAll
        (a.registry.toList.flatMap fun name => (a.callbackOf name).edits)) ∧
    ∀ (r : Registry) (name : String),
      ((r.remove name).2 = true ↔ name ∈ r.toList) ∧
      (r.remove name).1.toList.Sublist r.toList ∧
      ∀ other, (r.remove name).1.toList.count other =
        if other = name then 0 else r.toList.count other := by
  refine ⟨fun {σ call registry edits} h s => ?_, fun a text => ?_, remove_spec⟩
  · obtain ⟨calls, run, listeners, warnings⟩ := exists_run call (registry s).toList s
    refine ⟨calls, run, listeners, ?_, run.edited h⟩
    rw [warnings, Warning.map_message_listenerPanicked]
  · obtain ⟨calls, run, listeners, warnings⟩ :=
      exists_run (Audience.call text) a.registry.toList a
    have log := Audience.log_of_run run
    have edited := run.edited (Audience.edits_call text)
    rw [Audience.edits_of_run run, listeners] at edited
    rw [listeners] at log
    refine ⟨log, ?_, edited⟩
    rw [Audience.notify, warnings, Warning.map_message_listenerPanicked,
      Audience.words_of_run run, listeners]

/-- The first listener drops the third, which is called all the same, and adds another, which is
not; the second breaks off. -/
example :
    let a : Audience := ⟨⟨["first", "second", "third"]⟩,
      .ofList [("first", ⟨some "other", some "third", none⟩),
        ("second", ⟨none, none, some .madeText⟩)], []⟩
    a.notify "go" = (⟨⟨["first", "second", "other"]⟩, a.callbacks,
      ["first:go", "second:go", "third:go"]⟩, [.listenerPanicked (.text "second on go")]) := by
  decide +kernel

end Vigil
