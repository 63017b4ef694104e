import Vigil.Participant
import Vigil.Proofs.Machine.Run

/-!
What a participant does, told by its effects. A listener that calls the machine back starts a round
of its own in the middle of another, so the effects of a call are nested (`Conduct`): each message
that is taken up brings transitions, every registered listener is told of each of them, and between
any two of these notices whole further messages may be handled. All functions of a participant
conduct themselves so, however deep the calls go (`Participant.conduct_handleWithin`); what holds of
every conduct holds of them.
-/

namespace Vigil

namespace Effect

def taken? : Effect → Option (Envelope Signal)
  | took e => some e
  | _ => none

def news : Effect → List Transition
  | arose ts => ts
  | _ => []

def heard? (name : String) : Effect → Option Transition
  | told listener t => if listener = name then some t else none
  | _ => none

/-- The effect is no part of the course of messages, transitions and notices. -/
def Aside : Effect → Prop
  | took _ | arose _ | told _ _ => False
  | _ => True

variable {e : Effect} {name : String}

theorem Aside.taken?_eq (h : e.Aside) : e.taken? = none := by
  cases e <;> first | exact absurd h id | rfl

theorem Aside.news_eq (h : e.Aside) : e.news = [] := by
  cases e <;> first | exact absurd h id | rfl

theorem Aside.heard?_eq (h : e.Aside) : e.heard? name = none := by
  cases e <;> first | exact absurd h id | rfl

theorem aside_of_mem_effects {o : Outcome} (h : e ∈ o.effects) : e.Aside := by
  rcases List.mem_append.mp h with h | h
  · obtain ⟨handed, -, rfl⟩ := List.mem_map.mp h
    unfold Handed.effect
    split <;> trivial
  · obtain ⟨w, -, rfl⟩ := List.mem_map.mp h
    trivial

end Effect

def taken (es : List Effect) : List (Envelope Signal) := es.filterMap Effect.taken?

def arisen (es : List Effect) : List Transition := es.flatMap Effect.news

def heard (name : String) (es : List Effect) : List Transition := es.filterMap (Effect.heard? name)

section Observations

variable {es es' : List Effect} {e : Effect} {m : Envelope Signal} {ts : List Transition}
  {t : Transition} {name listener : String}

@[simp] theorem taken_nil : taken [] = [] := rfl

@[simp] theorem arisen_nil : arisen [] = [] := rfl

@[simp] theorem heard_nil : heard name [] = [] := rfl

@[simp] theorem taken_append : taken (es ++ es') = taken es ++ taken es' := List.filterMap_append

@[simp] theorem arisen_append : arisen (es ++ es') = arisen es ++ arisen es' :=
  List.flatMap_append

@[simp] theorem heard_append : heard name (es ++ es') = heard name es ++ heard name es' :=
  List.filterMap_append

@[simp] theorem taken_took : taken (.took m :: es) = m :: taken es := rfl

@[simp] theorem arisen_took : arisen (.took m :: es) = arisen es := rfl

@[simp] theorem heard_took : heard name (.took m :: es) = heard name es := rfl

@[simp] theorem taken_arose : taken (.arose ts :: es) = taken es := rfl

@[simp] theorem arisen_arose : arisen (.arose ts :: es) = ts ++ arisen es := rfl

@[simp] theorem heard_arose : heard name (.arose ts :: es) = heard name es := rfl

@[simp] theorem taken_told : taken (.told listener t :: es) = taken es := rfl

@[simp] theorem arisen_told : arisen (.told listener t :: es) = arisen es := rfl

theorem heard_told : heard name (.told listener t :: es) =
    if listener = name then t :: heard name es else heard name es := by
  by_cases h : listener = name <;> simp [heard, Effect.heard?, h]

theorem Effect.Aside.taken_cons (h : e.Aside) : taken (e :: es) = taken es := by
  simp [taken, h.taken?_eq]

theorem taken_of_asides (quiet : ∀ e ∈ es, e.Aside) : taken es = [] :=
  List.filterMap_eq_nil_iff.mpr fun e he => (quiet e he).taken?_eq

theorem Effect.Aside.arisen_cons (h : e.Aside) : arisen (e :: es) = arisen es := by
  simp [arisen, h.news_eq]

theorem Effect.Aside.heard_cons (h : e.Aside) : heard name (e :: es) = heard name es := by
  simp [heard, h.heard?_eq]

end Observations

/-- The notices that a round of transitions calls for: for each of them, every registered listener
in turn. -/
def Registry.notices (r : Registry) (ts : List Transition) : List (String × Transition) :=
  ts.flatMap fun t => r.toList.map fun name => (name, t)

/-- The effects of giving notices, and of whatever messages are handled meanwhile, on the way from
one state of the machine to another. -/
inductive Conduct (outlet : Outlet) (registry : Registry) :
    Machine → List (String × Transition) → List Effect → Machine → Prop
  | done (m : Machine) : Conduct outlet registry m [] [] m
  | tell {m m' notices es} (name : String) (t : Transition) :
      Conduct outlet registry m notices es m' →
        Conduct outlet registry m ((name, t) :: notices) (.told name t :: es) m'
  | aside {m m' notices es} {e : Effect} : e.Aside → Conduct outlet registry m notices es m' →
      Conduct outlet registry m notices (e :: es) m'
  | handle {m m' m'' notices inner es} (e : Envelope Signal) :
      Conduct outlet registry (m.handle outlet e).1
          (registry.notices (m.handle outlet e).2.transitions) inner m' →
        Conduct outlet registry m' notices es m'' →
          Conduct outlet registry m notices
            (.took e :: .arose (m.handle outlet e).2.transitions :: (inner ++ es)) m''

namespace Conduct

variable {outlet : Outlet} {registry : Registry} {m m' m'' : Machine}
  {notices later : List (String × Transition)} {es es' : List Effect}

theorem append (h : Conduct outlet registry m notices es m')
    (h' : Conduct outlet registry m' later es' m'') :
    Conduct outlet registry m (notices ++ later) (es ++ es') m'' := by
  induction h with
  | done => exact h'
  | tell name t _ ih => exact .tell name t (ih h')
  | aside quiet _ ih => exact .aside quiet (ih h')
  | handle e inner _ _ ih => simpa using Conduct.handle e inner (ih h')

theorem asides {es : List Effect} (quiet : ∀ e ∈ es, e.Aside)
    (h : Conduct outlet registry m notices es' m') :
    Conduct outlet registry m notices (es ++ es') m' := by
  induction es with
  | nil => exact h
  | cons e es ih =>
      rw [List.forall_mem_cons] at quiet
      exact .aside quiet.1 (ih quiet.2)

/-- The machine has handled the messages taken up, one after the other, and nothing else; the
transitions are those of the machine. -/
theorem handleEach_eq (h : Conduct outlet registry m notices es m') :
    m.handleEach outlet (taken es) = (m', arisen es) := by
  induction h with
  | done => rfl
  | tell _ _ _ ih => exact ih
  | aside quiet _ ih => rwa [quiet.taken_cons, quiet.arisen_cons]
  | handle e _ _ inner ih =>
      simp [Machine.handleEach, Machine.handleEach_append, inner, ih]

end Conduct

namespace Participant

/-- Giving notices leads to `r`; the outlet and the registrations stay. -/
structure Gives (p : Participant) (notices : List (String × Transition))
    (r : Participant × List Effect) : Prop where
  outlet_eq : r.1.outlet = p.outlet
  registry_eq : r.1.registry = p.registry
  conduct : Conduct p.outlet p.registry p.machine notices r.2 r.1.machine

variable {p : Participant} {r r' : Participant × List Effect}
  {notices later : List (String × Transition)}
  {callBack : Participant → Envelope Signal → Participant × List Effect}

theorem Gives.append (h : p.Gives notices r) (h' : r.1.Gives later r') :
    p.Gives (notices ++ later) (r'.1, r.2 ++ r'.2) where
  outlet_eq := h'.outlet_eq.trans h.outlet_eq
  registry_eq := h'.registry_eq.trans h.registry_eq
  conduct := h.conduct.append (h.outlet_eq ▸ h.registry_eq ▸ h'.conduct)

theorem Gives.aside (h : p.Gives notices r) (e : Effect) (quiet : e.Aside) :
    p.Gives notices (r.1, e :: r.2) :=
  ⟨h.outlet_eq, h.registry_eq, .aside quiet h.conduct⟩

theorem Gives.nothing (p : Participant) : p.Gives [] (p, []) := ⟨rfl, rfl, .done _⟩

def turned (p : Participant) (name : String) : Participant :=
  { p with watchers := p.watchers.insert name (p.watcher name).called }

/-- A listener that is told of a transition changes nothing, or it takes a turn of calls. -/
theorem tell_cases (p : Participant) (t : Transition) (name : String) :
    (∃ es, (∀ e ∈ es, e.Aside) ∧ ∀ callBack, tell callBack t p name = (p, .told name t :: es)) ∨
      ∃ turn turns, (p.watcher name).actOn t.kind = .call (turn :: turns) ∧ ∀ callBack,
        tell callBack t p name = ((callEach callBack name turn (p.turned name)).1,
          .told name t :: (callEach callBack name turn (p.turned name)).2) := by
  cases h : (p.watcher name).actOn t.kind with
  | nothing => exact .inl ⟨[], by simp, fun _ => by simp [tell, h]⟩
  | breakDown b =>
      exact .inl ⟨[.warned (.listenerPanicked (panicOf name t.subject b))], by simp [Effect.Aside],
        fun _ => by simp [tell, h]⟩
  | query =>
      let d := p.machine.detector
      exact .inl ⟨[.queried name t.subject (d.isFailed t.subject) d.shouldPromote],
        by simp [Effect.Aside], fun _ => by simp [tell, h, d]⟩
  | call turns =>
      cases turns with
      | nil => exact .inl ⟨[], by simp, fun _ => by simp [tell, h]⟩
      | cons turn turns => exact .inr ⟨turn, turns, rfl, fun _ => by simp [tell, h, turned]⟩

section CallBack

variable (back : ∀ (p : Participant) (e : Envelope Signal), p.Gives [] (callBack p e))
include back

theorem gives_callEach (name : String) (messages : List (Envelope Signal)) :
    p.Gives [] (callEach callBack name messages p) := by
  induction messages generalizing p with
  | nil => exact .nothing p
  | cons e messages ih => exact (back p e).append (ih.aside (.handled name) trivial)

theorem gives_tell (t : Transition) (name : String) :
    p.Gives [(name, t)] (tell callBack t p name) := by
  rcases p.tell_cases t name with ⟨es, quiet, eq⟩ | ⟨turn, turns, -, eq⟩
  · have after : Conduct p.outlet p.registry p.machine [] (es ++ []) p.machine :=
      Conduct.asides quiet (.done _)
    rw [List.append_nil] at after
    rw [eq]
    exact ⟨rfl, rfl, .tell name t after⟩
  · have called := gives_callEach back name turn (p := p.turned name)
    rw [eq]
    exact ⟨called.outlet_eq, called.registry_eq, .tell name t called.conduct⟩

theorem gives_tellEach (t : Transition) (names : List String) :
    p.Gives (names.map fun name => (name, t)) (tellEach callBack t names p) := by
  induction names generalizing p with
  | nil => exact .nothing p
  | cons name names ih => exact (gives_tell back t name).append ih

theorem gives_tellAll (ts : List Transition) :
    p.Gives (p.registry.notices ts) (tellAll callBack ts p) := by
  induction ts generalizing p with
  | nil => exact .nothing p
  | cons t ts ih =>
      have first := gives_tellEach back (p := p) t p.registry.toList
      have rest := ih (p := (tellEach callBack t p.registry.toList p).1)
      rw [first.registry_eq] at rest
      exact first.append rest

theorem gives_handleWith (e : Envelope Signal) : p.Gives [] (handleWith callBack p e) := by
  have told := gives_tellAll back (p := { p with machine := (p.machine.handle p.outlet e).1 })
    (p.machine.handle p.outlet e).2.transitions
  refine ⟨told.outlet_eq, told.registry_eq, ?_⟩
  have quiet : ∀ e' ∈ (p.machine.handle p.outlet e).2.effects, e'.Aside :=
    fun _ => Effect.aside_of_mem_effects
  simpa [handleWith] using Conduct.handle e (told.conduct.asides quiet) (.done _)

end CallBack

/-- However deep calls back may go, a message is handled so. -/
theorem gives_handleWithin (depth : Nat) (p : Participant) (e : Envelope Signal) :
    p.Gives [] (handleWithin depth p e) := by
  induction depth generalizing p e with
  | zero => exact gives_handleWith (fun p _ => .nothing p) e
  | succ depth ih => exact gives_handleWith ih e

/-- Handling a message begins with taking it up and with what comes of it. -/
theorem handleWithin_effects (depth : Nat) (p : Participant) (e : Envelope Signal) :
    ∃ ts es, (handleWithin depth p e).2 = .took e :: .arose ts :: es := by
  cases depth <;> exact ⟨_, _, rfl⟩

end Participant
end Vigil
