import Vigil.Proofs.Machine.Agreement
import Vigil.Proofs.Participant.Calls

/-!
Runs of a participant. Whatever happens to it from outside begins with what it does to the machine
at once (`Affair.opening`); after that only messages change the machine, those the affair itself
brings (`Affair.mail`) and those for which listeners call, and all notices are given before the
next affair (`Participant.undergo_conducts`).
-/

namespace Vigil

/-- What can happen to a participant from outside. -/
inductive Affair where
  | message (e : Envelope Signal)
  | tick (time : Nat)
  | operate (op : DetectorOperation)
  | enlist (listener : String)
  | dismiss (listener : String)
  deriving DecidableEq, Repr

namespace Affair

/-- What an affair does to the machine before the machine takes up any message, and the transitions
that come of it. -/
def opening (m : Machine) : Affair → Machine × List Transition
  | message _ | enlist _ | dismiss _ => (m, [])
  | tick time => ((m.expire time).1, [])
  | operate op => let (m, _, ts) := m.withDetector fun d => d.perform op; (m, ts)

/-- The messages that an affair brings to the machine. -/
def mail (m : Machine) : Affair → List (Envelope Signal)
  | message e => [e]
  | tick time => (m.expire time).2
  | operate _ | enlist _ | dismiss _ => []

/-- The registrations that an affair leaves. -/
def enrolled (r : Registry) : Affair → Registry
  | enlist listener => r.add listener
  | dismiss listener => (r.remove listener).1
  | _ => r

/-- Other listeners come and go without a change of a listener's registrations. -/
theorem count_enrolled {a : Affair} {name : String} (enlist : a ≠ .enlist name)
    (dismiss : a ≠ .dismiss name) (r : Registry) :
    (a.enrolled r).toList.count name = r.toList.count name := by
  cases a with
  | message _ | tick _ | operate _ => rfl
  | enlist listener =>
      have other : listener ≠ name := fun same => enlist (same ▸ rfl)
      simp [enrolled, Registry.add, other]
  | dismiss listener =>
      have other : name ≠ listener := fun same => dismiss (same ▸ rfl)
      simp [enrolled, Registry.remove, List.count_filter, other]

end Affair

namespace Participant

def undergo (p : Participant) : Affair → Participant × List Effect
  | .message e => p.handle e
  | .tick time => p.tick time
  | .operate op => let (p, _, es) := p.perform op; (p, es)
  | .enlist listener => ({ p with registry := p.registry.add listener }, [])
  | .dismiss listener => ({ p with registry := (p.registry.remove listener).1 }, [])

def undergoAll (p : Participant) : List Affair → Participant × List Effect
  | [] => (p, [])
  | a :: as =>
    let (p, es) := p.undergo a
    let (p, es') := p.undergoAll as
    (p, es ++ es')

theorem undergoAll_cons (p : Participant) (a : Affair) (as : List Affair) :
    p.undergoAll (a :: as) = (((p.undergo a).1.undergoAll as).1,
      (p.undergo a).2 ++ ((p.undergo a).1.undergoAll as).2) := rfl

theorem undergoAll_append (p : Participant) (as as' : List Affair) :
    p.undergoAll (as ++ as') = (((p.undergoAll as).1.undergoAll as').1,
      (p.undergoAll as).2 ++ ((p.undergoAll as).1.undergoAll as').2) := by
  induction as generalizing p with
  | nil => rfl
  | cons a as ih => simp [undergoAll_cons, ih]

theorem gives_handle (p : Participant) (e : Envelope Signal) : p.Gives [] (p.handle e) :=
  gives_handleWithin p.calls p e

theorem gives_handleAll (p : Participant) (es : List (Envelope Signal)) :
    p.Gives [] (p.handleAll es) := by
  induction es generalizing p with
  | nil => exact .nothing p
  | cons e es ih => exact (p.gives_handle e).append (ih _)

theorem sublist_taken_handleAll (p : Participant) (es : List (Envelope Signal)) :
    es.Sublist (taken (p.handleAll es).2) := by
  induction es generalizing p with
  | nil => exact .slnil
  | cons e es ih =>
      obtain ⟨ts, inner, effects⟩ := handleWithin_effects p.calls p e
      have split : taken (p.handleAll (e :: es)).2 =
          taken (p.handle e).2 ++ taken ((p.handle e).1.handleAll es).2 := by
        simp [handleAll]
      rw [split, handle, effects, taken_took, List.cons_append]
      exact ((ih _).trans (List.sublist_append_right _ _)).cons_cons e

structure Conducts (p : Participant) (a : Affair) (r : Participant × List Effect) : Prop where
  outlet_eq : r.1.outlet = p.outlet
  registry_eq : r.1.registry = a.enrolled p.registry
  conduct : ∃ es, Conduct p.outlet p.registry (a.opening p.machine).1
      (p.registry.notices (a.opening p.machine).2) es r.1.machine ∧
    (r.2 = .arose (a.opening p.machine).2 :: es ∨ (a.opening p.machine).2 = [] ∧ r.2 = es)
  mail : (a.mail p.machine).Sublist (taken r.2)

theorem undergo_conducts (p : Participant) (a : Affair) : p.Conducts a (p.undergo a) := by
  cases a with
  | message e =>
      have gives := p.gives_handle e
      obtain ⟨ts, inner, effects⟩ := handleWithin_effects p.calls p e
      refine ⟨gives.outlet_eq, gives.registry_eq, ⟨_, gives.conduct, .inr ⟨rfl, rfl⟩⟩, ?_⟩
      rw [undergo, handle, effects, taken_took]
      exact (List.nil_sublist _).cons_cons e
  | tick time =>
      have gives := gives_handleAll { p with machine := (p.machine.expire time).1 }
        (p.machine.expire time).2
      exact ⟨gives.outlet_eq, gives.registry_eq, ⟨_, gives.conduct, .inr ⟨rfl, rfl⟩⟩,
        sublist_taken_handleAll _ _⟩
  | operate op =>
      let begun : Participant := { p with machine := (Affair.opening p.machine (.operate op)).1 }
      have gives := gives_tellAll (p := begun) (gives_handleWithin begun.calls)
        (Affair.opening p.machine (.operate op)).2
      exact ⟨gives.outlet_eq, gives.registry_eq, ⟨_, gives.conduct, .inl rfl⟩, List.nil_sublist _⟩
  | enlist _ | dismiss _ => exact ⟨rfl, rfl, ⟨[], .done _, .inr ⟨rfl, rfl⟩⟩, .slnil⟩

theorem machine_undergo (p : Participant) (a : Affair) :
    (p.undergo a).1.machine =
        ((a.opening p.machine).1.handleEach p.outlet (taken (p.undergo a).2)).1 ∧
      arisen (p.undergo a).2 = (a.opening p.machine).2 ++
        ((a.opening p.machine).1.handleEach p.outlet (taken (p.undergo a).2)).2 := by
  obtain ⟨es, conduct, form⟩ := (p.undergo_conducts a).conduct
  rcases form with form | ⟨none, form⟩
  · simp [form, conduct.handleEach_eq]
  · simp [form, none, conduct.handleEach_eq]

theorem cluster_undergo (p : Participant) (a : Affair) :
    (p.undergo a).1.machine.detector.cluster = (a.opening p.machine).1.detector.cluster := by
  rw [(p.machine_undergo a).1, Machine.cluster_handleEach]

theorem calls_handleAll_le (p : Participant) (es : List (Envelope Signal)) :
    (p.handleAll es).1.calls ≤ p.calls := by
  induction es generalizing p with
  | nil => exact Nat.le_refl _
  | cons e es ih => exact Nat.le_trans (ih _) (calls_handleWithin_le p.calls p e)

theorem within_handleAll (p : Participant) (es : List (Envelope Signal)) :
    Within (p.calls + es.length) (p.handleAll es) := by
  induction es generalizing p with
  | nil => exact Nat.le_of_eq (Nat.zero_add _)
  | cons e es ih =>
      have first := calls_handleWithin p.calls p e
      have rest := ih (p.handle e).1
      have split : taken (p.handleAll (e :: es)).2 =
          taken (p.handle e).2 ++ taken ((p.handle e).1.handleAll es).2 := by
        simp [handleAll]
      unfold Within handle at *
      rw [split, List.length_append, List.length_cons]
      change _ + ((handleWithin p.calls p e).1.handleAll es).1.calls ≤ _
      omega

/-- Every message that an affair makes the machine handle is its own, or is paid for with a call. -/
theorem within_undergo (p : Participant) (a : Affair) :
    Within (p.calls + (a.mail p.machine).length) (p.undergo a) := by
  cases a with
  | message e => exact calls_handleWithin p.calls p e
  | tick time => exact within_handleAll { p with machine := (p.machine.expire time).1 } _
  | operate op =>
      let begun : Participant := { p with machine := (Affair.opening p.machine (.operate op)).1 }
      exact within_tellAll (calls_handleWithin begun.calls)
        (Affair.opening p.machine (.operate op)).2 begun
  | enlist _ | dismiss _ => exact Nat.le_of_eq (Nat.zero_add _)

/-- Where no listener calls, an affair takes up its own messages and no others. -/
theorem taken_undergo_of_silent {p : Participant} (silent : p.calls = 0) (a : Affair) :
    taken (p.undergo a).2 = a.mail p.machine := by
  have cost := p.within_undergo a
  unfold Within at cost
  exact ((p.undergo_conducts a).mail.eq_of_length_le (by omega)).symm

theorem taken_operate_of_silent {p : Participant} (silent : p.calls = 0) (op : DetectorOperation) :
    taken (p.undergo (.operate op)).2 = [] :=
  taken_undergo_of_silent silent (.operate op)

theorem calls_undergo_le (p : Participant) (a : Affair) : (p.undergo a).1.calls ≤ p.calls := by
  cases a with
  | message e => exact calls_handleWithin_le p.calls p e
  | tick time => exact calls_handleAll_le { p with machine := (p.machine.expire time).1 } _
  | operate op => exact Nat.le_of_add_left_le (p.within_undergo (.operate op))
  | enlist _ | dismiss _ => exact Nat.le_refl _

end Participant
end Vigil
