import Vigil.Proofs.Participant.Affairs

/-!
What a participant sends. Its effects list the envelopes that its outlet has taken, and these are
the ones that its machine hands on for the messages it takes up (`Participant.Posts`). Listeners make
a difference by the messages they call the machine for, and by nothing else.
-/

namespace Vigil

def Effect.sent? : Effect → Option (Envelope Signal)
  | sent e => some e
  | _ => none

def sent (es : List Effect) : List (Envelope Signal) := es.filterMap Effect.sent?

/-- The envelopes that are handed on and not refused. -/
def accepted (hs : List Handed) : List (Envelope Signal) :=
  hs.filterMap fun h => h.effect.sent?

@[simp] theorem sent_append (es es' : List Effect) : sent (es ++ es') = sent es ++ sent es' :=
  List.filterMap_append

@[simp] theorem accepted_append (hs hs' : List Handed) :
    accepted (hs ++ hs') = accepted hs ++ accepted hs' :=
  List.filterMap_append

theorem sent_effects (o : Outcome) : sent o.effects = accepted o.handed := by
  have unsent : sent (o.warnings.map Effect.warned) = [] := by
    simp [sent, List.filterMap_eq_nil_iff, Effect.sent?]
  rw [Outcome.effects, sent_append, unsent, List.append_nil, sent, List.filterMap_map]
  rfl

theorem Machine.handedAll_handle (m : Machine) (outlet : Outlet) (e : Envelope Signal)
    (es : List (Envelope Signal)) :
    m.handedAll (Machine.inTurn outlet (e :: es)) = (m.handle outlet e).2.handed ++
      (m.handle outlet e).1.handedAll (Machine.inTurn outlet es) := rfl

namespace Participant

variable {p : Participant} {r r' : Participant × List Effect}
  {notices : List (String × Transition)}
  {callBack : Participant → Envelope Signal → Participant × List Effect}

/-- What is sent on the way to `r` is what the machine hands on for the messages taken up. -/
def Posts (p : Participant) (r : Participant × List Effect) : Prop :=
  sent r.2 = accepted (p.machine.handedAll (Machine.inTurn p.outlet (taken r.2)))

theorem Posts.append (gives : p.Gives notices r) (h : p.Posts r) (h' : r.1.Posts r') :
    p.Posts (r'.1, r.2 ++ r'.2) := by
  have after : p.machine.undergoAll (Machine.inTurn p.outlet (taken r.2)) = r.1.machine := by
    rw [← Machine.handleEach_eq_undergoAll, gives.conduct.handleEach_eq]
  unfold Posts at *
  rw [gives.outlet_eq] at h'
  rw [sent_append, taken_append, Machine.inTurn_append, Machine.handedAll_append, accepted_append,
    after, h, h']

/-- An effect that neither takes up a message nor sends one does not count. -/
theorem Posts.aside (h : p.Posts r) (e : Effect) (untaken : e.taken? = none)
    (unsent : e.sent? = none) : p.Posts (r.1, e :: r.2) := by
  simpa [Posts, taken, sent, untaken, unsent] using h

theorem Posts.nothing (p : Participant) : p.Posts (p, []) := rfl

section CallBack

variable (back : ∀ (p : Participant) (e : Envelope Signal), p.Gives [] (callBack p e))
  (posts : ∀ (p : Participant) (e : Envelope Signal), p.Posts (callBack p e))
include back posts

theorem posts_callEach (name : String) (messages : List (Envelope Signal)) :
    p.Posts (callEach callBack name messages p) := by
  induction messages generalizing p with
  | nil => exact .nothing p
  | cons e messages ih => exact (posts p e).append (back p e) (ih.aside (.handled name) rfl rfl)

theorem posts_tell (t : Transition) (name : String) : p.Posts (tell callBack t p name) := by
  have nothing := Posts.nothing p
  unfold tell
  dsimp only
  split
  · exact nothing.aside (.told name t) rfl rfl
  · exact (nothing.aside (.warned _) rfl rfl).aside (.told name t) rfl rfl
  · exact (nothing.aside (.queried name ..) rfl rfl).aside (.told name t) rfl rfl
  · exact nothing.aside (.told name t) rfl rfl
  · rename_i turn _ _
    exact (posts_callEach back posts name turn (p := p.turned name)).aside (.told name t) rfl rfl

theorem posts_tellEach (t : Transition) (names : List String) :
    p.Posts (tellEach callBack t names p) := by
  induction names generalizing p with
  | nil => exact .nothing p
  | cons name names ih => exact (posts_tell back posts t name).append (gives_tell back t name) ih

theorem posts_tellAll (ts : List Transition) : p.Posts (tellAll callBack ts p) := by
  induction ts generalizing p with
  | nil => exact .nothing p
  | cons t ts ih =>
      exact (posts_tellEach back posts t p.registry.toList).append
        (gives_tellEach back t p.registry.toList) ih

theorem posts_handleWith (e : Envelope Signal) : p.Posts (handleWith callBack p e) := by
  have told := posts_tellAll back posts
    (p := { p with machine := (p.machine.handle p.outlet e).1 })
    (p.machine.handle p.outlet e).2.transitions
  have quiet : taken (p.machine.handle p.outlet e).2.effects = [] :=
    taken_of_asides fun _ => Effect.aside_of_mem_effects
  unfold Posts at *
  simp only [handleWith, taken_took, taken_arose, taken_append, quiet, List.nil_append,
    List.cons_append, Machine.handedAll_handle, accepted_append]
  rw [← told, ← sent_effects, ← sent_append]
  rfl

end CallBack

theorem posts_handleWithin (depth : Nat) (p : Participant) (e : Envelope Signal) :
    p.Posts (handleWithin depth p e) := by
  induction depth generalizing p e with
  | zero => exact posts_handleWith (fun p _ => .nothing p) (fun p _ => .nothing p) e
  | succ depth ih => exact posts_handleWith (gives_handleWithin depth) ih e

theorem posts_handleAll (p : Participant) (es : List (Envelope Signal)) :
    p.Posts (p.handleAll es) := by
  induction es generalizing p with
  | nil => exact .nothing p
  | cons e es ih => exact (posts_handleWithin p.calls p e).append (p.gives_handle e) (ih _)

/-- Whatever happens, what is sent is what the machine hands on for the messages taken up. -/
theorem sent_undergo (p : Participant) (a : Affair) :
    sent (p.undergo a).2 = accepted ((a.opening p.machine).1.handedAll
      (Machine.inTurn p.outlet (taken (p.undergo a).2))) := by
  cases a with
  | message e => exact posts_handleWithin p.calls p e
  | tick time => exact posts_handleAll { p with machine := (p.machine.expire time).1 } _
  | operate op =>
      let begun : Participant := { p with machine := (Affair.opening p.machine (.operate op)).1 }
      exact posts_tellAll (p := begun) (gives_handleWithin begun.calls)
        (posts_handleWithin begun.calls) (Affair.opening p.machine (.operate op)).2
  | enlist _ | dismiss _ => rfl

end Participant
end Vigil
