import Vigil.Proofs.Participant.Conduct

/-!
Calls back are paid for. Every message that a listener has the machine handle costs that listener
one of its calls, so the messages taken up and the calls left are together no more than before
(`calls_handleWithin`), and a depth of as many calls as there are cuts no call short
(`handleWithin_eq_handle`).
-/

namespace Vigil

theorem SortedMap.foldr_add_insert {κ α : Type} [LT κ] [DecidableLT κ] [KeyOrder κ] [DecidableEq κ]
    (f : α → Nat) {m : SortedMap κ α} {k : κ} {v : α} (h : m.get? k = some v) (v' : α) :
    ((m.insert k v').values.map f).foldr (· + ·) 0 + f v =
      (m.values.map f).foldr (· + ·) 0 + f v' := by
  obtain ⟨l, increasing⟩ := m
  replace h : lookup k l = some v := h
  change (((place k v' l).map Prod.snd).map f).foldr (· + ·) 0 + f v =
    ((l.map Prod.snd).map f).foldr (· + ·) 0 + f v'
  induction l with
  | nil => cases h
  | cons e l ih =>
      have ⟨first, rest⟩ := List.pairwise_cons.mp increasing
      unfold place
      split
      · rename_i before
        have absent : lookup k (e :: l) = none := by
          refine lookup_eq_none_of_lt fun b hb => ?_
          rcases List.mem_cons.mp hb with rfl | hb
          · exact before
          · exact KeyOrder.trans before (first b hb)
        rw [absent] at h
        cases h
      · split
        · rename_i after
          have other : e.1 ≠ k := fun same => KeyOrder.irrefl k (same ▸ after)
          rw [lookup, if_neg other] at h
          have later := ih rest h
          simp only [List.map_cons, List.foldr_cons] at later ⊢
          omega
        · rename_i not_before not_after
          have same : e.1 = k := (KeyOrder.eq_of_not_lt not_before not_after).symm
          rw [lookup, if_pos same] at h
          cases h
          simp only [List.map_cons, List.foldr_cons]
          omega

namespace Participant

variable {p : Participant} {name : String} {turn : List (Envelope Signal)}
  {turns : List (List (Envelope Signal))}
  {callBack callBack' : Participant → Envelope Signal → Participant × List Effect}

theorem calls_turned {kind : TransitionKind}
    (acts : (p.watcher name).actOn kind = .call (turn :: turns)) :
    (p.turned name).calls + turn.length = p.calls := by
  have act : (p.watcher name).act = .call (turn :: turns) := by
    unfold Watcher.actOn at acts
    split at acts
    · exact acts
    · cases acts
  have found : p.watchers.get? name = some (p.watcher name) := by
    unfold watcher at act ⊢
    cases h : p.watchers.get? name with
    | none =>
        rw [h] at act
        cases act
    | some w => rfl
  have before : (p.watcher name).calls = turn.length + turns.flatten.length := by
    simp [Watcher.calls, act]
  have after : (p.watcher name).called.calls = turns.flatten.length := by
    simp [Watcher.called, Watcher.calls, act]
  have sum : (p.turned name).calls + _ = p.calls + _ :=
    SortedMap.foldr_add_insert Watcher.calls found (p.watcher name).called
  omega

/-- The messages taken up and the calls left are no more than what there was. -/
def Within (limit : Nat) (r : Participant × List Effect) : Prop :=
  (taken r.2).length + r.1.calls ≤ limit

theorem Within.append {limit : Nat} {r r' : Participant × List Effect} (h : Within limit r)
    (h' : Within r.1.calls r') : Within limit (r'.1, r.2 ++ r'.2) := by
  unfold Within at h h' ⊢
  rw [taken_append, List.length_append]
  dsimp only
  omega

section Cost

variable (cost : ∀ (p : Participant) (e : Envelope Signal), Within (p.calls + 1) (callBack p e))
include cost

theorem within_callEach (name : String) (messages : List (Envelope Signal)) (p : Participant) :
    Within (p.calls + messages.length) (callEach callBack name messages p) := by
  induction messages generalizing p with
  | nil => exact Nat.le_of_eq (Nat.zero_add _)
  | cons e messages ih =>
      have first := cost p e
      have rest := ih (callBack p e).1
      have split : taken (callEach callBack name (e :: messages) p).2 =
          taken (callBack p e).2 ++ taken (callEach callBack name messages (callBack p e).1).2 := by
        simp [callEach, Effect.Aside.taken_cons (e := .handled name) trivial]
      unfold Within at first rest ⊢
      rw [split, List.length_append, List.length_cons]
      change _ + (callEach callBack name messages (callBack p e).1).1.calls ≤ _
      omega

theorem within_tell (t : Transition) (p : Participant) (name : String) :
    Within p.calls (tell callBack t p name) := by
  rcases p.tell_cases t name with ⟨es, quiet, eq⟩ | ⟨turn, turns, acts, eq⟩
  · rw [eq, Within, taken_told, taken_of_asides quiet]
    exact Nat.le_of_eq (Nat.zero_add _)
  · have called := within_callEach cost name turn (p.turned name)
    rw [calls_turned acts] at called
    rw [eq, Within, taken_told]
    exact called

theorem within_tellEach (t : Transition) (names : List String) (p : Participant) :
    Within p.calls (tellEach callBack t names p) := by
  induction names generalizing p with
  | nil => exact Nat.le_of_eq (Nat.zero_add _)
  | cons name names ih => exact (within_tell cost t p name).append (ih _)

theorem within_tellAll (ts : List Transition) (p : Participant) :
    Within p.calls (tellAll callBack ts p) := by
  induction ts generalizing p with
  | nil => exact Nat.le_of_eq (Nat.zero_add _)
  | cons t ts ih => exact (within_tellEach cost t _ p).append (ih _)

theorem within_handleWith (p : Participant) (e : Envelope Signal) :
    Within (p.calls + 1) (handleWith callBack p e) := by
  let begun : Participant := { p with machine := (p.machine.handle p.outlet e).1 }
  have told : Within p.calls (tellAll callBack (p.machine.handle p.outlet e).2.transitions begun) :=
    within_tellAll cost _ begun
  have quiet : taken (p.machine.handle p.outlet e).2.effects = [] :=
    taken_of_asides fun _ => Effect.aside_of_mem_effects
  have split : taken (handleWith callBack p e).2 =
      e :: taken (tellAll callBack (p.machine.handle p.outlet e).2.transitions begun).2 := by
    simp [handleWith, quiet, begun]
  have left : (handleWith callBack p e).1 =
      (tellAll callBack (p.machine.handle p.outlet e).2.transitions begun).1 := rfl
  unfold Within at told ⊢
  rw [split, left, List.length_cons]
  omega

end Cost

/-- Every message that is handled because of `e` is paid for with a call. -/
theorem calls_handleWithin (depth : Nat) (p : Participant) (e : Envelope Signal) :
    (taken (handleWithin depth p e).2).length + (handleWithin depth p e).1.calls ≤ p.calls + 1 := by
  induction depth generalizing p e with
  | zero => exact within_handleWith (fun p _ => by simp [Within]) p e
  | succ depth ih => exact within_handleWith ih p e

theorem calls_handleWithin_le (depth : Nat) (p : Participant) (e : Envelope Signal) :
    (handleWithin depth p e).1.calls ≤ p.calls := by
  have cost := calls_handleWithin depth p e
  obtain ⟨ts, es, effects⟩ := handleWithin_effects depth p e
  rw [effects, taken_took, List.length_cons] at cost
  omega

/-! ### The depth of calls -/

/-- Two ways of handling calls back that cost what they must, and agree where fewer than `limit`
calls are left. -/
structure Agree (limit : Nat)
    (callBack callBack' : Participant → Envelope Signal → Participant × List Effect) : Prop where
  eq : ∀ p e, p.calls < limit → callBack p e = callBack' p e
  cost : ∀ p e, Within (p.calls + 1) (callBack p e)
  fewer : ∀ p e, (callBack p e).1.calls ≤ p.calls

namespace Agree

variable {limit : Nat} (h : Agree limit callBack callBack')
include h

theorem callEach_eq (name : String) (messages : List (Envelope Signal)) (left : p.calls < limit) :
    callEach callBack name messages p = callEach callBack' name messages p := by
  induction messages generalizing p with
  | nil => rfl
  | cons e messages ih =>
      have rest := ih (Nat.lt_of_le_of_lt (h.fewer p e) left)
      simp only [callEach, ← h.eq p e left, rest]

theorem tell_eq (t : Transition) (name : String) (left : p.calls ≤ limit) :
    tell callBack t p name = tell callBack' t p name := by
  rcases p.tell_cases t name with ⟨es, -, eq⟩ | ⟨turn, turns, acts, eq⟩
  · rw [eq, eq]
  · rw [eq, eq]
    cases turn with
    | nil => rfl
    | cons e turn =>
        have spent := calls_turned acts
        rw [List.length_cons] at spent
        rw [h.callEach_eq name (e :: turn) (by omega)]

theorem tellEach_eq (t : Transition) (names : List String) (left : p.calls ≤ limit) :
    tellEach callBack t names p = tellEach callBack' t names p := by
  induction names generalizing p with
  | nil => rfl
  | cons name names ih =>
      have spent : (tell callBack t p name).1.calls ≤ p.calls :=
        Nat.le_of_add_left_le (within_tell h.cost t p name)
      simp only [tellEach, ← h.tell_eq t name left, ih (Nat.le_trans spent left)]

theorem tellAll_eq (ts : List Transition) (left : p.calls ≤ limit) :
    tellAll callBack ts p = tellAll callBack' ts p := by
  induction ts generalizing p with
  | nil => rfl
  | cons t ts ih =>
      have spent : (tellEach callBack t p.registry.toList p).1.calls ≤ p.calls :=
        Nat.le_of_add_left_le (within_tellEach h.cost t _ p)
      simp only [tellAll, ← h.tellEach_eq t _ left, ih (Nat.le_trans spent left)]

theorem handleWith_eq (e : Envelope Signal) (left : p.calls ≤ limit) :
    handleWith callBack p e = handleWith callBack' p e := by
  have told := h.tellAll_eq (p := { p with machine := (p.machine.handle p.outlet e).1 })
    (p.machine.handle p.outlet e).2.transitions left
  unfold handleWith
  dsimp only
  rw [told]

end Agree

/-- What calls back go to where calls may be nested at most `depth` deep. -/
def backAt : Nat → Participant → Envelope Signal → Participant × List Effect
  | 0 => fun p _ => (p, [])
  | depth + 1 => handleWithin depth

theorem handleWithin_eq_handleWith (depth : Nat) :
    handleWithin depth = handleWith (backAt depth) := by
  cases depth <;> rfl

theorem agree_backAt {limit depth depth' : Nat}
    (eq : ∀ p e, p.calls < limit → backAt depth p e = backAt depth' p e) :
    Agree limit (backAt depth) (backAt depth') := by
  cases depth with
  | zero => exact ⟨eq, fun p _ => by simp [backAt, Within], fun _ _ => Nat.le_refl _⟩
  | succ depth => exact ⟨eq, calls_handleWithin depth, calls_handleWithin_le depth⟩

theorem agree_handleWithin {limit depth depth' : Nat} (h : limit ≤ depth) (h' : limit ≤ depth') :
    Agree limit (backAt depth) (backAt depth') := by
  -- on the calls left: handling a call back leaves one fewer
  induction limit generalizing depth depth' with
  | zero => exact agree_backAt fun _ _ left => absurd left (Nat.not_lt_zero _)
  | succ limit ih =>
      refine agree_backAt fun p e left => ?_
      cases depth with
      | zero => exact absurd h (Nat.not_succ_le_zero limit)
      | succ depth =>
          cases depth' with
          | zero => exact absurd h' (Nat.not_succ_le_zero limit)
          | succ depth' =>
              have agree := ih (Nat.le_of_succ_le_succ h) (Nat.le_of_succ_le_succ h')
              change handleWithin depth p e = handleWithin depth' p e
              rw [handleWithin_eq_handleWith, handleWithin_eq_handleWith]
              exact agree.handleWith_eq e (Nat.le_of_lt_succ left)

/-- A depth that allows for all calls cuts none of them short. -/
theorem handleWithin_eq_handle {depth : Nat} (enough : p.calls ≤ depth) (e : Envelope Signal) :
    handleWithin depth p e = p.handle e := by
  rw [handle, handleWithin_eq_handleWith, handleWithin_eq_handleWith]
  exact (agree_handleWithin enough (Nat.le_refl _)).handleWith_eq e (Nat.le_refl _)

end Participant
end Vigil
