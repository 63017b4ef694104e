import Vigil.Network
import Vigil.Node
import Vigil.Proofs.Detector.Mail
import Vigil.Proofs.Identifier

/-!
Letters in their envelopes. A sealed letter names its sender and goes to its recipient and nowhere
else, and what an instance sends while it watches is mail that its recipient awaits.
-/

namespace Vigil

namespace Envelope

/-- The envelope is addressed to `o` alone. -/
def isFor (o : InstanceId) (e : Envelope Signal) : Bool := e.recipient? == some o.text

/-- The reports of `q` for `o`, in order. -/
def reportsFor (o q : InstanceId) (l : List (Envelope Signal)) : List InstanceSet :=
  l.filterMap fun e => if e.isFor o then e.reportFrom q else none

theorem reportsFor_append (o q : InstanceId) (l l' : List (Envelope Signal)) :
    reportsFor o q (l ++ l') = reportsFor o q l ++ reportsFor o q l' :=
  List.filterMap_append

end Envelope

namespace Letter

variable (l : Letter) (me : InstanceId) (k : Nat)

@[simp] theorem content_seal : (l.seal me k).content = l.signal := rfl

@[simp] theorem recipient?_seal : (l.seal me k).recipient? = some l.recipient.text := by
  simp [Letter.seal, Envelope.recipient?, Envelope.sendTo, Header.recipient, Header.sender,
    Header.conversation, Header.creator]

@[simp] theorem sender_seal : (l.seal me k).sender = .ok me := by
  have header : (l.seal me k).header? Header.sender = some me.text := by
    simp [Letter.seal, Header.sender, Header.conversation, Header.creator]
  simp [Envelope.sender, header, InstanceId.parse_text]

@[simp] theorem isFor_seal (o : InstanceId) :
    (l.seal me k).isFor o = decide (l.recipient = o) := by
  rw [Bool.eq_iff_iff]
  simp [Envelope.isFor, InstanceId.text_inj]

theorem reportFor_seal (o : InstanceId) :
    (if (l.seal me k).isFor o then (l.seal me k).reportFrom me else none) = l.reportFor o := by
  unfold Envelope.reportFrom reportFor
  rw [content_seal, isFor_seal, sender_seal]
  cases l.signal <;> simp

theorem destination_seal (sender : InstanceId) (running : InstanceSet) :
    (l.seal me k).destination sender running = .instances [l.recipient] := by
  simp [Envelope.destination, InstanceId.text_ne_everybody, InstanceId.parse_text]

end Letter

namespace Machine

variable {outlet : Outlet} {me o : InstanceId} {count : Nat} {letters : List Letter}
  {e : Envelope Signal} {l : Letter}

theorem mem_hand (h : e ∈ (hand outlet me count letters).map Handed.envelope) :
    ∃ l ∈ letters, ∃ k, e = l.seal me k := by
  induction letters generalizing count with
  | nil => exact absurd h List.not_mem_nil
  | cons l letters ih =>
      rcases List.mem_cons.mp h with rfl | h
      · exact ⟨l, List.mem_cons_self .., count + 1, rfl⟩
      · obtain ⟨l', hl', k, he⟩ := ih h
        exact ⟨l', List.mem_cons_of_mem l hl', k, he⟩

theorem seal_mem_hand (h : l ∈ letters) :
    ∃ k, l.seal me k ∈ (hand outlet me count letters).map Handed.envelope := by
  induction letters generalizing count with
  | nil => exact absurd h List.not_mem_nil
  | cons l' letters ih =>
      rcases List.mem_cons.mp h with rfl | h
      · exact ⟨count + 1, List.mem_cons_self ..⟩
      · obtain ⟨k, hk⟩ := @ih (count + 1) h
        exact ⟨k, List.mem_cons_of_mem _ hk⟩

theorem reportsFor_hand :
    Envelope.reportsFor o me ((hand outlet me count letters).map Handed.envelope) =
      letters.filterMap (·.reportFor o) := by
  induction letters generalizing count with
  | nil => rfl
  | cons l letters ih =>
      have head := l.reportFor_seal me (count + 1) o
      simp only [hand, List.map_cons, Envelope.reportsFor, List.filterMap_cons] at ih ⊢
      rw [head, ih]

end Machine

/-- A letter that an instance may send while it watches. -/
structure Letter.Fit (l : Letter) (me : InstanceId) (members : List InstanceId) : Prop where
  member : l.recipient ∈ members
  other : l.recipient ≠ me
  signal : l.signal = .iAmAlive me ∨ ∃ s, l.signal = .suspicions s ∧ ∀ x ∈ s, x ∈ members

/-- The envelope of such a letter. -/
def Posted (me : InstanceId) (members : List InstanceId) (e : Envelope Signal) : Prop :=
  ∃ l : Letter, ∃ k, e = l.seal me k ∧ l.Fit me members

/-- What is sent to an instance is what it awaits. -/
theorem Posted.awaited {me o : InstanceId} {members : List InstanceId} {e : Envelope Signal}
    (h : Posted me members e) (self : me ∈ members) (ho : e.isFor o = true) :
    Detector.Awaited o members e := by
  obtain ⟨l, k, rfl, fit⟩ := h
  rw [Letter.isFor_seal, decide_eq_true_eq] at ho
  have other : me ≠ o := fun h => fit.other (ho.trans h.symm)
  rcases fit.signal with hs | ⟨s, hs, hsub⟩
  · exact .heartbeat me hs self other
  · exact .report me s hs (l.sender_seal me k) self other hsub

end Vigil
