import Vigil.Proofs.Detector.History
import Vigil.Proofs.Machine.QuorumSafety
import Vigil.Proofs.Node.Post

/-!
What a machine writes to the others. Every letter that a message brings about is a heartbeat of its
own or its present report, for a peer (`Detector.proper_respondInHeartbeat`), and letters are
numbered in the order in which they are handed on (`getElem?_hand`). What the outlet answers leaves
no trace in the machine, so the same run with other outlets writes the same (`handedAll_through`).
-/

namespace Vigil

/-- The envelope of the `number`th letter of `me`, for `peer`, where `d` is the detector of `me` at
the time. -/
structure Envelope.Issued (me : InstanceId) (d : Detector) (number : Nat) (peer : InstanceId)
    (e : Envelope Signal) : Prop where
  headers : e.headers = .ofList [(Header.recipient, peer.text), (Header.sender, me.text),
    (Header.conversation, me.text ++ "/" ++ toString number), (Header.creator, me.text)]
  member : peer ∈ d.cluster.members
  other : peer ≠ me
  content : e.content = .iAmAlive me ∨
    e.content = .suspicions (d.reportOf me) ∧ me ∉ d.reportOf me ∧ d.isFailed peer = false

theorem Letter.headers_seal (l : Letter) (me : InstanceId) (number : Nat) :
    (l.seal me number).headers =
      .ofList [(Header.recipient, l.recipient.text), (Header.sender, me.text),
        (Header.conversation, me.text ++ "/" ++ toString number), (Header.creator, me.text)] :=
  rfl

/-- The same with another outlet. -/
def Stimulus.through (outlet : Outlet) : Stimulus → Stimulus
  | .handle _ e => .handle outlet e
  | s => s

namespace Detector

variable {d d' : Detector} {e : Envelope Signal} {l : Letter}

/-! ### Letters -/

/-- A letter for a peer: a heartbeat, or the own report if the peer is not failed by quorum. -/
structure Proper (d : Detector) (l : Letter) : Prop where
  peer : l.recipient ∈ d.cluster.peers
  signal : l.signal = .iAmAlive d.me ∨
    l.signal = .suspicions (d.reportOf d.me) ∧ d.isFailed l.recipient = false

theorem proper_reportLetters (h : l ∈ d.reportLetters) : d.Proper l := by
  obtain ⟨peer, hp, rfl⟩ := List.mem_map.mp h
  obtain ⟨alive, other⟩ := List.mem_filter.mp hp
  obtain ⟨member, unfailed⟩ := List.mem_filter.mp alive
  refine ⟨mem_peers.mpr ⟨member, by simpa using other⟩, .inr ⟨rfl, ?_⟩⟩
  simpa using unfailed

theorem Proper.setTimer (h : d.Proper l) (k : TimerKey) (message : Envelope Signal) :
    (d.setTimer k message).Proper l :=
  ⟨h.peer, h.signal⟩

theorem proper_respondInHeartbeat (h : l ∈ (d.respondInHeartbeat e).letters) :
    (d.respondInHeartbeat e).detector.Proper l := by
  have nothing {p : Prop} (h : l ∈ ([] : List Letter)) : p := absurd h List.not_mem_nil
  unfold respondInHeartbeat at h ⊢
  split at h
  · exact nothing h
  · exact nothing h
  · split at h
    · exact nothing h
    · rename_i inside
      rw [if_neg inside]
      dsimp only at h ⊢
      split at h
      · exact (proper_reportLetters h).setTimer _ _
      · exact nothing h
  · split at h
    · rename_i member
      rw [if_pos member]
      exact proper_reportLetters h
    · exact nothing h
  · split at h
    · exact nothing h
    · rename_i inside
      rw [if_neg inside]
      obtain rfl := List.mem_singleton.mp h
      exact Proper.setTimer ⟨not_not.mp (mt not_mem_peers.mp inside), .inl rfl⟩ _ _
  · split at h <;> exact nothing h
  · split at h <;> exact nothing h

/-! ### No suspicion of oneself -/

/-- Nobody is taken to suspect this instance. -/
def Selfless (d : Detector) : Prop := ∀ r, d.me ∉ d.reportOf r

theorem Selfless.of_reports (h : d.Selfless) (me : d'.me = d.me)
    (reports : ∀ r x, x ∈ d'.reportOf r → x ∈ d.reportOf r ∨ x ≠ d.me) : d'.Selfless := by
  intro r hr
  rw [me] at hr
  rcases reports r d.me hr with old | other
  · exact h r old
  · exact other rfl

end Detector

namespace Machine

variable {m : Machine} {outlet outlet' : Outlet} {me : InstanceId} {count : Nat}
  {letters : List Letter} {s : Stimulus} {history : List Stimulus}

theorem proper_respond {e : Envelope Signal} {l : Letter} (h : l ∈ (m.respond e).letters) :
    (m.respond e).detector.Proper l := by
  rcases m.respond_cases e with ⟨-, -, respond⟩ | ⟨-, -, respond⟩ | ⟨-, respond⟩ <;>
    rw [respond] at h ⊢
  · exact absurd h List.not_mem_nil
  · exact absurd h List.not_mem_nil
  · exact Detector.proper_respondInHeartbeat h

theorem me_undergo (m : Machine) (s : Stimulus) : (m.undergo s).me = m.me := by
  cases s with
  | handle outlet e => exact congrArg Cluster.me (m.cluster_handle outlet e)
  | expire _ => rfl
  | change c => exact m.detector.cluster.me_apply c
  | sync => exact congrArg Cluster.me m.detector.cluster_syncMembers
  | depart id => exact congrArg Cluster.me (m.detector.cluster_depart id)

theorem me_undergoAll (m : Machine) (history : List Stimulus) :
    (m.undergoAll history).me = m.me :=
  undergoAll_induction (P := fun n => n.me = m.me) rfl
    (fun n s same => (n.me_undergo s).trans same) history

theorem selfless_undergo (h : m.detector.Selfless) (s : Stimulus) :
    (m.undergo s).detector.Selfless := by
  refine h.of_reports (m.me_undergo s) fun r x hx => ?_
  cases s with
  | handle outlet e => exact (mem_reportOf_handle hx).imp_right fun accused => accused.2.1
  | expire _ | change _ => exact .inl hx
  | sync => exact .inl (m.reportOf_undergo_sync r ▸ hx)
  | depart id => exact .inl (mem_reportOf_undergo_depart.mp hx).1

theorem selfless_undergoAll (h : m.detector.Selfless) (history : List Stimulus) :
    (m.undergoAll history).detector.Selfless :=
  undergoAll_induction (P := fun m => m.detector.Selfless) h
    (fun _ s selfless => selfless_undergo selfless s) history

/-! ### Numbers -/

theorem getElem?_hand (i : Nat) :
    (hand outlet me count letters)[i]? = letters[i]?.map fun l =>
      ⟨l.seal me (count + i + 1), outlet (count + i + 1)⟩ := by
  induction letters generalizing count i with
  | nil => rfl
  | cons l letters ih =>
      cases i with
      | zero => rfl
      | succ i =>
          rw [hand, List.getElem?_cons_succ, ih, List.getElem?_cons_succ,
            Nat.add_right_comm count 1 i, Nat.add_assoc count i 1]

theorem length_hand : (hand outlet me count letters).length = letters.length := by
  induction letters generalizing count with
  | nil => rfl
  | cons l letters ih => exact congrArg Nat.succ ih

theorem sentCount_undergo (m : Machine) (s : Stimulus) :
    (m.undergo s).sentCount = m.sentCount + (m.handedOn s).length := by
  cases s with
  | handle outlet e => exact congrArg (m.sentCount + ·) length_hand.symm
  | expire _ | change _ | sync | depart _ => rfl

theorem sentCount_undergoAll (m : Machine) (history : List Stimulus) :
    (m.undergoAll history).sentCount = m.sentCount + (m.handedAll history).length := by
  induction history generalizing m with
  | nil => rfl
  | cons s history ih =>
      have later := ih (m.undergo s)
      rw [sentCount_undergo, Nat.add_assoc, ← List.length_append] at later
      exact later

/-! ### Other outlets -/

/-- The transitions that come of it. -/
def announced (m : Machine) : Stimulus → List Transition
  | .handle outlet e => (m.handle outlet e).2.transitions
  | .sync => (m.withDetector fun d => (d.syncMembers, ())).2.2
  | .depart id => (m.withDetector fun d => (d.depart id, ())).2.2
  | .expire _ | .change _ => []

/-- The transitions that come of things that happen one after the other. -/
def announcedAll (m : Machine) : List Stimulus → List Transition
  | [] => []
  | s :: ss => m.announced s ++ (m.undergo s).announcedAll ss

theorem envelopes_hand (outlet outlet' : Outlet) :
    (hand outlet me count letters).map Handed.envelope =
      (hand outlet' me count letters).map Handed.envelope := by
  induction letters generalizing count with
  | nil => rfl
  | cons l letters ih => exact congrArg (l.seal me (count + 1) :: ·) ih

theorem undergo_through (m : Machine) (outlet : Outlet) (s : Stimulus) :
    m.undergo (s.through outlet) = m.undergo s := by
  cases s <;> rfl

theorem announced_through (m : Machine) (outlet : Outlet) (s : Stimulus) :
    m.announced (s.through outlet) = m.announced s := by
  cases s <;> rfl

theorem handedOn_through (m : Machine) (outlet : Outlet) (s : Stimulus) :
    (m.handedOn (s.through outlet)).map Handed.envelope =
      (m.handedOn s).map Handed.envelope := by
  cases s with
  | handle outlet' e => exact envelopes_hand outlet outlet'
  | expire _ | change _ | sync | depart _ => rfl

theorem undergoAll_through (m : Machine) (outlet : Outlet) (history : List Stimulus) :
    m.undergoAll (history.map (·.through outlet)) = m.undergoAll history := by
  induction history generalizing m with
  | nil => rfl
  | cons s history ih =>
      change (m.undergo (s.through outlet)).undergoAll _ = (m.undergo s).undergoAll history
      rw [undergo_through, ih]

theorem announcedAll_through (m : Machine) (outlet : Outlet) (history : List Stimulus) :
    m.announcedAll (history.map (·.through outlet)) = m.announcedAll history := by
  induction history generalizing m with
  | nil => rfl
  | cons s history ih =>
      rw [List.map_cons, announcedAll, announcedAll, announced_through, undergo_through, ih]

theorem handedAll_through (m : Machine) (outlet : Outlet) (history : List Stimulus) :
    (m.handedAll (history.map (·.through outlet))).map Handed.envelope =
      (m.handedAll history).map Handed.envelope := by
  induction history generalizing m with
  | nil => rfl
  | cons s history ih =>
      rw [List.map_cons, handedAll, handedAll, List.map_append, List.map_append,
        handedOn_through, undergo_through, ih]

/-! ### Whole runs -/

theorem issued_handedOn (selfless : m.detector.Selfless) {i : Nat} {h : Handed}
    (handed : (m.handedOn s)[i]? = some h) :
    ∃ outlet e, s = .handle outlet e ∧ h.refusal = outlet (m.sentCount + i + 1) ∧
      ∃ peer, h.envelope.Issued m.me (m.undergo s).detector (m.sentCount + i + 1) peer := by
  cases s with
  | expire _ | change _ | sync | depart _ => exact absurd handed (by simp [handedOn])
  | handle outlet e =>
      refine ⟨outlet, e, rfl, ?_⟩
      rw [handedOn, handle, getElem?_hand] at handed
      obtain ⟨l, written, rfl⟩ := Option.map_eq_some_iff.mp handed
      refine ⟨rfl, l.recipient, ?_⟩
      have proper := proper_respond (List.mem_of_getElem? written)
      have same : (m.respond e).detector.me = m.me := m.me_undergo (.handle outlet e)
      obtain ⟨member, other⟩ := Detector.mem_peers.mp proper.peer
      have own : m.me ∉ (m.respond e).detector.reportOf m.me :=
        same ▸ selfless_undergo selfless (.handle outlet e) m.me
      rw [same] at other
      refine ⟨l.headers_seal m.me _, member, other, ?_⟩
      have signal := proper.signal
      rw [same] at signal
      exact signal.imp_right fun report => ⟨report.1, own, report.2⟩

/-- Everything that a machine writes is written while it handles a message, with its own name and the
next number on it, to a peer, and says that it is alive or whom it suspects then. With other outlets
it does and writes the same. -/
theorem sends_in_own_name (cluster : Cluster) (timers : HeartbeatTimers)
    (history : List Stimulus) :
    let m := fresh cluster timers
    (∀ k h, (m.handedAll history)[k]? = some h →
      ∃ past outlet e, past ++ [.handle outlet e] <+: history ∧
        h ∈ (m.undergoAll past).handedOn (.handle outlet e) ∧ h.refusal = outlet (k + 1) ∧
        ∃ peer, h.envelope.Issued cluster.me
          (m.undergoAll (past ++ [.handle outlet e])).detector (k + 1) peer) ∧
    ∀ outlet,
      let rerouted := history.map (·.through outlet)
      m.undergoAll rerouted = m.undergoAll history ∧
      m.announcedAll rerouted = m.announcedAll history ∧
      (m.handedAll rerouted).map Handed.envelope = (m.handedAll history).map Handed.envelope := by
  intro m
  refine ⟨fun k h handed => ?_, fun outlet =>
    ⟨m.undergoAll_through outlet history, m.announcedAll_through outlet history,
      m.handedAll_through outlet history⟩⟩
  induction history using List.reverseRecOn with
  | nil => exact absurd handed (by simp [handedAll])
  | append_singleton past s ih =>
      rw [handedAll_append] at handed
      rcases Nat.lt_or_ge k (m.handedAll past).length with earlier | now
      · rw [List.getElem?_append_left earlier] at handed
        obtain ⟨past', outlet, e, before, issued⟩ := ih handed
        exact ⟨past', outlet, e, before.trans (List.prefix_append past [s]), issued⟩
      · have selfless : (m.undergoAll past).detector.Selfless :=
          selfless_undergoAll (fun _ => SortedSet.not_mem_empty _) past
        have count : (m.undergoAll past).sentCount = (m.handedAll past).length :=
          (m.sentCount_undergoAll past).trans (Nat.zero_add _)
        rw [List.getElem?_append_right now, handedAll, handedAll, List.append_nil] at handed
        obtain ⟨outlet, e, rfl, refusal, peer, issued⟩ := issued_handedOn selfless handed
        rw [count, Nat.add_sub_cancel' now] at refusal issued
        rw [me_undergoAll] at issued
        refine ⟨past, outlet, e, List.prefix_refl _, List.mem_of_getElem? handed, refusal, peer, ?_⟩
        rw [undergoAll_append]
        exact issued

/-- The third of three members is told that the first suspects it, in the second letter of the first,
even if the outlet is closed. -/
theorem third_told_of_suspicion :
    let m := freshIn 1 [1, 2, 3] (.start (.fixed (.ofMillis 1000)))
    let refused := silentThird.map (·.through (.refusing .closed))
    let second : Handed := ⟨(⟨3, .suspicions (.ofList [3])⟩ : Letter).seal 1 2, some .closed⟩
    (m.handedAll refused)[1]? = some second ∧
    (∃ past outlet e, past ++ [.handle outlet e] <+: refused ∧
      second ∈ (m.undergoAll past).handedOn (.handle outlet e) ∧ second.refusal = outlet 2 ∧
      ∃ peer, second.envelope.Issued 1
        (m.undergoAll (past ++ [.handle outlet e])).detector 2 peer) ∧
    (m.handedAll refused).map Handed.envelope = (m.handedAll silentThird).map Handed.envelope := by
  intro m refused second
  have handed : (m.handedAll refused)[1]? = some second := by decide +kernel
  have written := sends_in_own_name (.ofMembers 1 [1, 2, 3])
    (.start (.fixed (.ofMillis 1000)))
  exact ⟨handed, (written refused).1 1 second handed,
    ((written silentThird).2 (.refusing .closed)).2.2⟩

end Machine
end Vigil
