import Vigil.Proofs.Machine.Responses

/-!
A detector at work: `Watches me members` collects what holds of it between two messages, and
`Awaited` the messages that come to it, from its own timers and from its peers. Every awaited
message keeps it watching, and one lemma each says what the message does to its reports, to its
timers and which letters it sends. A peer whose letters arrive in order knows the own report of this
instance, since the latest report sent to it is the present one (`latest_reports_respond`).
-/

namespace Vigil

/-- The report in an envelope, if it comes from `q`. -/
def Envelope.reportFrom (q : InstanceId) (e : Envelope Signal) : Option InstanceSet :=
  match e.content with
  | .suspicions s => if e.sender = .ok q then some s else none
  | _ => none

def Letter.reportFor (o : InstanceId) (l : Letter) : Option InstanceSet :=
  match l.signal with
  | .suspicions s => if l.recipient = o then some s else none
  | _ => none

/-- The message makes nobody suspect `o`. -/
structure Envelope.Spares (o : InstanceId) (e : Envelope Signal) : Prop where
  silence : e.content ≠ .timedOut o
  report : ∀ s, e.content = .suspicions s → o ∉ s

theorem Envelope.content_of_reportFrom {q : InstanceId} {e : Envelope Signal} {s : InstanceSet}
    (h : e.reportFrom q = some s) : e.content = .suspicions s ∧ e.sender = .ok q := by
  unfold reportFrom at h
  split at h
  · rename_i t ht
    rw [Option.ite_none_right_eq_some, Option.some.injEq] at h
    exact ⟨h.2 ▸ ht, h.1⟩
  · cases h

/-- The last of several reports, where `s` is the one before them. -/
def latest (s : InstanceSet) (reports : List InstanceSet) : InstanceSet := reports.getLast?.getD s

@[simp] theorem latest_nil (s : InstanceSet) : latest s [] = s := rfl

@[simp] theorem latest_singleton (s t : InstanceSet) : latest s [t] = t := rfl

theorem latest_append (s : InstanceSet) (l l' : List InstanceSet) :
    latest s (l ++ l') = latest (latest s l) l' := by
  cases h : l'.getLast? <;> simp [latest, h]

/-- Whatever held between two earlier reports holds between the latest ones. -/
theorem mem_latest_congr {R : Prop → Prop → Prop} (refl : ∀ p, R p p) {s t : InstanceSet}
    {x : InstanceId} (h : R (x ∈ s) (x ∈ t)) (l : List InstanceSet) :
    R (x ∈ latest s l) (x ∈ latest t l) := by
  unfold latest
  cases l.getLast? with
  | none => exact h
  | some u => exact refl _

theorem mem_latest {s : InstanceSet} {x : InstanceId} {l : List InstanceSet}
    (h : x ∈ latest s l) : x ∈ s ∨ ∃ t ∈ l, x ∈ t := by
  unfold latest at h
  cases hl : l.getLast? with
  | none =>
      rw [hl] at h
      exact .inl h
  | some t =>
      rw [hl] at h
      exact .inr ⟨t, List.mem_of_getLast? hl, h⟩

namespace Detector

/-- The detector of `me` is in order: it knows the members, has timers for its peers only, takes
notice of members only, and fails exactly those that are failed by quorum. -/
structure Watches (d : Detector) (me : InstanceId) (members : List InstanceId) : Prop where
  me_eq : d.me = me
  self : me ∈ members
  members_eq : d.cluster.members = members
  known_eq : d.known = members
  inside : ∀ q x, x ∈ d.reportOf q → q ∈ members ∧ x ∈ members ∧ x ≠ me
  agrees : d.Agrees members.length
  distinct : d.timers.Distinct
  armed : ∀ a ∈ d.timers.pending,
    a.message.content = a.key.signal ∧ a.key.peer ∈ members ∧ a.key.peer ≠ me

/-- The messages that come to an instance while it watches. -/
inductive Awaited (me : InstanceId) (members : List InstanceId) (e : Envelope Signal) : Prop
  | due (key : TimerKey) : e.content = key.signal → key.peer ∈ members → key.peer ≠ me →
      Awaited me members e
  | heartbeat (q : InstanceId) : e.content = .iAmAlive q → q ∈ members → q ≠ me →
      Awaited me members e
  | report (q : InstanceId) (s : InstanceSet) : e.content = .suspicions s → e.sender = .ok q →
      q ∈ members → q ≠ me → (∀ x ∈ s, x ∈ members) → Awaited me members e

variable {d : Detector} {me p q x o : InstanceId} {members : List InstanceId} {e : Envelope Signal}
  {s : InstanceSet} {k : TimerKey}

theorem Watches.mem_peers (hw : d.Watches me members) :
    p ∈ d.cluster.peers ↔ p ∈ members ∧ p ≠ me := by
  rw [Detector.mem_peers, hw.members_eq, hw.me_eq]

theorem Awaited.ordinary (ha : Awaited me members e) (hw : d.Watches me members) :
    d.Ordinary e := by
  cases ha with
  | due key hk hp hne => exact .due key hk (hw.mem_peers.mpr ⟨hp, hne⟩)
  | heartbeat q hq => exact .heartbeat q hq
  | report q s hs hsender _ hne =>
      refine .report s hs fun same => hne ?_
      rw [hsender, hw.me_eq] at same
      exact Except.ok.inj same

/-! ### The response to each awaited message -/

theorem respond_timedOut (hw : d.Watches me members) (h : e.content = .timedOut p)
    (hp : p ∈ members) :
    d.respondInHeartbeat e =
      ⟨.heartbeat, (d.suspect p).expectHeartbeat p e,
        ((d.suspect p).expectHeartbeat p e).reportLetters, []⟩ := by
  have member : d.isMember p = true := by
    simp [isMember, Cluster.isMember, hw.members_eq, hp]
  simp [respondInHeartbeat, h, member]

theorem respond_sendHeartbeat (hw : d.Watches me members) (h : e.content = .sendHeartbeat p)
    (hp : p ∈ members) (hne : p ≠ me) :
    d.respondInHeartbeat e = ⟨.heartbeat, d.scheduleHeartbeat p e, [⟨p, .iAmAlive me⟩], []⟩ := by
  have member : d.isMember p = true := by
    simp [isMember, Cluster.isMember, hw.members_eq, hp]
  have other : d.isMe p = false := by
    have := hw.me_eq
    simp only [isMe, Cluster.isMe, beq_eq_false_iff_ne]
    exact fun h => hne (h ▸ this)
  simp [respondInHeartbeat, h, member, other, hw.me_eq]

theorem respond_iAmAlive (hw : d.Watches me members) (h : e.content = .iAmAlive q)
    (hq : q ∈ members) (hne : q ≠ me) :
    d.respondInHeartbeat e =
      ⟨.heartbeat, (d.heardFrom q).1.expectHeartbeat q e,
        if (d.heardFrom q).2 then (d.heardFrom q).1.reportLetters else [], []⟩ := by
  have member : d.isMember q = true := by
    simp [isMember, Cluster.isMember, hw.members_eq, hq]
  have other : d.isMe q = false := by
    have := hw.me_eq
    simp only [isMe, Cluster.isMe, beq_eq_false_iff_ne]
    exact fun h => hne (h ▸ this)
  simp [respondInHeartbeat, h, member, other]

theorem respond_suspicions (h : e.content = .suspicions s) (hs : e.sender = .ok q) :
    d.respondInHeartbeat e = ⟨.heartbeat, d.receiveReport q s, [], []⟩ := by
  simp [respondInHeartbeat, h, hs]

/-! ### Timers -/

/-- The timer that a signal makes a watching instance arm anew. -/
def rearmed? : Signal → Option TimerKey
  | .timedOut p | .iAmAlive p => some (.receive p)
  | .sendHeartbeat p => some (.send p)
  | _ => none

/-- A timer is armed anew by its own signal, and by a heartbeat if it waits for one. -/
theorem rearmed?_eq_some_iff {s : Signal} :
    rearmed? s = some k ↔ s = k.signal ∨ ∃ p, k = .receive p ∧ s = .iAmAlive p := by
  cases k with
  | receive p => cases s <;> simp [rearmed?, TimerKey.signal]
  | send p => cases s <;> simp [rearmed?, TimerKey.signal]

theorem rearmed?_signal (k : TimerKey) : rearmed? k.signal = some k :=
  rearmed?_eq_some_iff.mpr (.inl rfl)

theorem peer_of_rearmed? (ha : Awaited me members e) (h : rearmed? e.content = some k) :
    k.peer ∈ members ∧ k.peer ≠ me := by
  cases ha with
  | due key hk hp hne =>
      rw [hk] at h
      cases key with
      | receive p | send p =>
          cases h
          exact ⟨hp, hne⟩
  | heartbeat q hq hm hne =>
      rw [hq] at h
      cases h
      exact ⟨hm, hne⟩
  | report q s hs =>
      rw [hs] at h
      cases h

theorem arms?_eq_rearmed? (hw : d.Watches me members) (ha : Awaited me members e) :
    d.arms? e.content = rearmed? e.content := by
  cases ha with
  | due key hk hp hne =>
      rw [hk, arms?_signal (hw.mem_peers.mpr ⟨hp, hne⟩)]
      cases key <;> rfl
  | heartbeat q hq hm hne =>
      rw [hq]
      exact if_pos (hw.mem_peers.mpr ⟨hm, hne⟩)
  | report q s hs =>
      rw [hs]
      rfl

theorem timers_respond (hw : d.Watches me members) (ha : Awaited me members e) :
    (d.respondInHeartbeat e).detector.timers =
      (rearmed? e.content).elim d.timers fun k => d.timers.set k (.timeout k.signal e) := by
  rw [timers_respondInHeartbeat, arms?_eq_rearmed? hw ha, (ha.ordinary hw).leftOver]

/-! ### Reports -/

theorem mem_own_respond (hw : d.Watches me members) (ha : Awaited me members e) :
    x ∈ (d.respondInHeartbeat e).detector.reportOf me ↔
      (x ∈ d.reportOf me ∨ e.content = .timedOut x) ∧ e.content ≠ .iAmAlive x := by
  have own := (ha.ordinary hw).mem_own (x := x)
  have peer : e.content = .iAmAlive x → x ∈ d.cluster.peers := fun h =>
    hw.mem_peers.mpr (peer_of_rearmed? (k := .receive x) ha (by rw [h]; rfl))
  rwa [hw.me_eq, and_iff_left_of_imp peer] at own

theorem reportOf_respond (hw : d.Watches me members) (ha : Awaited me members e) (hq : q ≠ me) :
    (d.respondInHeartbeat e).detector.reportOf q =
      ((e.reportFrom q).map (·.erase me)).getD (d.reportOf q) := by
  ext x
  rw [mem_reportOf_respondInHeartbeat_iff, hw.me_eq, hw.members_eq, Envelope.reportFrom]
  cases ha with
  | due key hk hp hne =>
      rw [hk]
      cases key with
      | receive p => simp [TimerKey.signal, hq, show p ∈ members from hp]
      | send p => simp [TimerKey.signal]
  | heartbeat p h => simp [h, hq]
  | report r s h hs =>
      rw [h, hs]
      by_cases hr : r = q <;> simp [hr]

theorem inside_respond (hw : d.Watches me members) (ha : Awaited me members e)
    (hx : x ∈ (d.respondInHeartbeat e).detector.reportOf q) :
    q ∈ members ∧ x ∈ members ∧ x ≠ me := by
  rcases mem_reportOf_respondInHeartbeat hx with hx | ⟨hne, ⟨-, hm, rfl⟩ | ⟨s, hs, hx, hq⟩⟩
  · exact hw.inside q x hx
  · rw [hw.me_eq] at hne ⊢
    exact ⟨hw.self, hw.members_eq ▸ hm, hne⟩
  · cases ha with
    | due key hk =>
        rw [hk] at hs
        cases key <;> exact absurd hs (by simp [TimerKey.signal])
    | heartbeat p hp =>
        rw [hp] at hs
        exact absurd hs (by simp)
    | report r s' hr hsender hmember _ hsub =>
        rw [hs] at hr
        cases hr
        rw [hq] at hsender
        cases hsender
        exact ⟨hmember, hsub x hx, hw.me_eq ▸ hne⟩

theorem Watches.respond (hw : d.Watches me members) (ha : Awaited me members e) :
    (d.respondInHeartbeat e).detector.Watches me members where
  me_eq := by
    rw [Detector.me, cluster_respondInHeartbeat]
    exact hw.me_eq
  self := hw.self
  members_eq := by rw [cluster_respondInHeartbeat, hw.members_eq]
  known_eq := by
    rw [known_respondInHeartbeat e (hw.known_eq.trans hw.members_eq.symm), hw.members_eq]
  inside q x hx := inside_respond hw ha hx
  agrees := by
    rw [← hw.members_eq]
    rcases d.reevaluates_respondInHeartbeat e with hr | hr
    · exact (hw.members_eq.symm ▸ hw.agrees).reevaluated hr
    · exact hr
  distinct := by
    rw [timers_respond hw ha]
    cases rearmed? e.content with
    | none => exact hw.distinct
    | some k => exact hw.distinct.set k _
  armed a h := by
    rw [timers_respond hw ha] at h
    cases hk : rearmed? e.content with
    | none => exact hw.armed a (by simpa [hk] using h)
    | some k =>
        rw [hk] at h
        rcases LogicalTimers.mem_pending_set h with h | rfl
        · exact hw.armed a h
        · exact ⟨Envelope.content_timeout _ _, peer_of_rearmed? ha hk⟩

/-! ### Letters -/

/-- Heartbeats are sent when they are due, and reports when a timeout or a heartbeat changes what
the instance suspects; they hold what it suspects then. -/
theorem mem_letters_respond (hw : d.Watches me members) (ha : Awaited me members e) {l : Letter}
    (hl : l ∈ (d.respondInHeartbeat e).letters) :
    l.recipient ∈ members ∧ l.recipient ≠ me ∧
      (l.signal = .iAmAlive me ∧ e.content = .sendHeartbeat l.recipient ∨
        l.signal = .suspicions ((d.respondInHeartbeat e).detector.reportOf me) ∧
          ((∃ q, e.content = .timedOut q) ∨ ∃ q ∈ d.reportOf me, e.content = .iAmAlive q)) := by
  have reports : ∀ d' : Detector, d'.me = me → d'.cluster.members = members →
      l ∈ d'.reportLetters →
        l.recipient ∈ members ∧ l.recipient ≠ me ∧ l.signal = .suspicions (d'.reportOf me) := by
    intro d' hme hmembers hl
    obtain ⟨o, ho, rfl⟩ := List.mem_map.mp hl
    obtain ⟨ho, hne⟩ := List.mem_filter.mp ho
    have member : o ∈ members := hmembers ▸ (List.mem_filter.mp ho).1
    exact ⟨member, by simpa [hme] using hne, by rw [hme]⟩
  have after := hw.respond ha
  cases ha with
  | due key hk hp hne =>
      cases key with
      | receive p =>
          have h : e.content = .timedOut p := hk
          rw [respond_timedOut hw h hp] at hl after ⊢
          obtain ⟨hm, ho, hs⟩ := reports _ after.me_eq after.members_eq hl
          exact ⟨hm, ho, .inr ⟨hs, .inl ⟨p, h⟩⟩⟩
      | send p =>
          have h : e.content = .sendHeartbeat p := hk
          rw [respond_sendHeartbeat hw h hp hne, List.mem_singleton] at hl
          subst hl
          exact ⟨hp, hne, .inl ⟨rfl, h⟩⟩
  | heartbeat q h hq hne =>
      rw [respond_iAmAlive hw h hq hne] at hl after ⊢
      dsimp only at hl
      split at hl
      · rename_i suspected
        rw [heardFrom_eq, decide_eq_true_eq, hw.me_eq] at suspected
        obtain ⟨hm, ho, hs⟩ := reports (d.heardFrom q).1 after.me_eq after.members_eq hl
        exact ⟨hm, ho, .inr ⟨hs, .inr ⟨q, suspected, h⟩⟩⟩
      · exact absurd hl List.not_mem_nil
  | report q s h hs =>
      rw [respond_suspicions h hs] at hl
      exact absurd hl List.not_mem_nil

theorem heartbeat_mem_letters_respond (hw : d.Watches me members) (ha : Awaited me members e) :
    (⟨p, .iAmAlive me⟩ : Letter) ∈ (d.respondInHeartbeat e).letters ↔
      e.content = .sendHeartbeat p := by
  have sent : (⟨p, .iAmAlive me⟩ : Letter) ∈ (d.respondInHeartbeat e).letters ↔
      0 < (d.respondInHeartbeat e).letters.countP fun l =>
        decide (l = ⟨p, .iAmAlive d.me⟩) := by
    simp [List.countP_pos_iff, hw.me_eq]
  have peer : e.content = .sendHeartbeat p → p ∈ d.cluster.peers := fun h =>
    hw.mem_peers.mpr (peer_of_rearmed? (k := .send p) ha (by rw [h]; rfl))
  rw [sent, heartbeats_respondInHeartbeat]
  by_cases h : e.content = .sendHeartbeat p
  · simp [h, peer h]
  · simp [h]

/-- Nobody suspects `o`, as far as this instance knows. -/
def Trusts (d : Detector) (o : InstanceId) : Prop := ∀ q, o ∉ d.reportOf q

theorem Trusts.respond (ht : d.Trusts o) (hw : d.Watches me members) (ha : Awaited me members e)
    (hs : e.Spares o) : (d.respondInHeartbeat e).detector.Trusts o := by
  intro q hq
  by_cases hme : q = me
  · subst hme
    rcases ((mem_own_respond hw ha).mp hq).1 with h | h
    · exact ht q h
    · exact hs.silence h
  · rw [reportOf_respond hw ha hme] at hq
    cases h : e.reportFrom q with
    | none => exact ht q (by simpa [h] using hq)
    | some s =>
        rw [h] at hq
        exact hs.report s (Envelope.content_of_reportFrom h).1 (SortedSet.mem_erase.mp hq).1

theorem Trusts.not_failed (ht : d.Trusts o) : d.isFailed o = false := by
  rw [Bool.eq_false_iff, ne_eq, isFailed_iff]
  intro h
  obtain ⟨q, hq⟩ := exists_report_of_lt_votes h
  exact ht q hq

/-- Whoever nobody suspects is sent the present report. -/
theorem latest_reportLetters (ht : d.Trusts o) (ho : o ∈ d.cluster.members) (hne : o ≠ d.me)
    (s : InstanceSet) :
    latest s (d.reportLetters.filterMap (·.reportFor o)) = d.reportOf d.me := by
  have alive : o ∈ d.aliveMembers.filter (· != d.me) := by
    simp [aliveMembers, ho, hne, ht.not_failed]
  have sent : d.reportOf d.me ∈ d.reportLetters.filterMap (·.reportFor o) :=
    List.mem_filterMap.mpr ⟨_, List.mem_map_of_mem alive, by simp [Letter.reportFor]⟩
  have same : ∀ r ∈ d.reportLetters.filterMap (·.reportFor o), r = d.reportOf d.me := by
    intro r hr
    obtain ⟨l, hl, hr⟩ := List.mem_filterMap.mp hr
    obtain ⟨o', -, rfl⟩ := List.mem_map.mp hl
    simp only [Letter.reportFor, Option.ite_none_right_eq_some, Option.some.injEq] at hr
    exact hr.2.symm
  rw [latest, List.getLast?_eq_some_getLast (List.ne_nil_of_mem sent), Option.getD_some]
  exact same _ (List.getLast_mem _)

/-- After an awaited message the latest report sent to a trusted peer is the present one. -/
theorem latest_reports_respond (hw : d.Watches me members) (ha : Awaited me members e)
    (ho : o ∈ members) (hne : o ≠ me) (ht : (d.respondInHeartbeat e).detector.Trusts o) :
    latest (d.reportOf me) ((d.respondInHeartbeat e).letters.filterMap (·.reportFor o)) =
      (d.respondInHeartbeat e).detector.reportOf me := by
  have after := hw.respond ha
  have own (x : InstanceId) := mem_own_respond (x := x) hw ha
  cases ha with
  | due key hk hp hne' =>
      cases key with
      | receive p =>
          have h : e.content = .timedOut p := hk
          rw [respond_timedOut hw h hp] at ht after ⊢
          have sent := latest_reportLetters ht (after.members_eq ▸ ho) (after.me_eq ▸ hne)
            (d.reportOf me)
          rwa [after.me_eq] at sent
      | send p =>
          have h : e.content = .sendHeartbeat p := hk
          rw [respond_sendHeartbeat hw h hp hne']
          simp [Letter.reportFor]
  | heartbeat q h hq hne' =>
      rw [respond_iAmAlive hw h hq hne'] at ht after own ⊢
      dsimp only at own ⊢
      split
      · have sent := latest_reportLetters (d := (d.heardFrom q).1) ht (after.members_eq ▸ ho)
          (after.me_eq ▸ hne) (d.reportOf me)
        exact sent.trans (congrArg _ after.me_eq)
      · rename_i unsuspected
        have absent : q ∉ d.reportOf me := by
          simpa [heardFrom_eq, hw.me_eq] using unsuspected
        ext x
        rw [own x, h]
        constructor
        · intro hx
          exact ⟨.inl hx, fun hc => absent (by cases hc; exact hx)⟩
        · rintro ⟨hx | hx, -⟩
          · exact hx
          · cases hx
  | report q s h hs =>
      ext x
      rw [own x, respond_suspicions h hs, h]
      simp

end Detector
end Vigil
