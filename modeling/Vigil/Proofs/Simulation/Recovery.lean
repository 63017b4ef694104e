import Vigil.Proofs.Simulation.Calm
import Vigil.Proofs.Simulation.Majority

/-!
Recovery. Once no event has happened for long enough and all members have been running meanwhile,
nobody suspects anybody any more (`own_of_calm`). What is left are reports that nobody has replaced:
`o` believes that `r` suspects `x` although it does not only if it has missed that since its last
start (`missed_after`), because `r` crashed while it suspected `x`, or took that back while somebody
doubted `o`. So whoever is still failed is so by the word of members that all were missed
(`recovered`), and that happens (`failed_after_restarts`).
-/

namespace Vigil
namespace Simulation

variable {γ : Type} {s : Simulation γ} {r o q x y : InstanceId}

/-- Some member suspects `o` or believes that somebody does, or has now waited for it in vain. -/
def Doubted (s : Simulation γ) (o : InstanceId) : Prop :=
  ∃ r ∈ s.group, (∃ q, o ∈ s.reportAt r q) ∨ s.Due r (.receive o)

/-- Now that it hears from `x`, `r` does not suspect it any more. -/
def Retracts (s : Simulation γ) (r x : InstanceId) : Prop :=
  (x ∈ s.reportAt r r ∨ s.Due r (.receive x)) ∧ s.Due x (.send r)

theorem trusted_of_not_doubted (quiet : s.Quiet) (undoubted : ¬ s.Doubted o) : s.Trusted o := by
  refine ⟨fun r hr n hn q suspects => undoubted ⟨r, hr, .inl ⟨q, ?_⟩⟩, fun r n hn e he => ?_⟩
  · rwa [reportAt_eq hn]
  · exact absurd he (quiet.handled r n hn e)

/-- If `o` believes after a round that `r` suspects `x` and that is not so, then somebody doubted
`o` when `r` took it back, or it was not so before either. -/
theorem missed_round [DrawSource γ] (ready : s.Ready) (ho : o ∈ s.group) (hr : r ∈ s.group)
    (hx : x ∈ s.group) (running : o ∈ s.nodes.keys) (hne : r ≠ o)
    (believes : x ∈ s.round.reportAt o r) :
    x ∈ s.round.reportAt r r ∨ s.Doubted o ∧ s.Retracts r x ∨
      x ∈ s.reportAt o r ∧ x ∉ s.reportAt r r := by
  obtain ⟨order, quiet, clock⟩ := ready.steady
  by_cases runs : r ∈ s.nodes.keys
  -- `r` takes its suspicion back only if it has one and a heartbeat of `x` comes.
  · by_cases suspects : x ∈ s.reportAt r r ∨ s.Due r (.receive x)
    · by_cases beat : s.Due x (.send r)
      · by_cases doubted : s.Doubted o
        · exact .inr (.inl ⟨doubted, suspects, beat⟩)
        · by_cases told : x ∈ s.reportAt o r → x ∈ s.reportAt r r
          · have trusted := trusted_of_not_doubted quiet doubted
            have heard : ∀ r ∈ s.group, ¬ s.Due r (.receive o) :=
              fun r hr due => doubted ⟨r, hr, .inr due⟩
            exact .inl (told_round order quiet clock ready.lossless ho hr hne running runs trusted
              heard (R := fun p q => p → q) (fun _ => id) told believes)
          · exact .inr (.inr (Classical.not_imp.mp told))
      · exact .inl ((ready.mem_own_round hr runs hx).mpr ⟨suspects, beat⟩)
    · rw [not_or] at suspects
      exact .inr (.inr ⟨innocent_round order quiet clock ready.lossless ho hr hne running
        suspects.1 suspects.2 believes, suspects.1⟩)
  · rw [reportAt_round order quiet ready.lossless ho running hne (get?_eq_none runs)] at believes
    exact .inr (.inr ⟨believes, fun suspects => runs (running_of_mem_reportAt suspects)⟩)

section After

variable [DrawSource γ] {draws : γ} {sc : Scenario} {i j k : Nat}

/-- By step `k`, and since its last start, `o` has missed that `r` does not suspect `x` any more:
`r` crashed while it did, or took that back while somebody doubted `o`. -/
def Misses (draws : γ) (sc : Scenario) (k : Nat) (o r x : InstanceId) : Prop :=
  ∃ i < k, o ∈ (after draws sc (i + 1)).nodes.keys ∧
    (∀ j, i < j → j < k → ∀ e ∈ (after draws sc j).due, ¬ e.Crashes o) ∧
    ((after draws sc i).CrashesSuspecting r x ∨
      (after draws sc i).struck.Doubted o ∧ (after draws sc i).struck.Retracts r x)

theorem Misses.succ (misses : Misses draws sc k o r x)
    (spared : ∀ e ∈ (after draws sc k).due, ¬ e.Crashes o) : Misses draws sc (k + 1) o r x := by
  obtain ⟨i, hi, running, lasts, why⟩ := misses
  refine ⟨i, Nat.lt_succ_of_lt hi, running, fun j hij hj => ?_, why⟩
  rcases Nat.lt_succ_iff_lt_or_eq.mp hj with hj | rfl
  · exact lasts j hij hj
  · exact spared

theorem misses_now (running : o ∈ (after draws sc (k + 1)).nodes.keys)
    (why : (after draws sc k).CrashesSuspecting r x ∨
      (after draws sc k).struck.Doubted o ∧ (after draws sc k).struck.Retracts r x) :
    Misses draws sc (k + 1) o r x :=
  ⟨k, Nat.lt_succ_self k, running,
    fun _ hj hj' => absurd hj (Nat.not_lt_of_le (Nat.le_of_lt_succ hj')), why⟩

section Reliable

variable (h : sc.Reliable)
include h

/-! ### What is missed -/

/-- What the events of a step leave of the reports that `o` has. -/
theorem missed_struck (hk : (k + 1) * sc.step < sc.duration + sc.step)
    (running : o ∈ (after draws sc k).struck.nodes.keys) (ho : o ∈ (after draws sc k).struck.group)
    (hr : r ∈ (after draws sc k).struck.group) (hx : x ∈ (after draws sc k).struck.group)
    (before : o ∈ (after draws sc k).nodes.keys → x ∈ (after draws sc k).reportAt o r →
      x ∈ (after draws sc k).reportAt r r ∨ Misses draws sc k o r x)
    (believes : x ∈ (after draws sc k).struck.reportAt o r) :
    x ∈ (after draws sc k).struck.reportAt r r ∨ Misses draws sc (k + 1) o r x := by
  have steady := steady_after draws sc k
  have fits : (after draws sc k).struck.Fits := (ready_struck h hk).fits
  rcases struck_cases steady fits running ho with ⟨same, spared⟩ | ⟨starts, -⟩
  · rcases before same.running ((same.report r hr x hx).mp believes) with suspects | misses
    · by_cases honest : (after draws sc k).CrashesSuspecting r x
      · exact .inr (misses_now (mem_keys_after_succ.mpr running) (.inl honest))
      · exact .inl ((own_struck steady fits hr hx honest).mpr suspects)
    · exact .inr (misses.succ spared)
  · exact absurd believes (starts.report r hr x hx)

/-- Whoever believes that `r` suspects `x` is right or has missed that it does not any more. -/
theorem missed_after (hk : k * sc.step < sc.duration + sc.step)
    (running : o ∈ (after draws sc k).nodes.keys) (ho : o ∈ (after draws sc k).group)
    (hr : r ∈ (after draws sc k).group) (hx : x ∈ (after draws sc k).group)
    (believes : x ∈ (after draws sc k).reportAt o r) :
    x ∈ (after draws sc k).reportAt r r ∨ Misses draws sc k o r x := by
  induction k with
  | zero =>
      exact absurd believes ((starts_zero h (mem_group_zero.mp ho)).report r hr x hx)
  | succ k ih =>
      by_cases hne : r = o
      · exact .inl (hne ▸ believes)
      have alive := running
      have ho := mem_group_after_succ ho
      have hr := mem_group_after_succ hr
      have hx := mem_group_after_succ hx
      have running := mem_keys_after_succ.mp running
      have ready : (after draws sc k).struck.Ready := ready_struck h hk
      have struck := missed_struck (x := x) h hk running ho hr hx fun running =>
        ih (lt_of_succ hk) running (mem_group_of_struck ho) (mem_group_of_struck hr)
          (mem_group_of_struck hx)
      rw [after_succ, advance_eq_round] at believes ⊢
      -- What is wrong after the round is missed in it, or was wrong before and missed by then.
      rcases missed_round ready ho hr hx running hne believes with suspects | missed | ⟨old, silent⟩
      · exact .inl suspects
      · exact .inr (misses_now alive (.inr missed))
      · exact .inr ((struck old).resolve_left silent)

/-! ### After calm -/

/-- A member that has never crashed misses only what is lost when others crash. -/
theorem Misses.crash (lasts : Lasts draws sc k o) (hk : k * sc.step < sc.duration + sc.step)
    (ho : o ∈ (after draws sc k).group) (misses : Misses draws sc k o r x) :
    ∃ i < k, (after draws sc i).CrashesSuspecting r x := by
  obtain ⟨i, hi, -, -, crashes | ⟨⟨q, hq, doubts⟩, -⟩⟩ := misses
  · exact ⟨i, hi, crashes⟩
  · have early : (i + 1) * sc.step < sc.duration + sc.step :=
      Nat.lt_of_le_of_lt (Nat.mul_le_mul_right _ hi) hk
    have lasts' : Lasts draws sc (i + 1) o := fun j hj => lasts j (Nat.lt_of_lt_of_le hj hi)
    have ho' := mem_group_after_succ (mem_group_of_le ho hi)
    have trusted := (trusted_after h lasts'.before (lt_of_succ early)
      (mem_group_of_struck ho')).struck (steady_after draws sc i)
    rcases doubts with ⟨p, suspects⟩ | due
    · obtain ⟨n, hn⟩ := SortedMap.mem_keys_iff.mp (running_of_mem_reportAt suspects)
      rw [reportAt_eq hn] at suspects
      exact absurd suspects (trusted.trusts q hq n hn p)
    · exact absurd due (lasts'.not_due h early ho' hq)

/-- After a calm nobody suspects anybody. Whoever is still failed is so by the word of more than
half of the members, each of which the observer has missed to take that back; if it has never
crashed itself, all of those have crashed. -/
theorem recovered (calm : Calm draws sc k) (hk : k * sc.step < sc.duration + sc.step) {n : Node}
    (hn : (after draws sc k).nodes.get? o = some n) (ho : o ∈ (after draws sc k).members) :
    n.detector.reportOf o = ∅ ∧
    ∀ x ∈ n.failed, ∃ rs ⊆ (after draws sc k).memberSet,
      (after draws sc k).memberSet.card < 2 * rs.card ∧
      ∀ r ∈ rs, Misses draws sc k o r x ∧
        (Lasts draws sc k o → ∃ i < k, (after draws sc i).CrashesSuspecting r x) := by
  obtain ⟨j, long, quiet, running⟩ := calm
  have hj : j ≤ k :=
    Nat.le_of_mul_le_mul_right (Nat.le_trans (Nat.le_add_right _ _) long) h.step_pos
  have interval := Scenario.interval_le_beat h.step_pos
  have own {r x : InstanceId} (hr : r ∈ (after draws sc k).group) :=
    own_of_calm (x := x) h hj quiet hk (by omega)
      (fun x hx => running j (Nat.le_refl j) hj x (mem_group.mp hx)) hr
  have order := (steady_after draws sc k).order
  rw [← mem_group] at ho
  have alive := SortedMap.mem_keys_iff.mpr ⟨n, hn⟩
  constructor
  · ext x
    rw [← reportAt_eq hn]
    exact iff_of_false (own ho) (SortedSet.not_mem_empty x)
  · intro x hx
    obtain ⟨member, majority⟩ := (order.mem_failed_iff hn ho).mp hx
    refine ⟨_, Finset.filter_subset _ _, majority, fun r hr => ?_⟩
    obtain ⟨hr, believes⟩ := Finset.mem_filter.mp hr
    have hr := mem_group.mpr (mem_memberSet.mp hr)
    have misses := (missed_after h hk alive ho hr (mem_group.mpr member) believes).resolve_left
      (own hr)
    exact ⟨misses, fun lasts => misses.crash h lasts hk ho⟩

/-- The third of three crashes, and is restarted when the others have noticed. -/
def returnOfThird : Scenario :=
  { Scenario.standard with
    heartbeatInterval := 1, heartbeatTimeout := 2, step := 1, duration := 20
    events := [⟨1, 3, .crash⟩, ⟨3, 3, .restart⟩] }

omit [DrawSource γ] h in
theorem recovered_after_return :
    let s := after (CipherDraws.ofSeed 0) returnOfThird 11
    returnOfThird.Reliable ∧ Calm (CipherDraws.ofSeed 0) returnOfThird 11 ∧
      11 * returnOfThird.step < returnOfThird.duration + returnOfThird.step ∧
      3 ∈ s.members ∧ ∃ n, s.nodes.get? 3 = some n ∧ n.detector.reportOf 3 = ∅ := by
  have reliable : returnOfThird.Reliable :=
    ⟨rfl, by decide +kernel, by decide, by decide, by decide⟩
  have started : (∀ x ∈ returnOfThird.members,
      x ∈ (after (CipherDraws.ofSeed 0) returnOfThird 3).nodes.keys) ∧
      3 ∈ (after (CipherDraws.ofSeed 0) returnOfThird 3).members := by decide +kernel
  have calm : Calm (CipherDraws.ofSeed 0) returnOfThird 11 :=
    calm_of_ended (j := 3) (m := 3) (by decide) (by decide) (by decide) (by decide) started.1
  have quiet (i : Nat) (hi : 3 ≤ i) : (after (CipherDraws.ofSeed 0) returnOfThird i).due = [] :=
    due_eq_nil (by decide) (by decide) hi
  obtain ⟨group, keys⟩ := same_of_calm (show 3 ≤ 11 by decide) fun i hi _ => quiet i hi
  have member : 3 ∈ (after (CipherDraws.ofSeed 0) returnOfThird 11).members := by
    rw [← mem_group, group, mem_group]
    exact started.2
  obtain ⟨n, hn⟩ := SortedMap.mem_keys_iff.mp ((keys 3).mpr (started.1 3 (by decide)))
  exact ⟨reliable, calm, by decide, member, n, hn,
    (recovered reliable calm (by decide) hn member).1⟩

/-- Whom a member still fails when it has been calm for an interval it fails for as long as nothing
happens. -/
theorem failed_of_calm {m : Nat} (hj : j ≤ m) (hm : m ≤ k)
    (calm : ∀ i, j ≤ i → i < k → (after draws sc i).due = [])
    (hk : k * sc.step < sc.duration + sc.step)
    (long : j * sc.step + sc.heartbeatInterval ≤ m * sc.step)
    (running : ∀ x ∈ (after draws sc j).group, x ∈ (after draws sc j).nodes.keys)
    (ho : o ∈ (after draws sc j).group) {n n' : Node}
    (hn : (after draws sc m).nodes.get? o = some n)
    (hn' : (after draws sc k).nodes.get? o = some n') : n'.failed = n.failed := by
  have calm' : ∀ i, j ≤ i → i < m → (after draws sc i).due = [] :=
    fun i hji him => calm i hji (Nat.lt_of_lt_of_le him hm)
  have group := (same_of_calm (Nat.le_trans hj hm) calm).1
  have group' := (same_of_calm hj calm').1
  have early : m * sc.step < sc.duration + sc.step :=
    Nat.lt_of_le_of_lt (Nat.mul_le_mul_right _ hm) hk
  have believed (r x : InstanceId) :
      x ∈ (after draws sc k).reportAt o r ↔ x ∈ (after draws sc m).reportAt o r := by
    by_cases hne : r = o
    · subst hne
      refine iff_of_false ?_ ?_
      · exact own_of_calm h (Nat.le_trans hj hm) calm hk
          (Nat.le_trans long (Nat.mul_le_mul_right _ hm)) (by rwa [group]) (by rwa [group])
      · exact own_of_calm h hj calm' early long (by rwa [group']) (by rwa [group'])
    · rw [believed_of_calm h hj hm calm hk long running ho hne]
  have members : (after draws sc k).memberSet = (after draws sc m).memberSet := by
    ext x
    rw [mem_memberSet, mem_memberSet, ← mem_group, ← mem_group, group, group']
  ext x
  rw [Node.failed, Node.failed, (steady_after draws sc k).order.mem_failed_iff hn' (by rwa [group]),
    (steady_after draws sc m).order.mem_failed_iff hn (by rwa [group']), ← mem_memberSet,
    ← mem_memberSet]
  simp only [accusersAt, members, believed]

/-- After the last event, what is still failed after an interval is failed for good. -/
theorem failed_for_good {m : Nat} (pos : 0 < j) (ended : ∀ e ∈ sc.events, e.time ≤ j * sc.step)
    (hj : j ≤ m) (hm : m ≤ k) (hk : k * sc.step < sc.duration + sc.step)
    (long : j * sc.step + sc.heartbeatInterval ≤ m * sc.step)
    (running : ∀ x ∈ sc.members, x ∈ (after draws sc m).nodes.keys)
    (ho : o ∈ (after draws sc m).members)
    (fails : ((after draws sc m).nodes.get? o).any (decide <| x ∈ ·.failed) = true) :
    o ∈ (after draws sc k).members ∧ ∃ n, (after draws sc k).nodes.get? o = some n ∧
      x ∈ n.failed := by
  have same {i : Nat} (hi : j ≤ i) := same_of_ended draws pos ended hi
  have ho' : o ∈ (after draws sc j).group := by rwa [← (same hj).1, mem_group]
  have hjk := Nat.le_trans hj hm
  have running' (y : InstanceId) (hy : y ∈ sc.members) : y ∈ (after draws sc j).nodes.keys :=
    ((same hj).2 y).mp (running y hy)
  obtain ⟨n, hn, failed⟩ := (Option.any_eq_true _ _).mp fails
  obtain ⟨n', hn'⟩ := SortedMap.mem_keys_iff.mp
    (((same hjk).2 o).mpr (running' o (mem_members_of_mem_group ho')))
  have frozen := failed_of_calm h hj hm (fun i hji _ => due_eq_nil pos ended hji) hk long
    (fun y hy => running' y (mem_members_of_mem_group hy)) ho' hn hn'
  refine ⟨?_, n', hn', ?_⟩
  · rwa [← mem_group, (same hjk).1]
  · rw [frozen]
    exact of_decide_eq_true failed

end Reliable

end After

/-- The fifth crashes, everybody else notices, and then the second, the third and the fourth crash
too. All of them are restarted at once. -/
def hastyRestarts : Scenario :=
  { Scenario.standard with
    members := [1, 2, 3, 4, 5]
    heartbeatInterval := 1000, heartbeatTimeout := 1001, step := 1000, duration := 20000
    events := [⟨1000, 5, .crash⟩] ++ [2, 3, 4].map (⟨3000, ·, .crash⟩) ++
      [2, 3, 4, 5].map (⟨3000, ·, .restart⟩) }

/-- The sixth and then the seventh crash. The seventh is back when the silence of the sixth shows,
and its own silence shows right after that. -/
def lateReturn : Scenario :=
  { Scenario.standard with
    members := [1, 2, 3, 4, 5, 6, 7]
    heartbeatInterval := 2000, heartbeatTimeout := 2001, step := 1000, duration := 20000
    events := [⟨1000, 7, .crash⟩, ⟨1000, 7, .restart⟩, ⟨3000, 6, .crash⟩, ⟨4000, 7, .crash⟩,
      ⟨4000, 6, .restart⟩, ⟨5000, 7, .restart⟩] }

theorem reliable_hastyRestarts : hastyRestarts.Reliable :=
  ⟨rfl, by decide +kernel, by decide, by decide, by decide⟩

theorem reliable_lateReturn : lateReturn.Reliable :=
  ⟨rfl, by decide +kernel, by decide, by decide, by decide⟩

/-- After a calm the first, which has never crashed, still fails the fifth, and the seventh the
sixth. -/
theorem failed_after_restarts :
    let s := after (CipherDraws.ofSeed 0) hastyRestarts 10
    let s' := after (CipherDraws.ofSeed 0) lateReturn 16
    (hastyRestarts.Reliable ∧ Calm (CipherDraws.ofSeed 0) hastyRestarts 10 ∧
      10 * hastyRestarts.step < hastyRestarts.duration + hastyRestarts.step ∧
      1 ∈ s.members ∧ ∃ n, s.nodes.get? 1 = some n ∧ 5 ∈ n.failed) ∧
    lateReturn.Reliable ∧ Calm (CipherDraws.ofSeed 0) lateReturn 16 ∧
      16 * lateReturn.step < lateReturn.duration + lateReturn.step ∧
      7 ∈ s'.members ∧ ∃ n, s'.nodes.get? 7 = some n ∧ 6 ∈ n.failed := by
  have fails : (∀ x ∈ hastyRestarts.members,
        x ∈ (after (CipherDraws.ofSeed 0) hastyRestarts 4).nodes.keys) ∧
      1 ∈ (after (CipherDraws.ofSeed 0) hastyRestarts 4).members ∧
      ((after (CipherDraws.ofSeed 0) hastyRestarts 4).nodes.get? 1).any (decide <| 5 ∈ ·.failed) :=
    by decide +kernel
  have fails' : (∀ x ∈ lateReturn.members,
        x ∈ (after (CipherDraws.ofSeed 0) lateReturn 7).nodes.keys) ∧
      7 ∈ (after (CipherDraws.ofSeed 0) lateReturn 7).members ∧
      ((after (CipherDraws.ofSeed 0) lateReturn 7).nodes.get? 7).any (decide <| 6 ∈ ·.failed) :=
    by decide +kernel
  have calm := calm_of_ended (k := 10) (j := 3) (m := 4) (by decide) (by decide) (by decide)
    (by decide) fails.1
  have calm' := calm_of_ended (k := 16) (j := 5) (m := 7) (by decide) (by decide) (by decide)
    (by decide) fails'.1
  exact ⟨⟨reliable_hastyRestarts, calm, by decide,
      failed_for_good (j := 3) (m := 4) reliable_hastyRestarts (by decide) (by decide) (by decide)
        (by decide) (by decide) (by decide) fails.1 fails.2.1 fails.2.2⟩,
    reliable_lateReturn, calm', by decide,
    failed_for_good (j := 5) (m := 7) reliable_lateReturn (by decide) (by decide) (by decide)
      (by decide) (by decide) (by decide) fails'.1 fails'.2.1 fails'.2.2⟩

end Simulation
end Vigil
