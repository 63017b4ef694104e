import Vigil.Proofs.Detector.Succession

/-!
Who is eligible to take over from a failed coordinator. Those that take over stand at the front of
the line, and the last of them is the first one there that suspects the coordinator
(`succeeds_iff_mem_eligible`); if nobody in the line does, everybody in it takes over.
-/

namespace Vigil
namespace Outlook

variable {o : Outlook} {c m : InstanceId}

/-- Those of the line in front of its first accuser of `c`, and then that accuser, if there is
one. -/
def eligible (o : Outlook) (c : InstanceId) : List InstanceId :=
  (o.line c).takeWhile (fun a => !o.accuses a c) ++ ((o.line c).find? (o.accuses · c)).toList

theorem eligible_prefix_line : o.eligible c <+: o.line c := by
  unfold eligible
  induction o.line c with
  | nil => exact List.prefix_rfl
  | cons a l ih =>
      cases accuses : o.accuses a c with
      | true => simp [accuses]
      | false => simpa [accuses] using ih

theorem mem_eligible_iff :
    m ∈ o.eligible c ↔ m ∈ o.line c ∧ ∀ a ∈ o.ahead c m, ¬ o.accuses a c = true := by
  unfold eligible ahead
  induction o.line c with
  | nil => simp
  | cons a l ih =>
      by_cases ham : a = m
      · cases accuses : o.accuses a c <;> simp [ham, ham ▸ accuses]
      · cases accuses : o.accuses a c with
        | true => simp [accuses, ham, Ne.symm ham]
        | false => simpa [accuses, ham, Ne.symm ham] using ih

theorem succeeds_iff_mem_eligible (failed : o.isFailed c = true) :
    o.Succeeds c m ↔ m ∈ o.eligible c := by
  rw [succeeds_iff, mem_eligible_iff]
  exact and_iff_right failed

theorem Succeeds.mem_members (h : o.Succeeds c m) : m ∈ o.members :=
  (Outlook.mem_line.mp h.mem_line).1

theorem Succeeds.ne (h : o.Succeeds c m) : m ≠ c := (Outlook.mem_line.mp h.mem_line).2

variable {view : InstanceId → Detector}

/-- The members that take over from a failed coordinator are the others up to the first that
suspects it, or all others if none does. Neither the coordinator itself nor a stranger takes over,
and nobody does where the coordinator has not failed. -/
theorem eligible_to_take_over (hc : o.coordinator? = some c)
    (shared : ∀ m ∈ o.members, (view m).Shares o m) :
    (o.isFailed c = true →
      ∀ m ∈ o.members, (view m).shouldPromote = true ↔ m ∈ o.eligible c) ∧
    o.eligible c <+: o.line c ∧
    ∀ m, m = c ∨ m ∉ o.members ∨ o.isFailed c = false →
      ∀ d : Detector, d.Shares o m → d.shouldPromote = false := by
  refine ⟨fun failed m hm => ?_, eligible_prefix_line, fun m other d hd => ?_⟩
  · rw [(shared m hm).shouldPromote_iff hc, succeeds_iff_mem_eligible failed]
  · rw [Bool.eq_false_iff, ne_eq, hd.shouldPromote_iff hc]
    intro succeeds
    rcases other with rfl | stranger | alive
    · exact succeeds.ne rfl
    · exact stranger succeeds.mem_members
    · exact absurd (succeeds.failed.symm.trans alive) (by simp)

/-- The last three of five do not hear from the second, who is elected, and the first does. -/
def silentSecond : Outlook :=
  ⟨[1, 2, 3, 4, 5], some 2, .ofList [(3, .ofList [2]), (4, .ofList [2]), (5, .ofList [2])]⟩

/-- The first and the third take over, and the two behind them leave it to the third. -/
theorem first_and_third_take_over :
    let view := silentSecond.instilled (.start (.fixed (.ofMillis 1000)))
    (∀ m ∈ silentSecond.members, (view m).Shares silentSecond m) ∧
      silentSecond.isFailed 2 = true ∧
      ∀ m ∈ silentSecond.members,
        (view m).shouldPromote = true ↔ m ∈ ([1, 3] : List InstanceId) := by
  have shared := silentSecond.shares_instilled (.start (.fixed (.ofMillis 1000)))
  have failed : silentSecond.isFailed 2 = true := by decide
  have eligible : silentSecond.eligible 2 = [1, 3] := by decide
  exact ⟨fun m _ => shared m, failed,
    eligible ▸ (eligible_to_take_over (c := 2) rfl fun m _ => shared m).1 failed⟩

end Outlook
end Vigil
