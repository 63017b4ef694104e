import Vigil.Envelope
import Vigil.InstanceId

/-!
The text of an identifier reads back as the identifier (`InstanceId.parse_text`), and it never is
the star that addresses everybody. So a letter to an instance is carried to that instance.
-/

namespace Vigil

namespace Text

theorem isDigit_decimal {n : Nat} {c : Char} (h : c ∈ (decimal n).toList) : c.isDigit = true := by
  have digits : c ∈ Nat.toDigits 10 n := by simpa [decimal] using h
  exact Nat.isDigit_of_mem_toDigits (by decide) (by decide) digits

theorem range_of_isDigit {c : Char} (h : c.isDigit = true) : 48 ≤ c.toNat ∧ c.toNat ≤ 57 := by
  simp only [Char.isDigit, Bool.and_eq_true, decide_eq_true_eq, ge_iff_le,
    UInt32.le_iff_toNat_le] at h
  exact h

theorem digitIn?_of_isDigit {c : Char} (h : c.isDigit = true) :
    digitIn? 10 c = some (c.toNat - '0'.toNat) := by
  have range := range_of_isDigit h
  have zero : '0'.toNat = 48 := rfl
  simp only [digitIn?, if_pos range, zero]
  rw [if_pos (by omega)]

theorem isBlank_of_isDigit {c : Char} (h : c.isDigit = true) : isBlank c = false := by
  have range := range_of_isDigit h
  simp only [isBlank, Bool.or_eq_false_iff, Bool.and_eq_false_iff, decide_eq_false_iff_not,
    beq_eq_false_iff_ne]
  omega

theorem readDigits_of_isDigit {cs : List Char} (h : ∀ c ∈ cs, c.isDigit = true) (acc : Nat) :
    readDigits 10 acc cs = some (Nat.ofDigitChars 10 cs acc) := by
  induction cs generalizing acc with
  | nil => simp [readDigits]
  | cons c cs ih =>
      have head := digitIn?_of_isDigit (h c (List.mem_cons_self ..))
      have tail := ih fun d hd => h d (List.mem_cons_of_mem c hd)
      simp [readDigits, head, tail, Nat.ofDigitChars_cons, Nat.mul_comm]

/-- A number below the limit reads back from its numeral. -/
theorem numeral?_decimal {limit n : Nat} (h : n < limit) :
    numeral? limit (trim (decimal n).toList) = some n := by
  have digits : ∀ c ∈ (decimal n).toList, c.isDigit = true := fun c hc => isDigit_decimal hc
  have plus : dropPlus (decimal n).toList = (decimal n).toList := by
    unfold dropPlus
    split
    · rename_i cs hcs
      have sign := digits '+' (hcs ▸ List.mem_cons_self ..)
      exact absurd sign (by decide)
    · rfl
  have read : digits? 10 (decimal n).toList = some n := by
    have value := readDigits_of_isDigit digits 0
    have back : Nat.ofDigitChars 10 (decimal n).toList 0 = n := by simp [decimal]
    rw [back] at value
    cases hcs : (decimal n).toList with
    | nil => exact absurd hcs (by simp [decimal])
    | cons c cs => rwa [hcs] at value
  rw [trim_eq_self fun c hc => isBlank_of_isDigit (digits c hc), numeral?, plus, read]
  simp [h]

end Text

namespace InstanceId

theorem parse_text (id : InstanceId) : parse id.text = .ok id := by
  have bound : id.toNat < Text.limit32 := id.number.toNat_lt
  have number : ofNat id.toNat = id := congrArg InstanceId.mk (UInt32.ofNat_toNat)
  rw [parse, text, Text.numeral?_decimal bound]
  exact congrArg Except.ok number

theorem text_inj {a b : InstanceId} : a.text = b.text ↔ a = b := by
  refine ⟨fun h => ?_, congrArg text⟩
  have parsed : (Except.ok a : Except BadInstanceId InstanceId) = .ok b := by
    rw [← parse_text, ← parse_text, h]
  exact Except.ok.inj parsed

theorem text_ne_everybody (id : InstanceId) : id.text ≠ Header.everybody := by
  intro h
  have star : '*' ∈ (Text.decimal id.toNat).toList := by
    change '*' ∈ id.text.toList
    rw [h]
    decide
  exact absurd (Text.isDigit_decimal star) (by decide)

end InstanceId
end Vigil
