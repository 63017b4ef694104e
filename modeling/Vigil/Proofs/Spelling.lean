import Mathlib.Data.List.Induction
import Mathlib.Data.List.TakeWhile
import Vigil.Proofs.Identifier

/-!
The texts of an identifier. Digits are read as a number exactly if they are its numeral behind zeros
(`exists_eq_zeros_append`), and white space is taken off at both ends of a text and nothing else is
(`exists_eq_surround`). So an identifier is read from its numeral, from the same behind zeros, behind
a plus sign and between white space, and from no other text (`InstanceId.parse_eq_ok_iff`).
-/

namespace Vigil

namespace Text

variable {before core after cs : List Char} {acc n d : Nat} {c : Char}

/-! ### White space -/

theorem trimStart_surround (after : List Char) (blank : ∀ c ∈ before, isBlank c = true)
    (solid : ∀ c ∈ core, isBlank c = false) (nonempty : core ≠ []) :
    trimStart (before ++ core ++ after) = core ++ after := by
  obtain ⟨c, cs, rfl⟩ := List.exists_cons_of_ne_nil nonempty
  have first : isBlank c = false := solid c (List.mem_cons_self ..)
  rw [trimStart, List.append_assoc, List.dropWhile_append_of_pos blank, List.cons_append,
    List.dropWhile_cons_of_neg (by simp [first])]

theorem trimEnd_eq (cs : List Char) : trimEnd cs = (trimStart cs.reverse).reverse := rfl

theorem trim_surround (blank : ∀ c ∈ before, isBlank c = true)
    (blank' : ∀ c ∈ after, isBlank c = true) (solid : ∀ c ∈ core, isBlank c = false)
    (nonempty : core ≠ []) : trim (before ++ core ++ after) = core := by
  have turned := trimStart_surround [] (fun c hc => blank' c (List.mem_reverse.mp hc))
    (fun c hc => solid c (List.mem_reverse.mp hc)) (mt List.reverse_eq_nil_iff.mp nonempty)
  rw [List.append_nil, List.append_nil] at turned
  rw [trim, trimStart_surround after blank solid nonempty, trimEnd_eq, List.reverse_append,
    turned, List.reverse_reverse]

/-- What is taken off is white space. -/
theorem exists_eq_surround (cs : List Char) :
    ∃ before after, cs = before ++ trim cs ++ after ∧
      (∀ c ∈ before, isBlank c = true) ∧ ∀ c ∈ after, isBlank c = true := by
  refine ⟨cs.takeWhile isBlank, ((trimStart cs).reverse.takeWhile isBlank).reverse, ?_, ?_, ?_⟩
  · have back : trim cs ++ ((trimStart cs).reverse.takeWhile isBlank).reverse = trimStart cs := by
      rw [trim, trimEnd, ← List.reverse_append, List.takeWhile_append_dropWhile,
        List.reverse_reverse]
    rw [List.append_assoc, back]
    exact List.takeWhile_append_dropWhile.symm
  · exact fun c hc => List.mem_takeWhile_imp hc
  · exact fun c hc => List.mem_takeWhile_imp (List.mem_reverse.mp hc)

/-! ### Digits -/

theorem isDigit_of_digitIn? (h : digitIn? 10 c = some d) : c.isDigit = true := by
  simp only [Char.isDigit, Bool.and_eq_true, decide_eq_true_eq, ge_iff_le, UInt32.le_iff_toNat_le]
  change 48 ≤ c.toNat ∧ c.toNat ≤ 57
  by_contra outside
  -- letters have a value too, but it is not below ten
  rw [digitIn?, if_neg outside] at h
  split at h
  · rw [if_neg (by omega)] at h
    exact absurd h (by simp)
  · split at h
    · rw [if_neg (by omega)] at h
      exact absurd h (by simp)
    · exact absurd h (by simp)

/-- Digits are read as their value, and nothing else is read. -/
theorem readDigits_eq_some_iff :
    readDigits 10 acc cs = some n ↔
      (∀ c ∈ cs, c.isDigit = true) ∧ Nat.ofDigitChars 10 cs acc = n := by
  constructor
  · intro read
    have digits : ∀ c ∈ cs, c.isDigit = true := by
      induction cs generalizing acc with
      | nil => exact fun c hc => absurd hc List.not_mem_nil
      | cons c cs ih =>
          obtain ⟨d, head, tail⟩ := Option.bind_eq_some_iff.mp read
          exact List.forall_mem_cons.mpr ⟨isDigit_of_digitIn? head, ih tail⟩
    exact ⟨digits, Option.some.inj ((readDigits_of_isDigit digits acc).symm.trans read)⟩
  · rintro ⟨digits, rfl⟩
    exact readDigits_of_isDigit digits acc

theorem digits?_eq_some_iff : digits? 10 cs = some n ↔ cs ≠ [] ∧ readDigits 10 0 cs = some n := by
  cases cs with
  | nil => simp [digits?]
  | cons c cs => simp [digits?]

/-- Zeros in front of digits make no difference to the value. -/
theorem ofDigitChars_zeros_append {zeros : List Char} (h : ∀ c ∈ zeros, c = '0')
    (cs : List Char) : Nat.ofDigitChars 10 (zeros ++ cs) 0 = Nat.ofDigitChars 10 cs 0 := by
  rw [List.eq_replicate_of_mem h, Nat.ofDigitChars_append, Nat.ofDigitChars_replicate_zero,
    Nat.mul_zero]

/-- One digit is the numeral of its value. -/
theorem toDigits_of_isDigit (h : c.isDigit = true) :
    c.toNat - '0'.toNat < 10 ∧ Nat.toDigits 10 (c.toNat - '0'.toNat) = [c] := by
  obtain ⟨low, high⟩ := range_of_isDigit h
  have zero : '0'.toNat = 48 := rfl
  have small : c.toNat - '0'.toNat < 10 := by omega
  refine ⟨small, ?_⟩
  have same : (Nat.digitChar (c.toNat - '0'.toNat)).toNat = c.toNat := by
    rw [Nat.toNat_digitChar_of_lt_ten small]
    omega
  rw [Nat.toDigits_of_lt_base small, Char.toNat_inj.mp same]

/-- Digits are the numeral of their value behind zeros. -/
theorem exists_eq_zeros_append (digits : ∀ c ∈ cs, c.isDigit = true) (nonempty : cs ≠ []) :
    ∃ zeros, (∀ c ∈ zeros, c = '0') ∧
      cs = zeros ++ Nat.toDigits 10 (Nat.ofDigitChars 10 cs 0) := by
  induction cs using List.reverseRecOn with
  | nil => exact absurd rfl nonempty
  | append_singleton cs c ih =>
      obtain ⟨digits, last⟩ := List.forall_mem_append.mp digits
      obtain ⟨small, last⟩ := toDigits_of_isDigit (last c (List.mem_singleton_self c))
      have value : Nat.ofDigitChars 10 (cs ++ [c]) 0 =
          10 * Nat.ofDigitChars 10 cs 0 + (c.toNat - '0'.toNat) := by
        rw [Nat.ofDigitChars_append, Nat.ofDigitChars_cons, Nat.ofDigitChars_nil]
      rw [value]
      by_cases first : cs = []
      · subst first
        exact ⟨[], fun c hc => absurd hc List.not_mem_nil, by simpa using last.symm⟩
      obtain ⟨zeros, all, eq⟩ := ih digits first
      rcases Nat.eq_zero_or_pos (Nat.ofDigitChars 10 cs 0) with nought | positive
      · -- nothing but zeros so far: the last of them moves in front
        rw [nought] at eq ⊢
        rw [Nat.mul_zero, Nat.zero_add, last]
        refine ⟨cs, ?_, rfl⟩
        rw [eq, List.forall_mem_append]
        exact ⟨all, by simp⟩
      · refine ⟨zeros, all, ?_⟩
        rw [← Nat.toDigits_append_toDigits (by decide) positive small, last, ← List.append_assoc,
          ← eq]

theorem dropPlus_append {sign : List Char} (h : sign = [] ∨ sign = ['+'])
    (digits : ∀ c ∈ cs, c.isDigit = true) : dropPlus (sign ++ cs) = cs := by
  rcases h with rfl | rfl
  · cases cs with
    | nil => rfl
    | cons c cs =>
        unfold dropPlus
        split
        · rename_i head
          obtain ⟨rfl, -⟩ := List.cons.inj head
          exact absurd (digits '+' (List.mem_cons_self ..)) (by decide)
        · rfl
  · rfl

theorem exists_eq_dropPlus (cs : List Char) :
    ∃ sign, (sign = [] ∨ sign = ['+']) ∧ cs = sign ++ dropPlus cs := by
  unfold dropPlus
  split
  · exact ⟨['+'], .inr rfl, rfl⟩
  · exact ⟨[], .inl rfl, rfl⟩

/-- A text without white space at its ends is read as `n` if it is the numeral of `n`, perhaps behind
zeros and a plus sign, and `n` is below the limit. -/
theorem numeral?_eq_some_iff {limit : Nat} :
    numeral? limit cs = some n ↔
      n < limit ∧ ∃ sign zeros, (sign = [] ∨ sign = ['+']) ∧ (∀ c ∈ zeros, c = '0') ∧
        cs = sign ++ (zeros ++ (decimal n).toList) := by
  have numeral : (decimal n).toList = Nat.toDigits 10 n := Nat.toList_repr
  rw [numeral]
  constructor
  · intro read
    obtain ⟨m, value, below⟩ := Option.bind_eq_some_iff.mp read
    split at below
    · rename_i bound
      obtain rfl := Option.some.inj below
      obtain ⟨sign, plus, eq⟩ := exists_eq_dropPlus cs
      obtain ⟨nonempty, read⟩ := digits?_eq_some_iff.mp value
      obtain ⟨digits, rfl⟩ := readDigits_eq_some_iff.mp read
      obtain ⟨zeros, all, rest⟩ := exists_eq_zeros_append digits nonempty
      exact ⟨bound, sign, zeros, plus, all, eq.trans (congrArg (sign ++ ·) rest)⟩
    · exact absurd below (by simp)
  · rintro ⟨bound, sign, zeros, plus, all, rfl⟩
    have digits : ∀ c ∈ zeros ++ Nat.toDigits 10 n, c.isDigit = true := by
      rw [List.forall_mem_append]
      refine ⟨fun c hc => by rw [all c hc]; rfl, fun c hc => ?_⟩
      exact Nat.isDigit_of_mem_toDigits (by decide) (by decide) hc
    have read : readDigits 10 0 (zeros ++ Nat.toDigits 10 n) = some n := by
      rw [readDigits_of_isDigit digits, ofDigitChars_zeros_append all,
        Nat.ofDigitChars_toDigits (by decide) (by decide)]
    have nonempty : zeros ++ Nat.toDigits 10 n ≠ [] := by simp [Nat.toDigits_ne_nil]
    rw [numeral?, dropPlus_append plus digits, digits?_eq_some_iff.mpr ⟨nonempty, read⟩]
    exact if_pos bound

end Text

namespace InstanceId

/-- The texts of an identifier: its numeral, with any zeros and at most one plus sign in front, and
any white space at either end. -/
def InText (id : InstanceId) (s : String) : Prop :=
  ∃ before sign zeros after,
    s.toList = before ++ (sign ++ (zeros ++ id.text.toList)) ++ after ∧
    (∀ c ∈ before, Text.isBlank c = true) ∧ (sign = [] ∨ sign = ['+']) ∧
    (∀ c ∈ zeros, c = '0') ∧ ∀ c ∈ after, Text.isBlank c = true

theorem inText_text (id : InstanceId) : id.InText id.text :=
  ⟨[], [], [], [], by simp, by simp, .inl rfl, by simp, by simp⟩

theorem toNat_ofNat {n : Nat} (h : n < Text.limit32) : (ofNat n).toNat = n :=
  UInt32.toNat_ofNat_of_lt' h

theorem ofNat_toNat (id : InstanceId) : ofNat id.toNat = id :=
  congrArg InstanceId.mk UInt32.ofNat_toNat

theorem parse_eq_ok_iff_numeral? {id : InstanceId} {s : String} :
    parse s = .ok id ↔ Text.numeral? Text.limit32 (Text.trim s.toList) = some id.toNat := by
  unfold parse
  cases numeral : Text.numeral? Text.limit32 (Text.trim s.toList) with
  | none => simp
  | some n =>
      have bound := (Text.numeral?_eq_some_iff.mp numeral).1
      simp only [Except.ok.injEq, Option.some.injEq]
      refine ⟨fun same => ?_, fun same => ?_⟩
      · rw [← same, toNat_ofNat bound]
      · rw [same, ofNat_toNat]

theorem parse_eq_ok_iff {id : InstanceId} {s : String} : parse s = .ok id ↔ id.InText s := by
  rw [parse_eq_ok_iff_numeral?, Text.numeral?_eq_some_iff]
  constructor
  · rintro ⟨-, sign, zeros, plus, all, core⟩
    obtain ⟨before, after, eq, blank, blank'⟩ := Text.exists_eq_surround s.toList
    rw [core] at eq
    exact ⟨before, sign, zeros, after, eq, blank, plus, all, blank'⟩
  · rintro ⟨before, sign, zeros, after, eq, blank, plus, all, blank'⟩
    refine ⟨id.number.toNat_lt, sign, zeros, plus, all, ?_⟩
    have solid : ∀ c ∈ sign ++ (zeros ++ id.text.toList), Text.isBlank c = false := by
      intro c hc
      rcases List.mem_append.mp hc with hc | hc
      · rcases plus with rfl | rfl
        · exact absurd hc List.not_mem_nil
        · rw [List.mem_singleton.mp hc]
          rfl
      rcases List.mem_append.mp hc with hc | hc
      · rw [all c hc]
        rfl
      · exact Text.isBlank_of_isDigit (Text.isDigit_decimal hc)
    rw [eq, Text.trim_surround blank blank' solid (by simp [text, Text.decimal])]
    rfl

end InstanceId
end Vigil
