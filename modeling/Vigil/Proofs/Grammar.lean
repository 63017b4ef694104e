import Mathlib.Algebra.Group.Nat.Defs
import Vigil.Proofs.Spelling
import Vigil.Scenario

/-!
The texts that are read as an identifier or as a scheduled crash. What counts of a text is what is
left when the white space at both ends is gone (`Text.isCore_iff`), and that has to be a numeral: a
plus sign or none, and digits (`Text.numeral?_trim_eq_some_iff`). A crash is two of these around the
first at sign. So whatever is written in decimal is read back.
-/

namespace Vigil

namespace Text

variable {cs core before after : List Char} {c : Char} {n limit : Nat}

/-- `core` is what is left of a text without the white space at both ends. -/
def IsCore (cs core : List Char) : Prop :=
  ∃ before after, cs = before ++ core ++ after ∧ (∀ c ∈ before, isBlank c = true) ∧
    (∀ c ∈ after, isBlank c = true) ∧ (∀ c ∈ core.head?, isBlank c = false) ∧
    ∀ c ∈ core.getLast?, isBlank c = false

/-- One or more ASCII digits that have the value `n`, and at most a plus sign in front. -/
def IsNumeral (cs : List Char) (n : Nat) : Prop :=
  ∃ sign digits, cs = sign ++ digits ∧ (sign = [] ∨ sign = ['+']) ∧ digits ≠ [] ∧
    (∀ c ∈ digits, c.isDigit = true) ∧ Nat.ofDigitChars 10 digits 0 = n

/-- Without the white space at its ends the text is a numeral of `n`. -/
def Denotes (cs : List Char) (n : Nat) : Prop := ∃ core, IsCore cs core ∧ IsNumeral core n

/-! ### White space -/

theorem trimStart_append (blank : ∀ c ∈ before, isBlank c = true)
    (first : ∀ c ∈ cs.head?, isBlank c = false) : trimStart (before ++ cs) = cs := by
  rw [trimStart, List.dropWhile_append_of_pos blank]
  cases cs with
  | nil => rfl
  | cons c cs => exact List.dropWhile_cons_of_neg (by simpa using first c rfl)

theorem head?_trimStart (cs : List Char) : ∀ c ∈ (trimStart cs).head?, isBlank c = false := by
  intro c hc
  have first := List.head?_dropWhile_not isBlank cs
  rw [trimStart, Option.mem_def] at hc
  rwa [hc] at first

theorem getLast?_trimEnd (cs : List Char) : ∀ c ∈ (trimEnd cs).getLast?, isBlank c = false := by
  rw [trimEnd_eq, List.getLast?_reverse]
  exact head?_trimStart cs.reverse

theorem head?_trim (cs : List Char) : ∀ c ∈ (trim cs).head?, isBlank c = false := by
  intro c hc
  have kept : trimEnd (trimStart cs) <+: trimStart cs :=
    List.reverse_suffix.mp (by rw [trimEnd, List.reverse_reverse]; exact List.dropWhile_suffix _)
  obtain ⟨rest, split⟩ := kept
  refine head?_trimStart cs c ?_
  rw [← split, List.head?_append, show (trimEnd (trimStart cs)).head? = some c from hc]
  rfl

theorem isCore_iff : IsCore cs core ↔ trim cs = core := by
  constructor
  · rintro ⟨before, after, rfl, blank, blank', first, last⟩
    have head : trimStart (before ++ core ++ after) = trimStart (core ++ after) := by
      rw [List.append_assoc, trimStart, List.dropWhile_append_of_pos blank, trimStart]
    have turned : trimStart (after.reverse ++ core.reverse) = core.reverse :=
      trimStart_append (by simpa using blank') (by simpa using last)
    by_cases empty : core = []
    · subst empty
      have all : trimStart (after ++ []) = [] := trimStart_append blank' (by simp)
      rw [trim, head, List.nil_append, ← List.append_nil after, all]
      rfl
    · have start : trimStart (core ++ after) = core ++ after := by
        obtain ⟨c, rest, rfl⟩ := List.exists_cons_of_ne_nil empty
        exact trimStart_append (List.forall_mem_nil _) first
      rw [trim, head, start, trimEnd_eq, List.reverse_append, turned, List.reverse_reverse]
  · rintro rfl
    obtain ⟨before, after, split, blank, blank'⟩ := exists_eq_surround cs
    exact ⟨before, after, split, blank, blank', head?_trim cs, getLast?_trimEnd _⟩

/-! ### Numerals -/

theorem digits?_eq_some_iff_isDigit :
    digits? 10 cs = some n ↔
      cs ≠ [] ∧ (∀ c ∈ cs, c.isDigit = true) ∧ Nat.ofDigitChars 10 cs 0 = n := by
  rw [digits?_eq_some_iff, readDigits_eq_some_iff]

theorem numeral?_eq_some_iff_isNumeral :
    numeral? limit cs = some n ↔ IsNumeral cs n ∧ n < limit := by
  have bounded : numeral? limit cs = some n ↔ digits? 10 (dropPlus cs) = some n ∧ n < limit := by
    simp [numeral?, Option.bind_eq_some_iff, Option.ite_none_right_eq_some]
  rw [bounded, and_congr_left_iff]
  intro _
  constructor
  · intro read
    obtain ⟨sign, plus, split⟩ := exists_eq_dropPlus cs
    exact ⟨sign, dropPlus cs, split, plus, digits?_eq_some_iff_isDigit.mp read⟩
  · rintro ⟨sign, digits, rfl, plus, read⟩
    rw [dropPlus_append plus read.2.1]
    exact digits?_eq_some_iff_isDigit.mpr read

theorem numeral?_trim_eq_some_iff :
    numeral? limit (trim cs) = some n ↔ Denotes cs n ∧ n < limit := by
  simp only [numeral?_eq_some_iff_isNumeral, Denotes, isCore_iff, exists_eq_left']

theorem numeral?_trim_eq_none_iff :
    numeral? limit (trim cs) = none ↔ ∀ n < limit, ¬ Denotes cs n := by
  simp only [Option.eq_none_iff_forall_ne_some, ne_eq, numeral?_trim_eq_some_iff, not_and]
  exact forall_congr' fun n => ⟨fun h small denotes => h denotes small,
    fun h denotes small => h small denotes⟩

/-- What is written in decimal denotes what was written. -/
theorem denotes_decimal (n : Nat) : Denotes (decimal n).toList n :=
  (numeral?_trim_eq_some_iff.mp (numeral?_decimal (Nat.lt_succ_self n))).1

end Text

namespace InstanceId

open Text (Denotes limit32)

variable {s : String} {id : InstanceId}

theorem parse_eq_ok_iff_denotes :
    parse s = .ok id ↔ ∃ n < 2 ^ 32, Denotes s.toList n ∧ id.toNat = n := by
  rw [parse_eq_ok_iff_numeral?, Text.numeral?_trim_eq_some_iff]
  constructor
  · rintro ⟨denotes, small⟩
    exact ⟨id.toNat, small, denotes, rfl⟩
  · rintro ⟨n, small, denotes, rfl⟩
    exact ⟨denotes, small⟩

theorem parse_eq_error_iff_denotes {e : BadInstanceId} :
    parse s = .error e ↔ e.text = s ∧ ∀ n < 2 ^ 32, ¬ Denotes s.toList n := by
  unfold parse
  split
  · rename_i n read
    obtain ⟨denotes, small⟩ := Text.numeral?_trim_eq_some_iff.mp read
    exact iff_of_false (by simp) fun none => none.2 n small denotes
  · rename_i read
    have none : ∀ n < 2 ^ 32, ¬ Denotes s.toList n := Text.numeral?_trim_eq_none_iff.mp read
    rw [and_iff_left none, Except.error.injEq]
    constructor
    · rintro rfl
      rfl
    · rintro rfl
      rfl

end InstanceId

section Split

variable {c : Char} {cs before after : List Char}

theorem splitAtFirst?_eq_some_iff :
    splitAtFirst? c cs = some (before, after) ↔ cs = before ++ c :: after ∧ c ∉ before := by
  induction cs generalizing before with
  | nil => simp [splitAtFirst?]
  | cons d ds ih =>
      by_cases same : d = c
      · subst same
        cases before with
        | nil => simp [splitAtFirst?]
        | cons b before =>
            simp only [splitAtFirst?, ↓reduceIte, Option.some.injEq, Prod.mk.injEq, List.nil_eq,
              reduceCtorEq, false_and, List.cons_append, List.cons.injEq, List.mem_cons,
              false_iff, not_and, not_or, not_not]
            rintro ⟨rfl, _⟩ other
            exact absurd rfl other
      · cases before with
        | nil => simp [splitAtFirst?, same]
        | cons b before =>
            simp only [splitAtFirst?, same, ↓reduceIte, Option.map_eq_some_iff, Prod.exists,
              Prod.mk.injEq, List.cons.injEq, List.cons_append, List.mem_cons, not_or]
            constructor
            · rintro ⟨_, _, found, ⟨rfl, rfl⟩, rfl⟩
              obtain ⟨split, free⟩ := ih.mp found
              exact ⟨⟨rfl, split⟩, Ne.symm same, free⟩
            · rintro ⟨⟨rfl, split⟩, _, free⟩
              exact ⟨_, _, ih.mpr ⟨split, free⟩, ⟨rfl, rfl⟩, rfl⟩

theorem splitAtFirst?_eq_none_iff : splitAtFirst? c cs = none ↔ c ∉ cs := by
  induction cs with
  | nil => simp [splitAtFirst?]
  | cons d ds ih =>
      by_cases same : d = c
      · simp [splitAtFirst?, same]
      · simp [splitAtFirst?, same, Ne.symm same, ih]

end Split

namespace ScheduledEvent

open Text (Denotes limit32 limit64)

variable {s : String} {e : ScheduledEvent} {before after : List Char}

/-- With an at sign it is down to the two parts around the first one. -/
theorem parse_eq_of_split (split : s.toList = before ++ '@' :: after) (first : '@' ∉ before) :
    parse s =
      match Text.numeral? limit32 (Text.trim before), Text.numeral? limit64 (Text.trim after) with
      | none, _ => .error (.badInstance s)
      | some _, none => .error (.badTime s)
      | some n, some t => .ok ⟨t, .ofNat n, .crash⟩ := by
  unfold parse
  rw [splitAtFirst?_eq_some_iff.mpr ⟨split, first⟩]
  dsimp only
  cases Text.numeral? limit32 (Text.trim before) with
  | none => rfl
  | some n => cases Text.numeral? limit64 (Text.trim after) with
    | none => rfl
    | some t => rfl

theorem parse_eq_of_no_split (missing : '@' ∉ s.toList) : parse s = .error (.noSeparator s) := by
  unfold parse
  rw [splitAtFirst?_eq_none_iff.mpr missing]

theorem exists_split (s : String) : '@' ∉ s.toList ∨
    ∃ before after, s.toList = before ++ '@' :: after ∧ '@' ∉ before := by
  cases found : splitAtFirst? '@' s.toList with
  | none => exact .inl (splitAtFirst?_eq_none_iff.mp found)
  | some parts => exact .inr ⟨parts.1, parts.2, splitAtFirst?_eq_some_iff.mp found⟩

theorem parse_eq_ok_iff :
    parse s = .ok e ↔ ∃ before after, s.toList = before ++ '@' :: after ∧ '@' ∉ before ∧
      (∃ n < 2 ^ 32, Denotes before n ∧ e.subject.toNat = n) ∧
      (∃ t < 2 ^ 64, Denotes after t ∧ e.time = t) ∧ e.action = .crash := by
  constructor
  · intro read
    rcases exists_split s with missing | ⟨before, after, split, first⟩
    · rw [parse_eq_of_no_split missing] at read
      cases read
    rw [parse_eq_of_split split first] at read
    split at read
    · cases read
    · cases read
    · rename_i n t subject time
      obtain ⟨subject, small⟩ := Text.numeral?_trim_eq_some_iff.mp subject
      obtain ⟨time, small'⟩ := Text.numeral?_trim_eq_some_iff.mp time
      cases read
      exact ⟨before, after, split, first, ⟨n, small, subject, InstanceId.toNat_ofNat small⟩,
        ⟨t, small', time, rfl⟩, rfl⟩
  · rintro ⟨before, after, split, first, ⟨n, small, subject, hn⟩, ⟨t, small', time, ht⟩, crash⟩
    have same : InstanceId.ofNat n = e.subject := by rw [← hn, InstanceId.ofNat_toNat]
    have subject : Text.numeral? limit32 (Text.trim before) = some n :=
      Text.numeral?_trim_eq_some_iff.mpr ⟨subject, small⟩
    have time : Text.numeral? limit64 (Text.trim after) = some t :=
      Text.numeral?_trim_eq_some_iff.mpr ⟨time, small'⟩
    rw [parse_eq_of_split split first, subject, time]
    simp only [same, ← ht, ← crash]

/-- A refusal names the first part that is missing or wrong, and quotes the whole text. -/
theorem parse_eq_error_iff {err : BadEvent} :
    parse s = .error err ↔ ('@' ∉ s.toList ∧ err = .noSeparator s) ∨
      ∃ before after, s.toList = before ++ '@' :: after ∧ '@' ∉ before ∧
        (((∀ n < 2 ^ 32, ¬ Denotes before n) ∧ err = .badInstance s) ∨
          (∃ n < 2 ^ 32, Denotes before n) ∧ (∀ t < 2 ^ 64, ¬ Denotes after t) ∧
            err = .badTime s) := by
  constructor
  · intro refused
    rcases exists_split s with missing | ⟨before, after, split, first⟩
    · rw [parse_eq_of_no_split missing] at refused
      cases refused
      exact .inl ⟨missing, rfl⟩
    rw [parse_eq_of_split split first] at refused
    refine .inr ⟨before, after, split, first, ?_⟩
    split at refused
    · rename_i subject
      cases refused
      exact .inl ⟨Text.numeral?_trim_eq_none_iff.mp subject, rfl⟩
    · rename_i n subject time
      obtain ⟨subject, small⟩ := Text.numeral?_trim_eq_some_iff.mp subject
      cases refused
      exact .inr ⟨⟨n, small, subject⟩, Text.numeral?_trim_eq_none_iff.mp time, rfl⟩
    · cases refused
  · rintro (⟨missing, rfl⟩ | ⟨before, after, split, first, bad⟩)
    · exact parse_eq_of_no_split missing
    rw [parse_eq_of_split split first]
    rcases bad with ⟨subject, rfl⟩ | ⟨⟨n, small, subject⟩, time, rfl⟩
    · have subject : Text.numeral? limit32 (Text.trim before) = none :=
        Text.numeral?_trim_eq_none_iff.mpr subject
      rw [subject]
    · have subject : Text.numeral? limit32 (Text.trim before) = some n :=
        Text.numeral?_trim_eq_some_iff.mpr ⟨subject, small⟩
      have time : Text.numeral? limit64 (Text.trim after) = none :=
        Text.numeral?_trim_eq_none_iff.mpr time
      rw [subject, time]

-- an at sign behind the first one belongs to the time
example : parse "3@1@2" = .error (.badTime "3@1@2") := by decide +kernel

theorem parse_text (id : InstanceId) {t : Nat} (h : t < 2 ^ 64) :
    parse (id.text ++ "@" ++ Text.decimal t) = .ok ⟨t, id, .crash⟩ := by
  have free : '@' ∉ id.text.toList := fun at_ => absurd (Text.isDigit_decimal at_) (by decide)
  exact parse_eq_ok_iff.mpr ⟨id.text.toList, (Text.decimal t).toList, by simp, free,
    ⟨id.toNat, id.number.toNat_lt, Text.denotes_decimal _, rfl⟩,
    ⟨t, h, Text.denotes_decimal t, rfl⟩, rfl⟩

end ScheduledEvent

/-- Identifiers and crashes are read from the texts of their grammars and from no other text, and
what is written in decimal is read back. -/
theorem parse_accepts_grammar :
    (∀ s id, InstanceId.parse s = .ok id ↔ ∃ n < 2 ^ 32, Text.Denotes s.toList n ∧ id.toNat = n) ∧
    (∀ s e, InstanceId.parse s = .error e ↔
      e.text = s ∧ ∀ n < 2 ^ 32, ¬ Text.Denotes s.toList n) ∧
    (∀ s e, ScheduledEvent.parse s = .ok e ↔
      ∃ before after, s.toList = before ++ '@' :: after ∧ '@' ∉ before ∧
        (∃ n < 2 ^ 32, Text.Denotes before n ∧ e.subject.toNat = n) ∧
        (∃ t < 2 ^ 64, Text.Denotes after t ∧ e.time = t) ∧ e.action = .crash) ∧
    (∀ id, InstanceId.parse id.text = .ok id) ∧
    ∀ (id : InstanceId) (t : UInt64),
      ScheduledEvent.parse (id.text ++ "@" ++ Text.decimal t.toNat) = .ok ⟨t.toNat, id, .crash⟩ :=
  ⟨fun _ _ => InstanceId.parse_eq_ok_iff_denotes, fun _ _ => InstanceId.parse_eq_error_iff_denotes,
    fun _ _ => ScheduledEvent.parse_eq_ok_iff, InstanceId.parse_text,
    fun id t => ScheduledEvent.parse_text id t.toNat_lt⟩

end Vigil
