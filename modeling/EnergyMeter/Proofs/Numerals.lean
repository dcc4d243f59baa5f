import EnergyMeter.Text.Numeral
import Mathlib.Data.List.Induction

/-!
# Which texts are numerals

A numeral is said twice: by the reader that works on it, and here by how it is written, one
digit after the other and perhaps a plus sign in front. Both are the same, so a text is read
exactly if it is written in this way and its number is below the bound. The decimal digits of
a number are a numeral of it, and every other numeral of it has zeros in front of them.
-/

namespace EnergyMeter.Text.Numeral

/-- A row of ASCII digits and its decimal number. -/
inductive Digits : List Char → Nat → Prop
  /-- A single digit. -/
  | one {d : Nat} (h : d < 10) : Digits [d.digitChar] d
  /-- A row with one more digit at its end. -/
  | more {ds : List Char} {n d : Nat} (hds : Digits ds n) (h : d < 10) :
      Digits (ds ++ [d.digitChar]) (10 * n + d)

/-- A text that writes a number: digits, perhaps behind one plus sign. -/
inductive Writes : List Char → Nat → Prop
  /-- Digits alone. -/
  | plain {ds : List Char} {n : Nat} (h : Digits ds n) : Writes ds n
  /-- Digits behind a plus sign. -/
  | signed {ds : List Char} {n : Nat} (h : Digits ds n) : Writes ('+' :: ds) n

variable {cs ds : List Char} {n d bound : Nat} {c : Char}

/-- The character of a digit has the value of the digit. -/
theorem digitValue_digitChar (h : d < 10) : digitValue d.digitChar = d := by
  have hcode := Nat.toNat_digitChar_of_lt_ten h
  have hzero : '0'.toNat = 48 := by decide
  unfold digitValue
  omega

/-- An ASCII digit is the character of its value. -/
theorem digitChar_digitValue (h : c.isDigit = true) :
    digitValue c < 10 ∧ (digitValue c).digitChar = c := by
  have hbounds : 48 ≤ c.toNat ∧ c.toNat ≤ 57 := by
    simpa [Char.isDigit, UInt32.le_iff_toNat_le] using h
  have hzero : '0'.toNat = 48 := by decide
  have hlt : digitValue c < 10 := by
    unfold digitValue
    omega
  have hcode := Nat.toNat_digitChar_of_lt_ten hlt
  have hvalue : digitValue c = c.toNat - '0'.toNat := rfl
  exact ⟨hlt, Char.toNat_inj.1 (by omega)⟩

/-- One more digit at the end multiplies the value by ten and adds the digit. -/
theorem digitsValue_concat (cs : List Char) (c : Char) :
    digitsValue (cs ++ [c]) = 10 * digitsValue cs + digitValue c := by
  simp only [digitsValue, List.foldl_append, List.foldl_cons, List.foldl_nil]

/-- A text is a row of digits if it is not empty and each of its characters is a digit. -/
theorem isDigits_eq_true : isDigits cs = true ↔ cs ≠ [] ∧ ∀ c ∈ cs, c.isDigit = true := by
  simp [isDigits]

/-- What is written digit by digit is a row of digits with the value that is computed. -/
theorem Digits.isDigits_and_value (h : Digits ds n) :
    isDigits ds = true ∧ digitsValue ds = n := by
  induction h with
  | @one d h =>
    have hdigit : d.digitChar.isDigit = true := Nat.isDigit_digitChar.trans (decide_eq_true h)
    have hvalue := digitsValue_concat [] d.digitChar
    rw [List.nil_append, digitValue_digitChar h] at hvalue
    exact ⟨isDigits_eq_true.2 (by simpa using hdigit), hvalue.trans (Nat.zero_add _)⟩
  | @more ds n d hds h ih =>
    obtain ⟨hall, hvalue⟩ := ih
    have hdigit : d.digitChar.isDigit = true := Nat.isDigit_digitChar.trans (decide_eq_true h)
    have hrow := (isDigits_eq_true.1 hall).2
    constructor
    · refine isDigits_eq_true.2 ⟨by simp, fun c hc => ?_⟩
      rcases List.mem_append.1 hc with hc | hc
      · exact hrow c hc
      · exact List.mem_singleton.1 hc ▸ hdigit
    · rw [digitsValue_concat, hvalue, digitValue_digitChar h]

/-- A row of digits is written digit by digit. -/
theorem digits_digitsValue (h : isDigits ds = true) : Digits ds (digitsValue ds) := by
  -- The last digit comes off, as the value is computed from the front.
  induction ds using List.reverseRecOn with
  | nil => cases h
  | append_singleton ds c ih =>
    have hrow := (isDigits_eq_true.1 h).2
    obtain ⟨hlt, hchar⟩ := digitChar_digitValue (hrow c (by simp))
    rw [digitsValue_concat]
    by_cases hds : ds = []
    · subst hds
      have hvalue : 10 * digitsValue [] + digitValue c = digitValue c := Nat.zero_add _
      have hone := Digits.one hlt
      rw [hchar] at hone
      rw [hvalue]
      exact hone
    · have hfront := ih (isDigits_eq_true.2 ⟨hds, fun c hc => hrow c (by simp [hc])⟩)
      have hmore := hfront.more hlt
      rw [hchar] at hmore
      exact hmore

/-- A row of digits in both ways. -/
theorem digits_iff : Digits ds n ↔ isDigits ds = true ∧ digitsValue ds = n := by
  constructor
  · exact Digits.isDigits_and_value
  · intro h
    exact h.2 ▸ digits_digitsValue h.1

/-- The digits of a numeral are what is left without its plus sign. -/
theorem writes_iff : Writes cs n ↔ Digits (unsigned cs) n := by
  constructor
  · intro h
    cases h with
    | signed h => exact h
    | plain h =>
      have hplus : ∀ r, cs ≠ '+' :: r := by
        intro r hr
        have hall := (isDigits_eq_true.1 h.isDigits_and_value.1).2
        have hdigit := hall '+' (by simp [hr])
        cases hdigit
      have hunsigned : unsigned cs = cs := by
        unfold unsigned
        split
        · exact absurd rfl (hplus _)
        · rfl
      exact hunsigned.symm ▸ h
  · intro h
    unfold unsigned at h
    split at h
    · exact .signed h
    · exact .plain h

/-- A text is read below a bound exactly if it writes a number below that bound. -/
theorem value?_eq_some : value? bound cs = some n ↔ Writes cs n ∧ n < bound := by
  rw [writes_iff, digits_iff]
  simp only [value?, Option.ite_none_right_eq_some, Bool.and_eq_true, decide_eq_true_eq,
    Option.some.injEq]
  constructor
  · intro h
    obtain ⟨⟨hdigits, hlt⟩, hvalue⟩ := h
    exact ⟨⟨hdigits, hvalue⟩, hvalue ▸ hlt⟩
  · intro h
    obtain ⟨⟨hdigits, hvalue⟩, hlt⟩ := h
    exact ⟨⟨hdigits, hvalue ▸ hlt⟩, hvalue⟩

/-- The numerals below `2^32` are those of the numbers of 32 bits. -/
theorem word32?_eq_some {n : UInt32} : word32? cs = some n ↔ Writes cs n.toNat := by
  simp only [word32?, Option.map_eq_some_iff, value?_eq_some]
  constructor
  · intro h
    obtain ⟨m, ⟨hm, hlt⟩, hn⟩ := h
    have hback : n.toNat = m := by
      rw [← hn]
      exact UInt32.toNat_ofNat_of_lt' hlt
    exact hback ▸ hm
  · intro h
    exact ⟨n.toNat, ⟨h, n.toNat_lt_size⟩, UInt32.ofNat_toNat⟩

/-- The numerals below `2^64` are those of the numbers of 64 bits. -/
theorem word64?_eq_some {s : String} {n : UInt64} :
    word64? s = some n ↔ Writes s.toList n.toNat := by
  simp only [word64?, Option.map_eq_some_iff, value?_eq_some]
  constructor
  · intro h
    obtain ⟨m, ⟨hm, hlt⟩, hn⟩ := h
    have hback : n.toNat = m := by
      rw [← hn]
      exact UInt64.toNat_ofNat_of_lt' hlt
    exact hback ▸ hm
  · intro h
    exact ⟨n.toNat, ⟨h, n.toNat_lt_size⟩, UInt64.ofNat_toNat⟩

/-- A numeral is of digits, a plus sign aside, and has one at least. -/
theorem Writes.chars (h : Writes cs n) : cs ≠ [] ∧ ∀ c ∈ cs, c = '+' ∨ c.isDigit = true := by
  cases h with
  | plain h =>
    have hrow := isDigits_eq_true.1 h.isDigits_and_value.1
    exact ⟨hrow.1, fun c hc => Or.inr (hrow.2 c hc)⟩
  | signed h =>
    have hrow := isDigits_eq_true.1 h.isDigits_and_value.1
    refine ⟨by simp, fun c hc => ?_⟩
    rcases List.mem_cons.1 hc with hc | hc
    · exact Or.inl hc
    · exact Or.inr (hrow.2 c hc)

/-- A character that is neither a digit nor a plus sign stands in no numeral. -/
theorem Writes.not_mem (h : Writes cs n) (hplus : c ≠ '+') (hdigit : c.isDigit = false) :
    c ∉ cs := by
  intro hc
  rcases h.chars.2 c hc with hc | hc
  · exact hplus hc
  · cases hdigit.symm.trans hc

/-- The decimal digits of a number are a numeral of that number. -/
theorem digits_toDigits (n : Nat) : Digits (Nat.toDigits 10 n) n := by
  induction n using Nat.strongRecOn with
  | ind n ih =>
    rw [Nat.toDigits_eq_if (by decide)]
    split
    · rename_i hlt
      exact .one hlt
    · rename_i hle
      have hfront := ih (n / 10) (Nat.div_lt_self (by omega) (by decide))
      have hmore := hfront.more (Nat.mod_lt n (by decide : 0 < 10))
      rw [Nat.div_add_mod] at hmore
      exact hmore

/-- The digits of a text from the first that is not zero. -/
def significant (cs : List Char) : List Char := (unsigned cs).dropWhile (· = '0')

/-- Without the zeros in front, a row of digits is the decimal digits of its number. -/
theorem Digits.dropWhile_zeros (h : Digits ds n) :
    ds.dropWhile (· = '0') = if n = 0 then [] else Nat.toDigits 10 n := by
  induction h with
  | @one d h =>
    rw [Nat.toDigits_of_lt_base h, List.dropWhile_cons, List.dropWhile_nil]
    simp only [decide_eq_true_eq, Nat.digitChar_eq_zero]
  | @more ds n d hds h ih =>
    have hlast : Nat.toDigits 10 d = [d.digitChar] := Nat.toDigits_of_lt_base h
    rw [List.dropWhile_append, ih]
    by_cases hn : n = 0
    · subst hn
      have hsum : 10 * 0 + d = d := by omega
      rw [hsum, hlast]
      simp [List.dropWhile_cons, Nat.digitChar_eq_zero]
    · have hsum : 10 * n + d ≠ 0 := by omega
      have happend := Nat.toDigits_append_toDigits (by decide : 1 < 10) (by omega : 0 < n) h
      rw [if_neg hn, if_neg hsum, ← happend, hlast]
      simp [Nat.toDigits_ne_nil]

/-- Two numerals are of the same number exactly if they have the same digits from the first
that is not zero. -/
theorem Writes.eq_iff {cs' : List Char} {n' : Nat} (h : Writes cs n) (h' : Writes cs' n') :
    n = n' ↔ significant cs = significant cs' := by
  have hdigits := (writes_iff.1 h).dropWhile_zeros
  have hdigits' := (writes_iff.1 h').dropWhile_zeros
  unfold significant
  rw [hdigits, hdigits']
  constructor
  · intro hn
    rw [hn]
  · intro hsame
    by_cases hn : n = 0
    · by_cases hn' : n' = 0
      · rw [hn, hn']
      · rw [if_pos hn, if_neg hn'] at hsame
        exact absurd hsame.symm Nat.toDigits_ne_nil
    · by_cases hn' : n' = 0
      · rw [if_neg hn, if_pos hn'] at hsame
        exact absurd hsame Nat.toDigits_ne_nil
      · rw [if_neg hn, if_neg hn'] at hsame
        have hback := congrArg (Nat.ofDigitChars 10 · 0) hsame
        simpa only [Nat.ofDigitChars_ten_toDigits] using hback

end EnergyMeter.Text.Numeral
