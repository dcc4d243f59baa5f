import EnergyMeter.Proofs.GaugeCalls

/-!
# Steps that fit into words

The values of a counter and its range come from files and may be any words: a range may be zero,
the largest word, or below a value that the counter has shown. Here the sums and differences by
which the step between two values is found are written down as a calculation, which can be
carried out in whole numbers, in words that start again at their end, and in words with a check
of every operation. A calculation comes through the checks exactly if none of its operations
leaves the words, and then all three agree. The one of the step does so on every input, and the
step is never larger than the largest of the words that it is found from.
-/

namespace EnergyMeter

/-- What is done with two words. -/
inductive Operation where
  /-- Their sum. -/
  | sum
  /-- Their difference. -/
  | difference
  /-- How far the first is above the second; zero if it is not above. -/
  | excess

/-- Whole numbers that are words. -/
def InWords (n : Int) : Prop := 0 ≤ n ∧ n < 2 ^ 64

namespace Operation

/-- The operation on whole numbers. -/
def exact : Operation → Int → Int → Int
  | sum, m, n => m + n
  | difference, m, n => m - n
  | excess, m, n => max (m - n) 0

/-- The operation on words where what leaves them at one end comes in at the other. -/
def wrapped : Operation → UInt64 → UInt64 → UInt64
  | sum, m, n => m + n
  | difference, m, n => m - n
  | excess, m, n => if n ≤ m then m - n else 0

/-- The operation on words where it has no result if that is not a word. -/
def checked : Operation → UInt64 → UInt64 → Option UInt64
  | sum, m, n => if m.toNat + n.toNat < 2 ^ 64 then some (m + n) else none
  | difference, m, n => if n ≤ m then some (m - n) else none
  | excess, m, n => some (if n ≤ m then m - n else 0)

section

variable {op : Operation} {m n w : UInt64}

/-- If its result is a word, an operation has the same result on words as on whole numbers. -/
theorem exact_eq_wrapped (h : InWords (op.exact m.toNat n.toNat)) :
    op.exact m.toNat n.toNat = (op.wrapped m n).toNat := by
  obtain ⟨hlow, hhigh⟩ := h
  cases op with
  | sum =>
    simp only [exact, wrapped, UInt64.toNat_add] at hhigh ⊢
    omega
  | difference =>
    simp only [exact, wrapped] at hlow ⊢
    have hle : n ≤ m := UInt64.le_iff_toNat_le.2 (by omega)
    rw [UInt64.toNat_sub_of_le _ _ hle]
    omega
  | excess =>
    simp only [exact, wrapped]
    split
    · rename_i hle
      have hnat := UInt64.le_iff_toNat_le.1 hle
      rw [UInt64.toNat_sub_of_le _ _ hle]
      omega
    · rename_i hle
      have hnat := UInt64.lt_iff_toNat_lt.1 (UInt64.not_le.1 hle)
      rw [UInt64.toNat_zero]
      omega

/-- With a check an operation has a result exactly if that is a word, and then the same as
without. -/
theorem checked_eq_some_iff :
    op.checked m n = some w ↔ InWords (op.exact m.toNat n.toNat) ∧ op.wrapped m n = w := by
  have hm := m.toNat_lt
  cases op with
  | sum =>
    rw [checked, Option.ite_none_right_eq_some, Option.some_inj]
    refine and_congr_left fun _ => ?_
    simp only [InWords, exact]
    omega
  | difference =>
    rw [checked, Option.ite_none_right_eq_some, Option.some_inj, UInt64.le_iff_toNat_le]
    refine and_congr_left fun _ => ?_
    simp only [InWords, exact]
    omega
  | excess =>
    have hword : InWords (excess.exact m.toNat n.toNat) := by
      simp only [InWords, exact]
      omega
    rw [checked, Option.some_inj]
    exact (and_iff_right hword).symm

end

end Operation

/-- A calculation on words as it is written down. -/
inductive Calculation where
  /-- A word that is given. -/
  | given (n : UInt64)
  /-- What is done with two results. -/
  | combine (op : Operation) (a b : Calculation)

namespace Calculation

/-- The result in whole numbers. -/
def exact : Calculation → Int
  | given n => n.toNat
  | combine op a b => op.exact a.exact b.exact

/-- The result of every operation on the way, in whole numbers, the innermost first. -/
def formed : Calculation → List Int
  | given _ => []
  | combine op a b => a.formed ++ b.formed ++ [op.exact a.exact b.exact]

/-- The result in words where what leaves them at one end comes in at the other. -/
def wrapped : Calculation → UInt64
  | given n => n
  | combine op a b => op.wrapped a.wrapped b.wrapped

/-- The result in words where the calculation ends at an operation whose result is no word. -/
def checked : Calculation → Option UInt64
  | given n => some n
  | combine op a b => do
    let m ← a.checked
    let n ← b.checked
    op.checked m n

/-- No operation leaves the words. -/
def Fits (c : Calculation) : Prop := ∀ n ∈ c.formed, InWords n

section

variable {op : Operation} {a b c : Calculation} {n w : UInt64}

/-- A given word is found without an operation. -/
theorem fits_given : (given n).Fits := List.forall_mem_nil _

/-- A calculation fits if its parts do and its own result is a word. -/
theorem fits_combine :
    (combine op a b).Fits ↔ a.Fits ∧ b.Fits ∧ InWords (op.exact a.exact b.exact) := by
  simp only [Fits, formed, List.forall_mem_append, List.forall_mem_singleton, and_assoc]

/-- A calculation that fits has the same result in words as in whole numbers. -/
theorem exact_eq_wrapped (h : c.Fits) : c.exact = c.wrapped.toNat := by
  induction c with
  | given n => rfl
  | combine op a b iha ihb =>
    obtain ⟨ha, hb, hword⟩ := fits_combine.1 h
    rw [iha ha, ihb hb] at hword
    rw [exact, wrapped, iha ha, ihb hb]
    exact Operation.exact_eq_wrapped hword

/-- With checks a calculation has a result exactly if it fits, and then the same as without. -/
theorem checked_eq_some_iff : c.checked = some w ↔ c.Fits ∧ c.wrapped = w := by
  induction c generalizing w with
  | given n => exact Option.some_inj.trans (and_iff_right fits_given).symm
  | combine op a b iha ihb =>
    simp only [checked, Option.bind_eq_bind, Option.bind_eq_some_iff, iha, ihb,
      Operation.checked_eq_some_iff, fits_combine]
    constructor
    · rintro ⟨_, ⟨ha, rfl⟩, _, ⟨hb, rfl⟩, hword, rfl⟩
      rw [exact_eq_wrapped ha, exact_eq_wrapped hb]
      exact ⟨⟨ha, hb, hword⟩, rfl⟩
    · rintro ⟨⟨ha, hb, hword⟩, rfl⟩
      rw [exact_eq_wrapped ha, exact_eq_wrapped hb] at hword
      exact ⟨_, ⟨ha, rfl⟩, _, ⟨hb, rfl⟩, hword, rfl⟩

end

end Calculation

open Calculation in
/-- How the microjoules between two values of a counter are found. -/
def stepCalculation (last current : UInt64) (range : Option UInt64) : Calculation :=
  if last ≤ current then combine .difference (given current) (given last)
  else
    match range with
    | some top =>
      combine .sum (combine .sum (combine .excess (given top) (given last)) (given 1))
        (given current)
    | none => given current

section

variable {last current : UInt64} {range : Option UInt64}

/-- In words that start again the calculation is what a gauge does. -/
theorem wrapped_stepCalculation :
    (stepCalculation last current range).wrapped = countedBetween last current range := by
  unfold stepCalculation countedBetween
  by_cases h : last ≤ current
  · rw [if_pos h, if_pos h]
    rfl
  · rw [if_neg h, if_neg h]
    cases range <;> rfl

/-- Whatever the values and the range, no operation on the way to a step leaves the words. -/
theorem fits_stepCalculation : (stepCalculation last current range).Fits := by
  have hcurrent := current.toNat_lt
  have hlast := last.toNat_lt
  unfold stepCalculation
  by_cases h : last ≤ current
  · have hnat := UInt64.le_iff_toNat_le.1 h
    have hstep : InWords (current.toNat - last.toNat) := ⟨by omega, by omega⟩
    rw [if_pos h]
    exact Calculation.fits_combine.2 ⟨Calculation.fits_given, Calculation.fits_given, hstep⟩
  · have hnat := UInt64.lt_iff_toNat_lt.1 (UInt64.not_le.1 h)
    rw [if_neg h]
    cases range with
    | none => exact Calculation.fits_given
    | some top =>
      -- The value is below the one before it. Up to the range, more was taken off than is added
      -- behind the start; above it, nothing is left before the start.
      have htop := top.toNat_lt
      have hrest : InWords (max ((top.toNat : Int) - last.toNat) 0) := ⟨by omega, by omega⟩
      have hround : InWords (max ((top.toNat : Int) - last.toNat) 0 + 1) := ⟨by omega, by omega⟩
      have hstep : InWords (max ((top.toNat : Int) - last.toNat) 0 + 1 + current.toNat) :=
        ⟨by omega, by omega⟩
      simp only [Calculation.fits_combine, Calculation.fits_given, true_and]
      exact ⟨⟨hrest, hround⟩, hstep⟩

end

/-- For any two values of a counter and anything that is known of its range: the calculation by
which a gauge finds the step forms no sum or difference outside the words, so that it comes
through the checks, and without them has its exact result. The step is at most the largest of
the words that it is found from. With a known range it is zero exactly if the counter has not
moved; without one, also if the counter stands at zero. -/
theorem steps_fit_words (last current : UInt64) (range : Option UInt64) :
    (stepCalculation last current range).wrapped = countedBetween last current range ∧
      (∀ n ∈ (stepCalculation last current range).formed, 0 ≤ n ∧ n < 2 ^ 64) ∧
      (stepCalculation last current range).checked = some (countedBetween last current range) ∧
      (stepCalculation last current range).exact = (countedBetween last current range).toNat ∧
      (countedBetween last current range).toNat ≤
        max (max last.toNat current.toNat) (range.elim 0 UInt64.toNat) ∧
      (∀ top, countedBetween last current (some top) = 0 ↔ current = last) ∧
      (countedBetween last current none = 0 ↔ current = last ∨ current = 0) := by
  have hfits : (stepCalculation last current range).Fits := fits_stepCalculation
  have hwrapped := @wrapped_stepCalculation last current range
  refine ⟨hwrapped, hfits, Calculation.checked_eq_some_iff.2 ⟨hfits, hwrapped⟩, ?_,
    countedBetween_le last current range, fun top => countedBetween_eq_zero_iff,
    countedBetween_none_eq_zero_iff⟩
  rw [Calculation.exact_eq_wrapped hfits, hwrapped]

/-- From the largest word to the one below it, by way of the start, a counter with all words in
its range counts the largest word, and nothing larger is formed. -/
example : (stepCalculation 18446744073709551615 18446744073709551614
    (some 18446744073709551615)).formed = [0, 1, 18446744073709551615] := by decide

end EnergyMeter
