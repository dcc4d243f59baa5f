import EnergyMeter.Proofs.GaugeAccounting
import EnergyMeter.Proofs.GaugeInterleaving
import Mathlib.Tactic.SplitIfs

/-!
# Reading less often

A value in between can only add to what a gauge counts: the step from one value to another is
at most the two steps by way of a third, whatever the values are and whatever is known of the
range, even if some of them lie above it. So of two rows of reads that end with one value, the
one that leaves some of the other's values out, because these reads were not made or failed,
never books more.
-/

namespace EnergyMeter

open Files

section Values

variable {range : Option UInt64} {first : UInt64} {few all : List UInt64}

/-- The step from one value to another is at most the two steps by way of a third. -/
theorem countedBetween_triangle (first middle last : UInt64) (range : Option UInt64) :
    (countedBetween first last range).toNat ≤
      (countedBetween first middle range).toNat + (countedBetween middle last range).toNat := by
  rw [toNat_countedBetween, toNat_countedBetween, toNat_countedBetween]
  -- Each of the three steps may or may not go down; a range below a value counts as zero.
  cases range with
  | some top =>
    dsimp only
    split_ifs <;> omega
  | none =>
    dsimp only
    split_ifs <;> omega

/-- Values add no more by themselves than behind another value. -/
theorem sumOver_le_add (range : Option UInt64) (first n : UInt64) (values : List UInt64) :
    sumOver range first values ≤ (countedBetween first n range).toNat + sumOver range n values := by
  cases values with
  | nil => exact Nat.zero_le _
  | cons next rest =>
    have htriangle := countedBetween_triangle first n next range
    rw [sumOver_cons, sumOver_cons]
    omega

/-- If values are left out of a row but not the last, the others add no more than the row. -/
theorem sumOver_le_of_sublist (h : few.Sublist all)
    (hlast : few.getLastD first = all.getLastD first) :
    sumOver range first few ≤ sumOver range first all := by
  induction h generalizing first with
  | slnil => exact Nat.le_refl _
  | @cons few rest n _ ih =>
    cases few with
    | nil => exact Nat.zero_le _
    | cons next others =>
      have hrest : sumOver range n (next :: others) ≤ sumOver range n rest := by
        refine ih ?_
        rw [List.getLastD_cons] at hlast ⊢
        rw [hlast, List.getLastD_cons]
      have hmore := sumOver_le_add range first n (next :: others)
      have hfull : sumOver range first (n :: rest) =
          (countedBetween first n range).toNat + sumOver range n rest := sumOver_cons
      omega
  | cons_cons n _ ih =>
    rw [List.getLastD_cons, List.getLastD_cons] at hlast
    have hrest := ih hlast
    rw [sumOver_cons, sumOver_cons]
    omega

end Values

/-- The values that reads at some moments find, those of them that get through. -/
def foundAt (file : Path) (views : List View) : List UInt64 :=
  views.filterMap fun v => (Sensor.count v file).toOption

/-- Reads one after the other book the steps over the values that they find. -/
theorem total_run_reads (a : Account) (views : List View) :
    (a.run (views.map .read)).total =
      a.total + sumOver a.gauge.range a.gauge.last (foundAt a.gauge.file views) := by
  induction views generalizing a with
  | nil => rfl
  | cons v rest ih =>
    have hrun : a.run ((v :: rest).map .read) = (a.move (.read v)).run (rest.map .read) := rfl
    rw [hrun, ih]
    cases hv : Sensor.count v a.gauge.file with
    | error e =>
      have hsame : a.move (.read v) = a := by
        rw [Account.move, Gauge.read_eq_error.2 hv]
      rw [hsame, foundAt, foundAt, List.filterMap_cons_none (by rw [hv]; rfl)]
    | ok n =>
      have hmoved : a.move (.read v) = ⟨a.gauge.book n, a.booked ++ [a.gauge.step n]⟩ := by
        rw [Account.move, Gauge.read_eq_ok.2 ⟨n, hv, rfl⟩]
        rfl
      have htotal : (a.move (.read v)).total = a.total + (a.gauge.step n).toNat := by
        rw [hmoved, Account.total, List.map_append, List.sum_append]
        rfl
      rw [htotal, hmoved, foundAt, foundAt, List.filterMap_cons_some (by rw [hv]; rfl),
        sumOver_cons, ← Nat.add_assoc]
      rfl

/-- By way of a value in between never less is counted; and reads that find some of the values
that other reads of the gauge find, the last among them, never book more than these. -/
theorem skipped_reads_count_no_more :
    (∀ (range : Option UInt64) (first middle last : UInt64),
      (countedBetween first last range).toNat ≤
        (countedBetween first middle range).toNat + (countedBetween middle last range).toNat) ∧
    ∀ (a : Account) (few all : List View),
      (foundAt a.gauge.file few).Sublist (foundAt a.gauge.file all) →
      (foundAt a.gauge.file few).getLast? = (foundAt a.gauge.file all).getLast? →
      (a.run (few.map .read)).total ≤ (a.run (all.map .read)).total := by
  constructor
  · exact fun range first middle last => countedBetween_triangle first middle last range
  · intro a few all hfew hlast
    have hend : (foundAt a.gauge.file few).getLastD a.gauge.last =
        (foundAt a.gauge.file all).getLastD a.gauge.last := by
      rw [List.getLastD_eq_getLast?, List.getLastD_eq_getLast?, hlast]
    rw [total_run_reads, total_run_reads]
    exact Nat.add_le_add_left (sumOver_le_of_sublist hfew hend) _

/-- A counter of range 100 is read at 110, beyond its range, then at 20 and 90. If the read at 20
is left out and the one at 110 fails, less is booked. -/
theorem skipped_reads_count_no_more_of_beyond :
    let a := Account.opened ⟨⟨"energy_uj"⟩, some 100, 50, 0, signBit_zero⟩
    let few : List View := [.nothing, .holding "90\n"]
    let all : List View := [.holding "110\n", .holding "20\n", .holding "90\n"]
    foundAt a.gauge.file few = [90] ∧ foundAt a.gauge.file all = [110, 20, 90] ∧
      (a.run (few.map .read)).total = 40 ∧ (a.run (all.map .read)).total = 151 ∧
      (a.run (few.map .read)).total ≤ (a.run (all.map .read)).total := by
  intro a few all
  have hfew : foundAt a.gauge.file few = [90] := by rfl
  have hall : foundAt a.gauge.file all = [110, 20, 90] := by rfl
  refine ⟨hfew, hall, ?_, ?_, ?_⟩
  · rw [total_run_reads, hfew]
    decide
  · rw [total_run_reads, hall]
    decide
  · have hsome : (foundAt a.gauge.file few).Sublist (foundAt a.gauge.file all) := by
      rw [hfew, hall]
      decide
    have hlast : (foundAt a.gauge.file few).getLast? = (foundAt a.gauge.file all).getLast? := by
      rw [hfew, hall]
      rfl
    exact skipped_reads_count_no_more.2 a few all hsome hlast

end EnergyMeter
