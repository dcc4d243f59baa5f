import EnergyMeter.Gauge
import Mathlib.Data.Nat.ModEq

/-!
# What single calls of a gauge do

Each call of a gauge either fails with the error of its file and changes
nothing, or books one value. The steps that it books are worked out here in
natural numbers: none of the 64-bit sums wraps, a step is never larger than the
values and the range that it is found from, and over a counter that shows the
energy modulo its range the step is the energy modulo that range.
-/

namespace EnergyMeter

open Files

/-- Without a start in between, the step is the difference. -/
theorem countedBetween_of_le {last current : UInt64} {range : Option UInt64}
    (h : last ≤ current) :
    (countedBetween last current range).toNat = current.toNat - last.toNat := by
  unfold countedBetween
  rw [if_pos h, UInt64.toNat_sub_of_le _ _ h]

/-- Between a value and itself nothing is counted. -/
theorem countedBetween_self {value : UInt64} {range : Option UInt64} :
    countedBetween value value range = 0 := by
  unfold countedBetween
  rw [if_pos (UInt64.le_refl value), UInt64.sub_self]

/-- The step past the largest value, which is itself one microjoule. A value
above the stated range counts as the range. -/
theorem countedBetween_of_lt {last current top : UInt64} (h : current < last) :
    (countedBetween last current (some top)).toNat =
      (top.toNat - last.toNat) + 1 + current.toNat := by
  have hn : ¬ last ≤ current := UInt64.not_le.2 h
  have hlt := UInt64.lt_iff_toNat_lt.1 h
  have ht := top.toNat_lt
  have hl := last.toNat_lt
  have hgap : (if last ≤ top then top - last else 0).toNat = top.toNat - last.toNat := by
    split
    · rename_i hle
      rw [UInt64.toNat_sub_of_le _ _ hle]
    · rename_i hle
      have hlt' := UInt64.lt_iff_toNat_lt.1 (UInt64.not_le.1 hle)
      rw [UInt64.toNat_zero]
      omega
  simp only [countedBetween, if_neg hn]
  rw [UInt64.toNat_add, UInt64.toNat_add, hgap, UInt64.toNat_one]
  omega

/-- Without a known range, the step past the largest value is what was counted
since the start. -/
theorem countedBetween_of_lt_none {last current : UInt64} (h : current < last) :
    countedBetween last current none = current := by
  unfold countedBetween
  rw [if_neg (UInt64.not_le.2 h)]

/-- The step in natural numbers, however the values stand to the range. -/
theorem toNat_countedBetween (last current : UInt64) (range : Option UInt64) :
    (countedBetween last current range).toNat =
      if last.toNat ≤ current.toNat then current.toNat - last.toNat
      else
        match range with
        | some top => (top.toNat - last.toNat) + 1 + current.toNat
        | none => current.toNat := by
  by_cases h : last ≤ current
  · rw [if_pos (UInt64.le_iff_toNat_le.1 h), countedBetween_of_le h]
  · have hlt := UInt64.not_le.1 h
    rw [if_neg fun hle => h (UInt64.le_iff_toNat_le.2 hle)]
    cases range with
    | some top => exact countedBetween_of_lt hlt
    | none => rw [countedBetween_of_lt_none hlt]

/-- A step is at most the largest of the values and the range that it is found from. -/
theorem countedBetween_le (last current : UInt64) (range : Option UInt64) :
    (countedBetween last current range).toNat ≤
      max (max last.toNat current.toNat) (range.elim 0 UInt64.toNat) := by
  rw [toNat_countedBetween]
  cases range with
  | none =>
    dsimp only [Option.elim]
    split <;> omega
  | some top =>
    dsimp only [Option.elim]
    split <;> omega

/-- With a known range nothing is counted exactly if the counter has not moved. -/
theorem countedBetween_eq_zero_iff {last current top : UInt64} :
    countedBetween last current (some top) = 0 ↔ current = last := by
  rw [← UInt64.toNat_inj, ← UInt64.toNat_inj, toNat_countedBetween, UInt64.toNat_zero]
  dsimp only
  split <;> omega

/-- Without a known range nothing is also counted if the counter stands at zero. -/
theorem countedBetween_none_eq_zero_iff {last current : UInt64} :
    countedBetween last current none = 0 ↔ current = last ∨ current = 0 := by
  rw [← UInt64.toNat_inj, ← UInt64.toNat_inj, ← UInt64.toNat_inj, toNat_countedBetween,
    UInt64.toNat_zero]
  dsimp only
  split <;> omega

/-- Two readings of one energy modulo the range of its counter give the energy
in between modulo that range. -/
theorem countedBetween_modulo {last current top : UInt64} {before after : Nat}
    (hlast : last.toNat = before % (top.toNat + 1))
    (hcurrent : current.toNat = after % (top.toNat + 1)) (h : before ≤ after) :
    (countedBetween last current (some top)).toNat = (after - before) % (top.toNat + 1) := by
  have hlow : last.toNat < top.toNat + 1 := hlast ▸ Nat.mod_lt before (Nat.succ_pos _)
  have hhigh : current.toNat < top.toNat + 1 := hcurrent ▸ Nat.mod_lt after (Nat.succ_pos _)
  -- The step is below the range, and together with the old energy it gives the new one.
  suffices hs : (countedBetween last current (some top)).toNat < top.toNat + 1 ∧
      ((countedBetween last current (some top)).toNat + before) ≡ after [MOD top.toNat + 1] by
    have hc : (countedBetween last current (some top)).toNat ≡ after - before
        [MOD top.toNat + 1] := by
      refine Nat.ModEq.add_right_cancel' before ?_
      rw [Nat.sub_add_cancel h]
      exact hs.2
    rw [← hc, Nat.mod_eq_of_lt hs.1]
  have hmod : before ≡ last.toNat [MOD top.toNat + 1] := by
    rw [Nat.ModEq, hlast, Nat.mod_mod]
  have hmod' : current.toNat ≡ after [MOD top.toNat + 1] := by
    rw [Nat.ModEq, hcurrent, Nat.mod_mod]
  by_cases hle : last ≤ current
  · have hnat := UInt64.le_iff_toNat_le.1 hle
    rw [countedBetween_of_le hle]
    refine ⟨by omega, (hmod.add_left _).trans ?_⟩
    rw [Nat.sub_add_cancel hnat]
    exact hmod'
  · have hlt := UInt64.not_le.1 hle
    have hnat := UInt64.lt_iff_toNat_lt.1 hlt
    rw [countedBetween_of_lt hlt]
    refine ⟨by omega, (hmod.add_left _).trans ?_⟩
    have hsum : top.toNat - last.toNat + 1 + current.toNat + last.toNat =
        current.toNat + (top.toNat + 1) := by omega
    rw [hsum]
    exact (Nat.add_modEq_right).trans hmod'

/-- A file system in which every path leads to one file. -/
def Files.View.holding (content : String) : View :=
  ⟨fun _ => .ok content.toUTF8, fun _ => .error .notDirectory, fun _ => true⟩

/-- A file system without a file. -/
def Files.View.nothing : View :=
  ⟨fun _ => .error .notFound, fun _ => .error .notFound, fun _ => false⟩

/-- A file system with one directory that is listed, and some files by path. -/
def Files.View.listing (root : Path) (names : List String) (files : List (String × String)) :
    View where
  read p :=
    match files.lookup p.text with
    | some content => .ok content.toUTF8
    | none => .error .notFound
  list p := if p = root then .ok names else .error .notDirectory
  leadsTo _ := true

namespace Gauge

variable {v : View} {g g' : Gauge} {e : Error}

/-- What a read makes of a gauge whose file holds a count: the count is the value seen last,
and the microjoules that the counter went on by, as joules, are added to the total. -/
structure Advances (g : Gauge) (v : View) (g' : Gauge) : Prop where
  /-- The file holds the value that is now seen last. -/
  last : Sensor.count v g.file = .ok g'.last
  /-- What was counted since the value seen before is added. -/
  total : g'.total = g.total + (countedBetween g.last g'.last g.range).toFloat / 1000000
  /-- The gauge follows the same file. -/
  file : g'.file = g.file
  /-- It knows the same range. -/
  range : g'.range = g.range

/-- A read that succeeds books the value of the file. -/
theorem read_eq_ok : g.read v = .ok g' ↔ ∃ n, Sensor.count v g.file = .ok n ∧ g' = g.book n := by
  unfold read
  cases Sensor.count v g.file <;> simp [eq_comm]

/-- A read that succeeds advances the gauge. -/
theorem advances_of_read (h : g.read v = .ok g') : g.Advances v g' := by
  obtain ⟨n, hn, rfl⟩ := read_eq_ok.1 h
  exact ⟨hn, rfl, rfl, rfl⟩

/-- A read fails with the error of the file. -/
theorem read_eq_error : g.read v = .error e ↔ Sensor.count v g.file = .error e := by
  unfold read
  cases Sensor.count v g.file <;> simp

/-- A reset that succeeds starts again at the value of the file. -/
theorem reset_eq_ok :
    g.reset v = .ok g' ↔ ∃ n, Sensor.count v g.file = .ok n ∧ g' = g.restart n := by
  unfold reset
  cases Sensor.count v g.file <;> simp [eq_comm]

/-- A reset fails with the error of the file. -/
theorem reset_eq_error : g.reset v = .error e ↔ Sensor.count v g.file = .error e := by
  unfold reset
  cases Sensor.count v g.file <;> simp

/-- A gauge starts with nothing counted at the value of its file. -/
theorem start_eq_ok {file : Path} {range : Option UInt64} :
    start v file range = .ok g ↔
      ∃ n, Sensor.count v file = .ok n ∧ g = ⟨file, range, n, 0, signBit_zero⟩ := by
  unfold start
  cases Sensor.count v file <;> simp [eq_comm]

/-- Starting again is starting anew over the same file with the same range. -/
theorem reset_eq_start : g.reset v = start v g.file g.range := by
  unfold reset start
  cases Sensor.count v g.file <;> rfl

end Gauge

end EnergyMeter
