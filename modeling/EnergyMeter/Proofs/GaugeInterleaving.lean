import EnergyMeter.Proofs.GaugeCalls
import Mathlib.Algebra.BigOperators.Group.List.Basic
import Mathlib.Data.List.Chain

/-!
# Callers that read one gauge at the same time

A read first takes the value from the file and later, alone, books it. Between
the two other callers may book values of their own, so that values are booked
in another order than they were taken. While the file only grows, what was
booked stays within what the file shows as long as the values are booked in
ascending order. A value booked after a larger one looks like a counter that
started again and invents energy.
-/

namespace EnergyMeter

open Files

/-- One step of one of the callers. -/
inductive CallerStep where
  /-- A caller takes the value from the file as it is now. -/
  | fetch (caller : Nat) (v : View)
  /-- A caller books the value that it took. -/
  | book (caller : Nat)

/-- A gauge, the values that callers have taken and not yet booked, and what was
booked so far. -/
structure SharedGauge where
  /-- The gauge. -/
  gauge : Gauge
  /-- The value that a caller has taken and not yet booked. -/
  inFlight : Nat → Option UInt64
  /-- The values booked so far, in the order of booking. -/
  values : List UInt64
  /-- The microjoules booked with each of them. -/
  booked : List UInt64

namespace SharedGauge

/-- A gauge that no caller has touched. -/
def opened (g : Gauge) : SharedGauge := ⟨g, fun _ => none, [], []⟩

/-- One step. A caller takes no second value before it has booked the first, and
one whose file cannot be read ends its call. -/
def step (s : SharedGauge) : CallerStep → SharedGauge
  | .fetch caller v =>
    match s.inFlight caller, Sensor.count v s.gauge.file with
    | none, .ok n => { s with inFlight := fun c => if c = caller then some n else s.inFlight c }
    | _, _ => s
  | .book caller =>
    match s.inFlight caller with
    | none => s
    | some n =>
      { gauge := s.gauge.book n
        inFlight := fun c => if c = caller then none else s.inFlight c
        values := s.values ++ [n]
        booked := s.booked ++ [s.gauge.step n] }

/-- The steps of all callers, interleaved in any way. -/
def run (s : SharedGauge) (steps : List CallerStep) : SharedGauge :=
  steps.foldl step s

/-- All that was booked, in microjoules. -/
def total (s : SharedGauge) : Nat :=
  (s.booked.map UInt64.toNat).sum

/-- The largest value booked so far, counting the one that the gauge was created at. -/
def largest (first : UInt64) (s : SharedGauge) : Nat :=
  (s.values.map UInt64.toNat).foldl max first.toNat

/-- No more is booked than the file has shown since the gauge was created at `first`. -/
def WithinShown (first : UInt64) (s : SharedGauge) : Prop :=
  s.total ≤ s.largest first - first.toNat

end SharedGauge

/-- The file only grows: every value taken from it is at least the one before. -/
def Growing (file : Path) : UInt64 → List CallerStep → Prop
  | _, [] => True
  | low, .book _ :: rest => Growing file low rest
  | low, .fetch _ v :: rest =>
    match Sensor.count v file with
    | .ok n => low ≤ n ∧ Growing file n rest
    | .error _ => Growing file low rest

/-- The microjoules that values booked one after the other add. -/
def stepsOver (range : Option UInt64) : UInt64 → List UInt64 → List UInt64
  | _, [] => []
  | last, n :: rest => countedBetween last n range :: stepsOver range n rest

/-- The microjoules of values booked one after the other, added up. -/
def sumOver (range : Option UInt64) (first : UInt64) (values : List UInt64) : Nat :=
  ((stepsOver range first values).map UInt64.toNat).sum

section Values

variable {range : Option UInt64} {first last n : UInt64} {values : List UInt64}

theorem sumOver_cons : sumOver range last (n :: values) =
    (countedBetween last n range).toNat + sumOver range n values := by
  simp only [sumOver, stepsOver, List.map_cons, List.sum_cons]

/-- A single value adds its step. -/
theorem sumOver_singleton : sumOver range last [n] = (countedBetween last n range).toNat := by
  rw [sumOver_cons]
  rfl

/-- Booking one more value adds its step behind the others. -/
theorem stepsOver_append : stepsOver range first (values ++ [n]) =
    stepsOver range first values ++ [countedBetween (values.getLastD first) n range] := by
  induction values generalizing first with
  | nil => rfl
  | cons m rest ih =>
    rw [List.getLastD_cons, List.cons_append, stepsOver, ih]
    rfl

/-- The largest of some values, and of the one before them, is at least that one. -/
theorem le_highest (high : Nat) (values : List UInt64) :
    high ≤ (values.map UInt64.toNat).foldl max high := by
  induction values generalizing high with
  | nil => exact Nat.le_refl _
  | cons n rest ih => exact (Nat.le_max_left _ _).trans (ih _)

/-- Booked in ascending order, values add what lies between the first and the
largest of them, which is the last. -/
theorem sumOver_ascending (h : (first :: values).IsChain (· ≤ ·)) :
    first.toNat + sumOver range first values = (values.getLastD first).toNat ∧
      (values.map UInt64.toNat).foldl max first.toNat = (values.getLastD first).toNat := by
  induction values generalizing first with
  | nil => exact ⟨rfl, rfl⟩
  | cons n rest ih =>
    obtain ⟨hn, hrest⟩ := List.isChain_cons_cons.1 h
    obtain ⟨hsum, hhigh⟩ := ih hrest
    have hnat := UInt64.le_iff_toNat_le.1 hn
    rw [sumOver_cons, countedBetween_of_le hn, List.getLastD_cons]
    refine ⟨by omega, ?_⟩
    rw [List.map_cons, List.foldl_cons, Nat.max_eq_right hnat]
    exact hhigh

/-- A row of values is booked after the row before it. -/
theorem sumOver_append {later : List UInt64} : sumOver range first (values ++ later) =
    sumOver range first values + sumOver range (values.getLastD first) later := by
  induction values generalizing first with
  | nil => exact (Nat.zero_add _).symm
  | cons n rest ih =>
    rw [List.cons_append, sumOver_cons, sumOver_cons, List.getLastD_cons, ih, Nat.add_assoc]

/-- Without a known range a zero adds nothing, whatever was seen before it. -/
theorem countedBetween_zero : countedBetween last 0 none = 0 :=
  countedBetween_none_eq_zero_iff.2 (Or.inr rfl)

/-- Without a known range zeros add nothing. -/
theorem sumOver_zeros (h : ∀ n ∈ values, n = 0) : sumOver none last values = 0 := by
  induction values generalizing last with
  | nil => rfl
  | cons n rest ih =>
    obtain ⟨rfl, hrest⟩ := List.forall_mem_cons.1 h
    rw [sumOver_cons, countedBetween_zero, ih hrest]
    rfl

/-- However far the booking has got, no more is booked than the values have shown. -/
def AlwaysWithin (range : Option UInt64) (first : UInt64) (values : List UInt64) : Prop :=
  ∀ booked, booked <+: values → sumOver range first booked ≤
    (booked.map UInt64.toNat).foldl max first.toNat - first.toNat

/-- The values are booked in ascending order; where no range is known, zeros may
follow. -/
def InOrder (range : Option UInt64) (first : UInt64) (values : List UInt64) : Prop :=
  (first :: values).IsChain (· ≤ ·) ∨
    range = none ∧ ∃ up zeros, values = up ++ zeros ∧ (first :: up).IsChain (· ≤ ·) ∧
      ∀ n ∈ zeros, n = 0

/-- Ascending values stay within what they show. -/
theorem alwaysWithin_of_ascending (h : (first :: values).IsChain (· ≤ ·)) :
    AlwaysWithin range first values := by
  intro booked hp
  have hchain : (first :: booked).IsChain (· ≤ ·) :=
    h.prefix (List.cons_prefix_cons.2 ⟨rfl, hp⟩)
  obtain ⟨hsum, hhigh⟩ := @sumOver_ascending range _ _ hchain
  omega

/-- Values in order stay within what they show. -/
theorem alwaysWithin_of_inOrder (h : InOrder range first values) :
    AlwaysWithin range first values := by
  obtain h | ⟨rfl, up, zeros, rfl, hup, hzeros⟩ := h
  · exact alwaysWithin_of_ascending h
  · intro booked hp
    obtain hp' | ⟨rest, rfl⟩ := List.prefix_or_prefix_of_prefix hp (List.prefix_append up zeros)
    · exact alwaysWithin_of_ascending hup booked hp'
    · have hrest : ∀ n ∈ rest, n = 0 := fun n hn =>
        hzeros n (((List.prefix_append_right_inj up).1 hp).subset hn)
      obtain ⟨hsum, hhigh⟩ := @sumOver_ascending none _ _ hup
      have hle := le_highest ((up.map UInt64.toNat).foldl max first.toNat) rest
      rw [sumOver_append, sumOver_zeros hrest, List.map_append, List.foldl_append]
      omega

/-- A zero adds nothing and shows nothing new, so what holds for the values from
the zero on holds for those behind it. -/
theorem within_behind_zero {high : Nat}
    (h : ∀ booked, booked <+: 0 :: values → sumOver none last booked ≤
      (booked.map UInt64.toNat).foldl max high - high) :
    ∀ booked, booked <+: values → sumOver none 0 booked ≤
      (booked.map UInt64.toNat).foldl max high - high := by
  intro booked hp
  have hmore := h (0 :: booked) (List.cons_prefix_cons.2 ⟨rfl, hp⟩)
  rw [sumOver_cons, countedBetween_zero, List.map_cons, List.foldl_cons, UInt64.toNat_zero,
    Nat.max_zero, Nat.zero_add] at hmore
  exact hmore

/-- After a zero that was booked below a larger value only zeros add nothing. -/
theorem zeros_of_within {high : Nat} (hhigh : 0 < high)
    (h : ∀ booked, booked <+: values → sumOver none 0 booked ≤
      (booked.map UInt64.toNat).foldl max high - high) : ∀ n ∈ values, n = 0 := by
  induction values with
  | nil => simp
  | cons n rest ih =>
    have hn : n = 0 := by
      have hone := h [n] (List.cons_prefix_cons.2 ⟨rfl, List.nil_prefix⟩)
      rw [sumOver_singleton, countedBetween_of_le UInt64.zero_le] at hone
      simp only [List.map_cons, List.map_nil, List.foldl_cons, List.foldl_nil,
        UInt64.toNat_zero] at hone
      refine UInt64.toNat_inj.1 ?_
      rw [UInt64.toNat_zero]
      omega
    subst hn
    exact List.forall_mem_cons.2 ⟨rfl, ih (within_behind_zero h)⟩

/-- Values that stay within what they show are booked in order: the first one
below its predecessor adds energy that the file never showed, unless it is zero
and no range is known. -/
theorem inOrder_of_alwaysWithin (h : AlwaysWithin range first values) :
    InOrder range first values := by
  induction values generalizing first with
  | nil => exact Or.inl (.singleton _)
  | cons n rest ih =>
    have hone := h [n] (List.cons_prefix_cons.2 ⟨rfl, List.nil_prefix⟩)
    rw [sumOver_singleton] at hone
    simp only [List.map_cons, List.map_nil, List.foldl_cons, List.foldl_nil] at hone
    by_cases hn : first ≤ n
    · have hnat := UInt64.le_iff_toNat_le.1 hn
      have hrest : AlwaysWithin range n rest := by
        intro booked hp
        have hmore := h (n :: booked) (List.cons_prefix_cons.2 ⟨rfl, hp⟩)
        rw [sumOver_cons, countedBetween_of_le hn, List.map_cons, List.foldl_cons,
          Nat.max_eq_right hnat] at hmore
        omega
      obtain hchain | ⟨hrange, up, zeros, rfl, hup, hzeros⟩ := ih hrest
      · exact Or.inl (List.isChain_cons_cons.2 ⟨hn, hchain⟩)
      · exact Or.inr ⟨hrange, n :: up, zeros, rfl, List.isChain_cons_cons.2 ⟨hn, hup⟩, hzeros⟩
    · have hlt := UInt64.not_le.1 hn
      have hnat := UInt64.lt_iff_toNat_lt.1 hlt
      cases range with
      | some top =>
        rw [countedBetween_of_lt hlt] at hone
        omega
      | none =>
        rw [countedBetween_of_lt_none hlt] at hone
        have hz : n = 0 := by
          refine UInt64.toNat_inj.1 ?_
          rw [UInt64.toNat_zero]
          omega
        subst hz
        have hpos : 0 < first.toNat := hnat
        refine Or.inr ⟨rfl, [], 0 :: rest, rfl, .singleton _, ?_⟩
        exact List.forall_mem_cons.2 ⟨rfl, zeros_of_within hpos (within_behind_zero h)⟩

end Values

section Runs

variable {g : Gauge} {s : SharedGauge}

/-- Further steps are taken from where the first ones lead. -/
theorem run_append (steps later : List CallerStep) :
    s.run (steps ++ later) = (s.run steps).run later :=
  List.foldl_append

/-- The two steps of a caller that nobody comes between are one read. -/
theorem run_fetch_book {caller : Nat} (h : s.inFlight caller = none) (v : View) :
    (s.run [.fetch caller v, .book caller]).gauge = (s.gauge.read v).toOption.getD s.gauge := by
  cases hv : Sensor.count v s.gauge.file with
  | error e =>
    have hread := Gauge.read_eq_error.2 hv
    simp [SharedGauge.run, SharedGauge.step, h, hv, hread, Except.toOption]
  | ok n =>
    have hread := Gauge.read_eq_ok.2 ⟨n, hv, rfl⟩
    simp [SharedGauge.run, SharedGauge.step, h, hv, hread, Except.toOption]

/-- What is shared among the callers agrees with booking the values one after
the other. -/
structure Booked (g : Gauge) (s : SharedGauge) : Prop where
  /-- The range stays as it was. -/
  range : s.gauge.range = g.range
  /-- The value seen last is the one booked last. -/
  last : s.gauge.last = s.values.getLastD g.last
  /-- The steps are those over the values. -/
  booked : s.booked = stepsOver g.range g.last s.values

/-- One step of any caller books at most one value, behind the others. -/
theorem values_step (m : CallerStep) :
    ∃ more, more.length ≤ 1 ∧ (s.step m).values = s.values ++ more := by
  cases m with
  | fetch caller v =>
    simp only [SharedGauge.step]
    split <;> exact ⟨[], Nat.zero_le _, (List.append_nil _).symm⟩
  | book caller =>
    simp only [SharedGauge.step]
    split
    · exact ⟨[], Nat.zero_le _, (List.append_nil _).symm⟩
    · exact ⟨[_], Nat.le_refl _, rfl⟩

/-- One step keeps the agreement with booking one after the other. -/
theorem booked_step (h : Booked g s) (m : CallerStep) : Booked g (s.step m) := by
  cases m with
  | fetch caller v =>
    simp only [SharedGauge.step]
    split <;> exact ⟨h.range, h.last, h.booked⟩
  | book caller =>
    simp only [SharedGauge.step]
    split
    · exact h
    · refine ⟨h.range, ?_, ?_⟩
      · rw [List.getLastD_concat]
        rfl
      · rw [stepsOver_append, ← h.booked, ← h.last, ← h.range]
        rfl

/-- The steps of all callers, in any interleaving, book the values in one row. -/
theorem booked_run (h : Booked g s) (steps : List CallerStep) : Booked g (s.run steps) := by
  induction steps generalizing s with
  | nil => exact h
  | cons m rest ih => exact ih (booked_step h m)

/-- Values once booked stay booked. -/
theorem values_run (steps : List CallerStep) : s.values <+: (s.run steps).values := by
  induction steps generalizing s with
  | nil => exact List.prefix_rfl
  | cons m rest ih =>
    obtain ⟨more, -, hmore⟩ := values_step (s := s) m
    exact (hmore ▸ List.prefix_append _ _ : s.values <+: (s.step m).values).trans ih

/-- A run passes through every number of values booked. -/
theorem run_reaches {steps : List CallerStep} {booked : List UInt64}
    (hs : s.values <+: booked) (hb : booked <+: (s.run steps).values) :
    ∃ k, (s.run (steps.take k)).values = booked := by
  induction steps generalizing s with
  | nil => exact ⟨0, hs.eq_of_length (Nat.le_antisymm hs.length_le hb.length_le)⟩
  | cons m rest ih =>
    by_cases he : s.values = booked
    · exact ⟨0, he⟩
    · obtain ⟨more, hone, hmore⟩ := values_step (s := s) m
      have hlonger : s.values.length < booked.length :=
        Nat.lt_of_le_of_ne hs.length_le fun hl => he (hs.eq_of_length hl)
      have hnext : (s.step m).values <+: booked := by
        refine List.prefix_of_prefix_length_le (values_run (s := s.step m) rest) hb ?_
        rw [hmore, List.length_append]
        omega
      obtain ⟨k, hk⟩ := ih hnext hb
      exact ⟨k + 1, hk⟩

/-- A gauge that no caller has touched agrees with having booked nothing. -/
theorem booked_opened : Booked g (.opened g) := ⟨rfl, rfl, rfl⟩

/-- At every point of a run no more is booked than the file has shown if and
only if no value is booked after a larger one. Where no range is known there is
one exception: zeros may be booked, as long as nothing else follows. After any
run a call whose two steps nobody comes between is a read of the gauge. -/
theorem withinShown_iff_inOrder (g : Gauge) (steps : List CallerStep) :
    ((∀ k, ((SharedGauge.opened g).run (steps.take k)).WithinShown g.last) ↔
      InOrder g.range g.last ((SharedGauge.opened g).run steps).values) ∧
    ∀ caller v, ((SharedGauge.opened g).run steps).inFlight caller = none →
      ((SharedGauge.opened g).run (steps ++ [.fetch caller v, .book caller])).gauge =
        (((SharedGauge.opened g).run steps).gauge.read v).toOption.getD
          ((SharedGauge.opened g).run steps).gauge := by
  have hsum : ∀ k, ((SharedGauge.opened g).run (steps.take k)).total =
      sumOver g.range g.last ((SharedGauge.opened g).run (steps.take k)).values := by
    intro k
    rw [SharedGauge.total, (booked_run booked_opened _).booked]
    rfl
  refine ⟨⟨fun h => ?_, fun h k => ?_⟩, fun caller v hfree => ?_⟩
  · refine inOrder_of_alwaysWithin fun booked hp => ?_
    obtain ⟨k, rfl⟩ := run_reaches (s := .opened g) List.nil_prefix hp
    rw [← hsum]
    exact h k
  · have hp : ((SharedGauge.opened g).run (steps.take k)).values <+:
        ((SharedGauge.opened g).run steps).values := by
      conv_rhs => rw [← List.take_append_drop k steps, run_append]
      exact values_run _
    rw [SharedGauge.WithinShown, hsum]
    exact alwaysWithin_of_inOrder h _ hp
  · rw [run_append]
    exact run_fetch_book hfree v

/-- The calls of two callers overlap, and they book in the order in which they took their
values, 105 and 110: never more than the file has shown. A third call that nobody comes between
reads the gauge. -/
theorem withinShown_iff_inOrder_of_overlap :
    let g : Gauge := ⟨⟨"energy_uj"⟩, some 1000, 100, 0, signBit_zero⟩
    let steps : List CallerStep :=
      [.fetch 0 (.holding "105\n"), .fetch 1 (.holding "110\n"), .book 0, .book 1]
    let after := (SharedGauge.opened g).run steps
    (∀ k, ((SharedGauge.opened g).run (steps.take k)).WithinShown 100) ∧
      after.booked = [5, 5] ∧ after.inFlight 0 = none ∧
      ((SharedGauge.opened g).run
        (steps ++ [.fetch 0 (.holding "120\n"), .book 0])).gauge.last = 120 := by
  intro g steps after
  have h105 : Sensor.count (.holding "105\n") ⟨"energy_uj"⟩ = .ok 105 := by rfl
  have h110 : Sensor.count (.holding "110\n") ⟨"energy_uj"⟩ = .ok 110 := by rfl
  have h120 : Sensor.count (.holding "120\n") ⟨"energy_uj"⟩ = .ok 120 := by rfl
  have hafter : after.values = [105, 110] ∧
      after.booked = [countedBetween 100 105 (some 1000), countedBetween 105 110 (some 1000)] ∧
        after.inFlight 0 = none ∧ after.gauge.file = ⟨"energy_uj"⟩ := by
    simp [after, steps, g, SharedGauge.run, SharedGauge.step, SharedGauge.opened, h105, h110,
      Gauge.step, Gauge.book]
  obtain ⟨hvalues, hbooked, hfree, hfile⟩ := hafter
  obtain ⟨hwithin, hread⟩ := withinShown_iff_inOrder g steps
  refine ⟨hwithin.2 ?_, hbooked.trans (by decide), hfree, ?_⟩
  · rw [show ((SharedGauge.opened g).run steps).values = _ from hvalues]
    exact Or.inl (by decide)
  · have hlast : after.gauge.read (.holding "120\n") = .ok (after.gauge.book 120) :=
      Gauge.read_eq_ok.2 ⟨120, hfile ▸ h120, rfl⟩
    rw [hread 0 _ hfree, show ((SharedGauge.opened g).run steps).gauge.read _ = _ from hlast]
    rfl

/-- Two callers read a file that only grows, from 100 over 105 to 110. The one
that took 105 books it last. This is booked as a counter that started again,
with a range of 1000 as 996 microjoules and without a known range as 105, though
the file has shown no more than 10. -/
theorem stale_value_invents_energy :
    let file : Path := ⟨"energy_uj"⟩
    let steps : List CallerStep :=
      [.fetch 0 (.holding "105\n"), .fetch 1 (.holding "110\n"), .book 1, .book 0]
    let after := fun range =>
      (SharedGauge.opened ⟨file, range, 100, 0, signBit_zero⟩).run steps
    Growing file 100 steps ∧
      (after (some 1000)).booked = [10, 996] ∧ ¬ (after (some 1000)).WithinShown 100 ∧
      (after none).booked = [10, 105] ∧ ¬ (after none).WithinShown 100 := by
  intro file steps after
  have h105 : Sensor.count (.holding "105\n") file = .ok 105 := by rfl
  have h110 : Sensor.count (.holding "110\n") file = .ok 110 := by rfl
  have hgrows : Growing file 100 steps := by
    simp only [steps, Growing, h105, h110]
    decide
  have hrun : ∀ range, (after range).values = [110, 105] ∧
      (after range).booked = [countedBetween 100 110 range, countedBetween 110 105 range] := by
    intro range
    simp [after, steps, SharedGauge.run, SharedGauge.step, SharedGauge.opened, h105, h110,
      Gauge.step, Gauge.book, file]
  refine ⟨hgrows, (hrun _).2.trans (by decide), ?_, (hrun _).2.trans (by decide), ?_⟩
  all_goals
    rw [SharedGauge.WithinShown, SharedGauge.total, SharedGauge.largest, (hrun _).1, (hrun _).2]
    decide

end Runs

end EnergyMeter
