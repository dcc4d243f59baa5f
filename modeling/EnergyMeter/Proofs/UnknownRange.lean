import EnergyMeter.Proofs.GaugeAccounting

/-!
# Counters of unknown range

A gauge that does not know the range of its counter cannot tell how far the counter had got
when it started again, so of such a step it books only what was counted since the start.
Whatever the range really is, and however often the counter started again in between, this is
never more than the energy that was spent: nothing is lost while the counter does not start
again, and if it did so once, what is lost is what was missing to the start.
-/

namespace EnergyMeter

open Files

/-- How what is booked between two values of a counter, which starts again at a modulus, stands
to the energy before and after. -/
structure CountsWithin (modulus before after : Nat) (last current booked : UInt64) : Prop where
  /-- It is at most the energy in between. -/
  atMost : booked.toNat ≤ after - before
  /-- If the counter has not started again, it is all of it. -/
  exact : after / modulus = before / modulus → booked.toNat = after - before
  /-- If it has started again once and stands lower than before, what was missing to the start is
  lost. -/
  short : after / modulus = before / modulus + 1 → current < last →
    booked.toNat + (modulus - last.toNat) = after - before

section

variable {top last current : UInt64} {before after : Nat}

/-- Without a known range no more is counted than was spent, whatever the range is. -/
theorem countsWithin_none (hlast : last.toNat = before % (top.toNat + 1))
    (hcurrent : current.toNat = after % (top.toNat + 1)) (h : before ≤ after) :
    CountsWithin (top.toNat + 1) before after last current (countedBetween last current none) := by
  have hbefore := Nat.div_add_mod before (top.toNat + 1)
  have hafter := Nat.div_add_mod after (top.toNat + 1)
  have hlow : before % (top.toNat + 1) < top.toNat + 1 := Nat.mod_lt _ (Nat.succ_pos _)
  have hrounds : before / (top.toNat + 1) ≤ after / (top.toNat + 1) := Nat.div_le_div_right h
  by_cases hle : last ≤ current
  · have hnat := UInt64.le_iff_toNat_le.1 hle
    have hstep : (countedBetween last current none).toNat = current.toNat - last.toNat :=
      countedBetween_of_le hle
    -- In whole rounds of the counter the energy has not become less.
    have hwhole := Nat.mul_le_mul_left (top.toNat + 1) hrounds
    constructor
    · omega
    · intro hsame
      rw [hsame] at hafter
      omega
    · intro _ hlt
      exact absurd hle (UInt64.not_le.2 hlt)
  · have hlt := UInt64.not_le.1 hle
    have hnat := UInt64.lt_iff_toNat_lt.1 hlt
    have hstep : countedBetween last current none = current := countedBetween_of_lt_none hlt
    have hagain : before / (top.toNat + 1) < after / (top.toNat + 1) := by
      refine Nat.lt_of_le_of_ne hrounds fun hsame => ?_
      rw [hsame] at hbefore
      omega
    -- The counter has started again at least once.
    have hwhole := Nat.mul_le_mul_left (top.toNat + 1) (Nat.succ_le_of_lt hagain)
    rw [Nat.mul_succ] at hwhole
    rw [hstep]
    constructor
    · omega
    · intro hsame
      exact absurd hsame (Nat.ne_of_gt hagain)
    · intro honce _
      rw [honce, Nat.mul_succ] at hafter
      omega

/-- Steps over a counter of unknown range are at most the energy of their gaps. -/
theorem countsAs_none : CountsAs top none fun booked gap => booked.toNat ≤ gap :=
  fun _ _ _ _ hlast hcurrent h => (countsWithin_none hlast hcurrent h).atMost

end

/-- A gauge over a counter whose range it does not know, from its creation through any run of
spending, reads and resets, failing or not. Each step that it has booked is at most the energy
spent since the successful call before it, so what it has booked since the baseline is at most
the energy since then; and for the step that the next read books it is told what is lost, if
anything. -/
theorem unknown_range_counts_within {view : View} {file : Path} {top : UInt64} {g : Gauge}
    {spent : Nat} {moves : List Move} (hstart : Gauge.start view file none = .ok g)
    (hspent : g.last.toNat = spent % (top.toNat + 1)) (hf : Faithful file top spent moves) :
    let a := (Account.opened g).run moves
    let s := (Spending.opened spent).run file moves
    a.gauge.total = a.booked.foldl (fun sum n => sum + joulesOf n) 0 ∧
      List.Forall₂ (fun booked gap => booked.toNat ≤ gap) a.booked s.gaps ∧
      a.total ≤ s.seen - s.baseline ∧ s.seen ≤ s.spent ∧
      ∀ v n, Sensor.count v file = .ok n → n.toNat = s.spent % (top.toNat + 1) →
        ∃ booked, (a.move (.read v)).booked = a.booked ++ [booked] ∧
          CountsWithin (top.toNat + 1) s.seen s.spent a.gauge.last n booked := by
  obtain ⟨n, -, rfl⟩ := Gauge.start_eq_ok.1 hstart
  have hopened : Tracks file top none (fun booked gap => booked.toNat ≤ gap)
      (.opened ⟨file, none, n, 0, signBit_zero⟩) (.opened spent) :=
    ⟨rfl, rfl, hspent, rfl, .nil, Nat.add_zero _, Nat.le_refl _⟩
  have hrun := tracks_run countsAs_none hopened hf
  have hsum := hrun.gaps
  have htotal := List.Forall₂.sum_le_sum (List.forall₂_map_left_iff.2 hrun.booked)
  refine ⟨hrun.joules, hrun.booked, ?_, hrun.seen, ?_⟩
  · unfold Account.total
    omega
  · intro v n hn hvalue
    exact ⟨_, hrun.booked_read hn, countsWithin_none hrun.last hvalue hrun.seen⟩

/-- A counter whose range of 1000 is not known goes from 950 past its start to 49, after a call
that fails. Of the 100 microjoules the 51 up to the start are lost. -/
theorem unknown_range_counts_within_of_start :
    let g : Gauge := ⟨⟨"energy_uj"⟩, none, 900, 0, signBit_zero⟩
    let moves : List Move := [.spend 50, .read (.holding "950\n"), .spend 100, .reset .nothing]
    let a := (Account.opened g).run moves
    Gauge.start (.holding "900\n") ⟨"energy_uj"⟩ none = .ok g ∧
      g.last.toNat = 900 % (1000 + 1) ∧ Faithful ⟨"energy_uj"⟩ 1000 900 moves ∧
      ∃ booked : UInt64, (a.move (.read (.holding "49\n"))).booked = a.booked ++ [booked] ∧
        booked.toNat + (1000 + 1 - 950) = 100 := by
  intro g moves a
  have hstart : Gauge.start (.holding "900\n") ⟨"energy_uj"⟩ none = .ok g := by rfl
  have hspent : g.last.toNat = 900 % ((1000 : UInt64).toNat + 1) := by rfl
  have h950 : Sensor.count (.holding "950\n") ⟨"energy_uj"⟩ = .ok 950 := by rfl
  have h49 : Sensor.count (.holding "49\n") ⟨"energy_uj"⟩ = .ok 49 := by rfl
  have hlost : Sensor.count .nothing ⟨"energy_uj"⟩ = .error (.io .notFound) := by rfl
  have hf : Faithful ⟨"energy_uj"⟩ 1000 900 moves := by
    simp [moves, Faithful, Move.value?, Move.spends, h950, hlost, Except.toOption]
  have hs : (Spending.opened 900).run ⟨"energy_uj"⟩ moves = ⟨1050, 900, 950, [50]⟩ := by
    simp [moves, Spending.run, Spending.move, Spending.opened, h950, hlost]
  have hlast : a.gauge.last = 950 := by rfl
  obtain ⟨-, -, -, -, hnext⟩ := unknown_range_counts_within hstart hspent hf
  rw [hs] at hnext
  obtain ⟨booked, hbooked, hwithin⟩ := hnext (.holding "49\n") 49 h49 (by rfl)
  refine ⟨hstart, hspent, hf, booked, hbooked, ?_⟩
  have hshort := hwithin.short (by decide) (by rw [hlast]; decide)
  rw [hlast] at hshort
  exact hshort

end EnergyMeter
