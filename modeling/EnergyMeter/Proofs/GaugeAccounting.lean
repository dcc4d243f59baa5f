import EnergyMeter.Proofs.GaugeCalls
import Mathlib.Algebra.BigOperators.Group.List.Basic
import Mathlib.Algebra.Order.BigOperators.Group.List
import Mathlib.Algebra.Order.Ring.Nat
import Mathlib.Data.List.Forall2

/-!
# What a gauge counts over a whole run

Energy is spent without bound; the counter shows it modulo its range. A run
mixes spending with reads and resets, some of which fail, in any order. Beside
the gauge runs a record of the energy that was really spent between successive
successful calls. The gauge books that energy modulo the range, read by read,
and so all of it whenever no gap between two successful calls is longer than
the range.
-/

namespace EnergyMeter

open Files

/-- What can happen while a gauge is in use. A call sees the files as they are
at its moment. -/
inductive Move where
  /-- Energy is spent. -/
  | spend (microjoules : Nat)
  /-- The gauge is read. -/
  | read (v : View)
  /-- The gauge is started again. -/
  | reset (v : View)

namespace Move

/-- The value that a call finds in the gauge's file; none if it fails or if
there is no call. -/
def value? (file : Path) : Move → Option UInt64
  | .spend _ => none
  | .read v => (Sensor.count v file).toOption
  | .reset v => (Sensor.count v file).toOption

/-- The energy that a move spends. -/
def spends : Move → Nat
  | .spend n => n
  | .read _ => 0
  | .reset _ => 0

/-- Whether a move is a call that fails. -/
def fails (file : Path) : Move → Bool
  | .spend _ => false
  | .read v => (Sensor.count v file).toOption.isNone
  | .reset v => (Sensor.count v file).toOption.isNone

end Move

/-- A gauge and the microjoules that each successful read has booked since the
gauge was created or last started again. -/
structure Account where
  /-- The gauge. -/
  gauge : Gauge
  /-- What the reads have booked, in order. -/
  booked : List UInt64

namespace Account

/-- The account of a gauge that was just created. -/
def opened (g : Gauge) : Account := ⟨g, []⟩

/-- The account after one move. A call that fails leaves it as it was. -/
def move (a : Account) : Move → Account
  | .spend _ => a
  | .read v =>
    match a.gauge.read v with
    | .ok g => ⟨g, a.booked ++ [a.gauge.step g.last]⟩
    | .error _ => a
  | .reset v =>
    match a.gauge.reset v with
    | .ok g => ⟨g, []⟩
    | .error _ => a

/-- The account after moves. -/
def run (a : Account) (moves : List Move) : Account :=
  moves.foldl move a

/-- All that was booked, in microjoules. -/
def total (a : Account) : Nat :=
  (a.booked.map UInt64.toNat).sum

end Account

/-- The energy that was really spent, as a perfect observer sees it. -/
structure Spending where
  /-- All energy up to now. -/
  spent : Nat
  /-- The energy at creation or at the last successful reset. -/
  baseline : Nat
  /-- The energy at the last successful call. -/
  seen : Nat
  /-- The energy between each successful read since the baseline and the
  successful call before it. -/
  gaps : List Nat

namespace Spending

/-- The observer's record when a gauge is created. -/
def opened (spent : Nat) : Spending := ⟨spent, spent, spent, []⟩

/-- The record after one move; of a call only its success counts. -/
def move (file : Path) (s : Spending) : Move → Spending
  | .spend n => { s with spent := s.spent + n }
  | .read v =>
    match Sensor.count v file with
    | .ok _ => { s with seen := s.spent, gaps := s.gaps ++ [s.spent - s.seen] }
    | .error _ => s
  | .reset v =>
    match Sensor.count v file with
    | .ok _ => opened s.spent
    | .error _ => s

/-- The record after moves. -/
def run (file : Path) (s : Spending) (moves : List Move) : Spending :=
  moves.foldl (move file) s

end Spending

/-- Every successful call finds the energy spent so far modulo the range. -/
def Faithful (file : Path) (top : UInt64) : Nat → List Move → Prop
  | _, [] => True
  | spent, m :: rest =>
    (∀ n, m.value? file = some n → n.toNat = spent % (top.toNat + 1)) ∧
      Faithful file top (spent + m.spends) rest

/-- How an account over a file with a known range stands to the energy that was
really spent. -/
structure Agrees (file : Path) (top : UInt64) (a : Account) (s : Spending) : Prop where
  /-- The gauge still follows the file. -/
  file : a.gauge.file = file
  /-- The gauge still knows the range. -/
  range : a.gauge.range = some top
  /-- The value seen last is the energy at that moment modulo the range. -/
  last : a.gauge.last.toNat = s.seen % (top.toNat + 1)
  /-- The joules are the booked steps, added up in order. -/
  joules : a.gauge.total = a.booked.foldl (fun sum n => sum + joulesOf n) 0
  /-- Each step is the energy of its gap modulo the range. -/
  booked : a.booked.map UInt64.toNat = s.gaps.map (· % (top.toNat + 1))
  /-- The gaps make up the energy since the baseline. -/
  gaps : s.baseline + s.gaps.sum = s.seen
  /-- Nothing is seen before it is spent. -/
  seen : s.seen ≤ s.spent

/-- Whether what is counted between two values of a counter stands to the energy in between as
`Books` says. -/
def CountsAs (top : UInt64) (range : Option UInt64) (Books : UInt64 → Nat → Prop) : Prop :=
  ∀ last current before after, last.toNat = before % (top.toNat + 1) →
    current.toNat = after % (top.toNat + 1) → before ≤ after →
      Books (countedBetween last current range) (after - before)

/-- How an account stands to the energy that was really spent, whatever is known of the range
of its counter: each step stands to its gap as `Books` says. -/
structure Tracks (file : Path) (top : UInt64) (range : Option UInt64)
    (Books : UInt64 → Nat → Prop) (a : Account) (s : Spending) : Prop where
  /-- The gauge still follows the file. -/
  file : a.gauge.file = file
  /-- The gauge still knows as much of the range. -/
  range : a.gauge.range = range
  /-- The value seen last is the energy at that moment modulo the range. -/
  last : a.gauge.last.toNat = s.seen % (top.toNat + 1)
  /-- The joules are the booked steps, added up in order. -/
  joules : a.gauge.total = a.booked.foldl (fun sum n => sum + joulesOf n) 0
  /-- The steps stand to their gaps as they should. -/
  booked : List.Forall₂ Books a.booked s.gaps
  /-- The gaps make up the energy since the baseline. -/
  gaps : s.baseline + s.gaps.sum = s.seen
  /-- Nothing is seen before it is spent. -/
  seen : s.seen ≤ s.spent

section Runs

variable {file : Path} {top : UInt64} {range : Option UInt64} {Books : UInt64 → Nat → Prop}
  {a : Account} {s : Spending}

/-- All that a move can do to an account and to the record beside it. -/
theorem step_cases (h : a.gauge.file = file) (s : Spending) (m : Move) :
    (m.value? file = none ∧ a.move m = a ∧
      s.move file m = { s with spent := s.spent + m.spends }) ∨
    ∃ n, m.value? file = some n ∧
      ((a.move m = ⟨a.gauge.book n, a.booked ++ [a.gauge.step n]⟩ ∧
        s.move file m = { s with seen := s.spent, gaps := s.gaps ++ [s.spent - s.seen] }) ∨
      (a.move m = ⟨a.gauge.restart n, []⟩ ∧ s.move file m = .opened s.spent)) := by
  subst h
  cases m with
  | spend n => exact Or.inl ⟨rfl, rfl, rfl⟩
  | read v =>
    cases hv : Sensor.count v a.gauge.file with
    | error e =>
      have hread := Gauge.read_eq_error.2 hv
      simp [Move.value?, Move.spends, Account.move, Spending.move, hv, hread, Except.toOption]
    | ok n =>
      have hread := Gauge.read_eq_ok.2 ⟨n, hv, rfl⟩
      refine Or.inr ⟨n, by simp [Move.value?, hv, Except.toOption], Or.inl ⟨?_, ?_⟩⟩
      · simp only [Account.move, hread]
        rfl
      · simp only [Spending.move, hv]
  | reset v =>
    cases hv : Sensor.count v a.gauge.file with
    | error e =>
      have hreset := Gauge.reset_eq_error.2 hv
      simp [Move.value?, Move.spends, Account.move, Spending.move, hv, hreset, Except.toOption]
    | ok n =>
      have hreset := Gauge.reset_eq_ok.2 ⟨n, hv, rfl⟩
      refine Or.inr ⟨n, by simp [Move.value?, hv, Except.toOption], Or.inr ⟨?_, ?_⟩⟩
      · simp only [Account.move, hreset]
      · simp only [Spending.move, hv]

/-- One move keeps the account on the track of what was spent. -/
theorem tracks_move (hbooks : CountsAs top range Books)
    (h : Tracks file top range Books a s) {m : Move}
    (hm : ∀ n, m.value? file = some n → n.toNat = s.spent % (top.toNat + 1)) :
    Tracks file top range Books (a.move m) (s.move file m) := by
  obtain ⟨-, ha, hs⟩ | ⟨n, hn, ⟨ha, hs⟩ | ⟨ha, hs⟩⟩ := step_cases h.file s m
  · rw [ha, hs]
    exact { h with seen := h.seen.trans (Nat.le_add_right _ _) }
  · have hstep : Books (a.gauge.step n) (s.spent - s.seen) := by
      unfold Gauge.step
      rw [h.range]
      exact hbooks _ _ _ _ h.last (hm n hn) h.seen
    rw [ha, hs]
    refine ⟨h.file, h.range, hm n hn, ?_, ?_, ?_, Nat.le_refl _⟩
    · rw [List.foldl_append, ← h.joules]
      rfl
    · exact List.rel_append h.booked (.cons hstep .nil)
    · have hgaps := h.gaps
      have hseen := h.seen
      simp only [List.sum_append, List.sum_singleton]
      omega
  · rw [ha, hs]
    exact ⟨h.file, h.range, hm n hn, rfl, .nil, Nat.add_zero _, Nat.le_refl _⟩

/-- A move spends what it says. -/
theorem spent_move (m : Move) : (s.move file m).spent = s.spent + m.spends := by
  cases m with
  | spend n => rfl
  | read v =>
    simp only [Spending.move, Move.spends]
    split <;> rfl
  | reset v =>
    simp only [Spending.move, Move.spends]
    split <;> rfl

/-- A whole run over a faithful counter keeps the account on the track. -/
theorem tracks_run (hbooks : CountsAs top range Books) {moves : List Move}
    (h : Tracks file top range Books a s) (hf : Faithful file top s.spent moves) :
    Tracks file top range Books (a.run moves) (s.run file moves) := by
  induction moves generalizing a s with
  | nil => exact h
  | cons m rest ih =>
    obtain ⟨hm, hrest⟩ := hf
    refine ih (tracks_move hbooks h hm) ?_
    rw [spent_move]
    exact hrest

/-- The next read that gets through books the step from the value seen last. -/
theorem Tracks.booked_read (h : Tracks file top range Books a s) {v : View} {n : UInt64}
    (hn : Sensor.count v file = .ok n) :
    (a.move (.read v)).booked = a.booked ++ [countedBetween a.gauge.last n range] := by
  have hread := Gauge.read_eq_ok.2 ⟨n, h.file ▸ hn, rfl⟩
  rw [Account.move, hread, ← h.range]
  rfl

/-- With a known range, agreement is to be on the track with each step the energy of its gap
modulo the range. -/
theorem agrees_iff_tracks : Agrees file top a s ↔
    Tracks file top (some top) (fun n gap => n.toNat = gap % (top.toNat + 1)) a s := by
  have hbooked : a.booked.map UInt64.toNat = s.gaps.map (· % (top.toNat + 1)) ↔
      List.Forall₂ (fun n gap => n.toNat = gap % (top.toNat + 1)) a.booked s.gaps := by
    rw [← List.forall₂_eq_eq_eq, List.forall₂_map_left_iff, List.forall₂_map_right_iff]
  constructor
  · intro h
    exact ⟨h.file, h.range, h.last, h.joules, hbooked.1 h.booked, h.gaps, h.seen⟩
  · intro h
    exact ⟨h.file, h.range, h.last, h.joules, hbooked.2 h.booked, h.gaps, h.seen⟩

/-- A whole run over a faithful counter keeps the account in agreement. -/
theorem agrees_run {moves : List Move} (h : Agrees file top a s)
    (hf : Faithful file top s.spent moves) :
    Agrees file top (a.run moves) (s.run file moves) := by
  rw [agrees_iff_tracks] at h ⊢
  exact tracks_run (fun _ _ _ _ hlast hcurrent => countedBetween_modulo hlast hcurrent) h hf

/-- A move is a failed call, a call that finds a value, or no call. -/
theorem move_cases (h : a.gauge.file = file) (m : Move) :
    (m.value? file = none ∧ a.move m = a) ∨
      ∃ n, m.value? file = some n ∧ m.fails file = false ∧ (a.move m).gauge.last = n ∧
        (a.move m).gauge.file = file := by
  have hworks : ∀ n, m.value? file = some n → m.fails file = false := by
    intro n hn
    cases m with
    | spend n => rfl
    | read v => exact Option.isNone_eq_false_iff.2 (Option.isSome_of_eq_some hn)
    | reset v => exact Option.isNone_eq_false_iff.2 (Option.isSome_of_eq_some hn)
  obtain ⟨hnone, ha, -⟩ | ⟨n, hn, ⟨ha, -⟩ | ⟨ha, -⟩⟩ := step_cases h (.opened 0) m
  · exact Or.inl ⟨hnone, ha⟩
  · exact Or.inr ⟨n, hn, hworks n hn, by rw [ha]; rfl, by rw [ha]; exact h⟩
  · exact Or.inr ⟨n, hn, hworks n hn, by rw [ha]; rfl, by rw [ha]; exact h⟩

/-- The value seen last is the one that the last successful call found. -/
theorem last_run (h : a.gauge.file = file) (moves : List Move) :
    (a.run moves).gauge.last = (moves.filterMap (Move.value? file)).getLastD a.gauge.last := by
  induction moves generalizing a with
  | nil => rfl
  | cons m rest ih =>
    obtain ⟨hnone, hsame⟩ | ⟨n, hsome, -, hlast, hfile⟩ := move_cases h m
    · rw [List.filterMap_cons_none hnone, ← ih h]
      exact congrArg (fun b : Account => (b.run rest).gauge.last) hsame
    · rw [List.filterMap_cons_some hsome, List.getLastD_cons, ← hlast]
      exact ih hfile

/-- Calls that fail might as well not have been made. -/
theorem run_without_failures (h : a.gauge.file = file) (moves : List Move) :
    a.run (moves.filter fun m => !m.fails file) = a.run moves := by
  induction moves generalizing a with
  | nil => rfl
  | cons m rest ih =>
    obtain ⟨-, hsame⟩ | ⟨n, -, hworks, -, hfile⟩ := move_cases h m
    · cases hm : m.fails file with
      | false =>
        rw [List.filter_cons_of_pos (by simp [hm])]
        exact ih (by rw [hsame]; exact h)
      | true =>
        rw [List.filter_cons_of_neg (by simp [hm]), ih h]
        exact congrArg (fun b : Account => b.run rest) hsame.symm
    · rw [List.filter_cons_of_pos (by simp [hworks])]
      exact ih hfile

/-- The microjoules of an account are the gaps modulo the range, added up. -/
theorem Agrees.total_eq_sum (h : Agrees file top a s) :
    a.total = (s.gaps.map (· % (top.toNat + 1))).sum :=
  congrArg List.sum h.booked

/-- Never more is booked than was spent between the baseline and the last
successful call. -/
theorem Agrees.total_le (h : Agrees file top a s) : a.total ≤ s.seen - s.baseline := by
  have hsum : (s.gaps.map (· % (top.toNat + 1))).sum ≤ (s.gaps.map id).sum :=
    List.sum_le_sum fun gap _ => Nat.mod_le gap _
  have hgaps := h.gaps
  rw [List.map_id] at hsum
  rw [h.total_eq_sum]
  omega

/-- What is booked differs from what was spent by whole rounds of the counter. -/
theorem Agrees.total_modEq (h : Agrees file top a s) :
    a.total ≡ s.seen - s.baseline [MOD top.toNat + 1] := by
  have hseen : s.seen - s.baseline = s.gaps.sum := by
    have hgaps := h.gaps
    omega
  rw [h.total_eq_sum, hseen]
  generalize s.gaps = gaps
  induction gaps with
  | nil => rfl
  | cons gap rest ih =>
    rw [List.map_cons, List.sum_cons, List.sum_cons]
    exact (Nat.mod_modEq gap _).add ih

/-- Everything spent is booked if no gap is longer than the range. -/
theorem Agrees.total_eq (h : Agrees file top a s) (hs : ∀ gap ∈ s.gaps, gap ≤ top.toNat) :
    a.total = s.seen - s.baseline := by
  have hmap : s.gaps.map (· % (top.toNat + 1)) = s.gaps.map id :=
    List.map_congr_left fun gap hgap => Nat.mod_eq_of_lt (Nat.lt_succ_of_le (hs gap hgap))
  have hgaps := h.gaps
  rw [h.total_eq_sum, hmap, List.map_id]
  omega

end Runs

/-- A gauge over a counter of known range, from its creation through any run of
spending, reads and resets, failing or not. The value seen last is that of the
last successful call; the joules are the booked microjoules, each divided by a
million and added up in order from zero since the last successful reset; the
steps are the true gaps modulo the range, so that together they never exceed the
energy spent since the baseline, differ from it by whole rounds, and are all of
it if no gap is longer than the range. Leaving the failed calls out changes
nothing. -/
theorem accounting_exact {view : View} {file : Path} {top : UInt64} {g : Gauge} {spent : Nat}
    {moves : List Move} (hstart : Gauge.start view file (some top) = .ok g)
    (hspent : g.last.toNat = spent % (top.toNat + 1)) (hf : Faithful file top spent moves) :
    let a := (Account.opened g).run moves
    let s := (Spending.opened spent).run file moves
    a.gauge.last = (moves.filterMap (Move.value? file)).getLastD g.last ∧
      a.gauge.total = a.booked.foldl (fun sum n => sum + n.toFloat / 1000000) 0 ∧
      a.total = (s.gaps.map (· % (top.toNat + 1))).sum ∧
      a.total ≤ s.seen - s.baseline ∧ s.seen ≤ s.spent ∧
      a.total ≡ s.seen - s.baseline [MOD top.toNat + 1] ∧
      ((∀ gap ∈ s.gaps, gap ≤ top.toNat) → a.total = s.seen - s.baseline) ∧
      (Account.opened g).run (moves.filter fun m => !m.fails file) = a := by
  obtain ⟨n, -, rfl⟩ := Gauge.start_eq_ok.1 hstart
  have hopened : Agrees file top (.opened ⟨file, some top, n, 0, signBit_zero⟩) (.opened spent) :=
    ⟨rfl, rfl, hspent, rfl, rfl, Nat.add_zero _, Nat.le_refl _⟩
  have hrun := agrees_run hopened hf
  exact ⟨last_run rfl moves, hrun.joules, hrun.total_eq_sum, hrun.total_le, hrun.seen,
    hrun.total_modEq, hrun.total_eq, run_without_failures rfl moves⟩

/-- A start over between two reads with a failed read in it is booked as the 100
microjoules that it is, a ten-thousandth of a joule, and a whole round between two
reads as nothing. -/
theorem accounting_exact_across_starts :
    let g : Gauge := ⟨⟨"energy_uj"⟩, some 1000, 950, 0, signBit_zero⟩
    let moves : List Move := [.spend 100, .read .nothing, .read (.holding "49\n"), .spend 1001,
      .reset .nothing, .read (.holding "49\n")]
    let a := (Account.opened g).run moves
    Gauge.start (.holding "950\n") ⟨"energy_uj"⟩ (some 1000) = .ok g ∧
      g.last.toNat = 950 % (1000 + 1) ∧ Faithful ⟨"energy_uj"⟩ 1000 950 moves ∧
      a.gauge.last = 49 ∧ a.total = 100 ∧ a.gauge.total = 0.0001 := by
  intro g moves a
  have hstart : Gauge.start (.holding "950\n") ⟨"energy_uj"⟩ (some 1000) = .ok g := by rfl
  have hspent : g.last.toNat = 950 % ((1000 : UInt64).toNat + 1) := by rfl
  have hfound : Sensor.count (.holding "49\n") ⟨"energy_uj"⟩ = .ok 49 := by rfl
  have hlost : Sensor.count .nothing ⟨"energy_uj"⟩ = .error (.io .notFound) := by rfl
  have hf : Faithful ⟨"energy_uj"⟩ 1000 950 moves := by
    simp [moves, Faithful, Move.value?, Move.spends, hfound, hlost, Except.toOption]
  have hbooked : a.booked =
      [countedBetween 950 49 (some 1000), countedBetween 49 49 (some 1000)] := by
    simp [a, moves, g, Account.run, Account.move, Account.opened, Gauge.read, Gauge.reset,
      Gauge.book, Gauge.step, hfound, hlost]
  obtain ⟨hlast, hjoules, htotal, -⟩ := accounting_exact hstart hspent hf
  refine ⟨hstart, hspent, hf, hlast.trans ?_, htotal.trans ?_, hjoules.trans ?_⟩
  · simp [moves, Move.value?, hfound, Except.toOption]
  · simp [moves, Spending.run, Spending.move, Spending.opened, hfound, hlost]
  · rw [hbooked]
    rfl

end EnergyMeter
