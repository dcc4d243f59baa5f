import EnergyMeter.Proofs.CpuVisits
import EnergyMeter.Proofs.GaugeCalls
import EnergyMeter.Proofs.ZeroAmounts

/-!
# Reads of the CPU meter

The meter can be read by component or as one amount, for one package or for all.
Each of these reads goes through its slots in order and stops at the first that
cannot be read. What it answers is worked out package by package from the totals
that the gauges then have, a missing component being worth zero.
-/

namespace EnergyMeter

namespace Breakdown

/-- Two breakdowns are the same if their amounts are. -/
theorem ext_amount {a b : Breakdown} (h : ∀ c, a.amount c = b.amount c) : a = b := by
  obtain ⟨cpu, cores, graphic, dram⟩ := a
  have hcpu : cpu = b.cpu := h .whole
  have hcores : cores = b.cores := h .cores
  have hgraphic : graphic = b.graphic := h .graphic
  have hdram : dram = b.dram := h .dram
  rw [hcpu, hcores, hgraphic, hdram]

/-- Adding to one component leaves the others alone. -/
theorem amount_addTo (b : Breakdown) (c d : Component) (x : Float) :
    (b.addTo c x).amount d = if c = d then b.amount d + x else b.amount d := by
  cases c <;> cases d <;> rfl

/-- Breakdowns are added component by component. -/
theorem amount_add (a b : Breakdown) (c : Component) :
    (a + b).amount c = a.amount c + b.amount c := by
  cases c <;> rfl

/-- Nothing is nothing in every component. -/
theorem amount_zero (c : Component) : zero.amount c = 0 := by
  cases c <;> rfl

end Breakdown

/-- What a call of a meter answers. -/
inductive Reply where
  /-- Joules by component. -/
  | breakdown (b : Breakdown)
  /-- Joules. -/
  | joules (x : Float)
  /-- The meter was started again. -/
  | restarted

namespace Rapl

open Files

namespace CpuMeter

variable {m : CpuMeter} {s : Slot} {g : Gauge}

/-- The joules in a slot; a slot without a gauge is worth nothing. -/
def worth (m : CpuMeter) (s : Slot) : Float :=
  ((m.gauge? s).map (·.total)).getD 0

/-- The joules of a package by component. -/
def breakdownOf (m : CpuMeter) (id : UInt32) : Breakdown :=
  ⟨m.worth ⟨id, .whole⟩, m.worth ⟨id, .cores⟩, m.worth ⟨id, .graphic⟩, m.worth ⟨id, .dram⟩⟩

/-- A gauge is worth its total. -/
theorem worth_of_mem (h : (s, g) ∈ m.gauges) : m.worth s = g.total := by
  unfold worth
  rw [gauge?_eq_some.2 h]
  rfl

/-- A slot without a gauge is worth nothing. -/
theorem worth_of_none (h : m.gauge? s = none) : m.worth s = 0 := by
  unfold worth
  rw [h]
  rfl

/-- No slot is worth an amount with a minus sign. -/
theorem signBit_worth (m : CpuMeter) (s : Slot) : signBit (m.worth s) = false := by
  unfold worth
  cases m.gauge? s with
  | none => exact signBit_zero
  | some g => exact g.unsigned

/-- The amounts of a package's breakdown are what its slots are worth. -/
theorem amount_breakdownOf (m : CpuMeter) (id : UInt32) (c : Component) :
    (m.breakdownOf id).amount c = m.worth ⟨id, c⟩ := by
  cases c <;> rfl

/-- The sum of one component over some packages. -/
def sumOf (m : CpuMeter) (c : Component) (ids : List UInt32) : Float :=
  ids.foldl (fun sum id => sum + m.worth ⟨id, c⟩) 0

/-- The sum of the breakdowns of some packages. -/
def breakdownSum (m : CpuMeter) (ids : List UInt32) : Breakdown :=
  ids.foldl (fun sum id => sum + m.breakdownOf id) Breakdown.zero

/-- The sum of one package is what the package is worth. -/
theorem sumOf_singleton (m : CpuMeter) (c : Component) (id : UInt32) :
    m.sumOf c [id] = m.worth ⟨id, c⟩ :=
  zero_add_of_signBit (m.signBit_worth _)

/-- Breakdowns are added up component by component. -/
theorem amount_foldl_add (m : CpuMeter) (c : Component) (ids : List UInt32) (b : Breakdown) :
    (ids.foldl (fun sum id => sum + m.breakdownOf id) b).amount c =
      ids.foldl (fun sum id => sum + m.worth ⟨id, c⟩) (b.amount c) := by
  induction ids generalizing b with
  | nil => rfl
  | cons id rest ih =>
    rw [List.foldl_cons, List.foldl_cons, ih, Breakdown.amount_add, amount_breakdownOf]

/-- The amounts of a sum of breakdowns are the sums of the component. -/
theorem amount_breakdownSum (m : CpuMeter) (ids : List UInt32) (c : Component) :
    (m.breakdownSum ids).amount c = m.sumOf c ids := by
  unfold breakdownSum sumOf
  rw [amount_foldl_add, Breakdown.amount_zero]

/-- A tally adds to every component the totals of the selected gauges there. -/
theorem amount_foldl_addTo (selects : Slot → Bool) (c : Component)
    (gauges : List (Slot × Gauge)) (b : Breakdown) :
    (gauges.foldl (fun b x => if selects x.1 then b.addTo x.1.component x.2.total else b)
      b).amount c =
      (gauges.filter fun x => selects x.1 && x.1.component == c).foldl
        (fun sum x => sum + x.2.total) (b.amount c) := by
  induction gauges generalizing b with
  | nil => rfl
  | cons x rest ih =>
    rw [List.foldl_cons, ih]
    cases hs : selects x.1 with
    | false => simp [hs]
    | true =>
      by_cases hc : x.1.component = c
      · simp [hs, hc, Breakdown.amount_addTo]
      · simp [hs, hc, Breakdown.amount_addTo]

/-- A tally holds in every component the totals of the selected gauges there. -/
theorem amount_tally (selects : Slot → Bool) (gauges : List (Slot × Gauge)) (c : Component) :
    (tally selects gauges).amount c =
      (gauges.filter fun x => selects x.1 && x.1.component == c).foldl
        (fun sum x => sum + x.2.total) 0 := by
  unfold tally
  rw [amount_foldl_addTo, Breakdown.amount_zero]

/-- Going through the slots of a component adds up what the packages are worth
in it: the packages that lack it are left out, and would have added nothing. -/
theorem foldl_slots (m : CpuMeter) (c : Component) (ids : List UInt32) {sum : Float}
    (hsum : signBit sum = false) :
    (ids.flatMap fun id => ([c].map (Slot.mk id)).filter fun s => (m.gauge? s).isSome).foldl
      (fun sum s => sum + m.worth s) sum =
      ids.foldl (fun sum id => sum + m.worth ⟨id, c⟩) sum := by
  induction ids generalizing sum with
  | nil => rfl
  | cons id rest ih =>
    have hnext := signBit_add hsum (m.signBit_worth ⟨id, c⟩)
    rw [List.flatMap_cons, List.foldl_append, List.foldl_cons, ← ih hnext]
    cases h : m.gauge? ⟨id, c⟩ with
    | some g => simp [h]
    | none =>
      rw [worth_of_none h, add_zero_of_signBit hsum]
      simp [h]

/-- The sum over the slots of a component is the sum over the packages. -/
theorem sum_order (m : CpuMeter) (package : Option UInt32) (c : Component) :
    (m.order ⟨package, some c⟩).foldl (fun sum s => sum + m.worth s) 0 =
      m.sumOf c (m.packagesOf ⟨package, some c⟩) :=
  m.foldl_slots c _ signBit_zero

/-- The amounts that a read gives are the sums over its packages. -/
theorem amount_tally_selects (m : CpuMeter) {q : Query} {c : Component}
    (hc : c ∈ q.components) :
    (tally q.selects m.gauges).amount c = m.sumOf c (m.packagesOf q) := by
  have hworth : ∀ (sum : Float),
      ∀ x ∈ m.gauges.filter fun x => q.selects x.1 && x.1.component == c,
        sum + x.2.total = sum + m.worth x.1 := by
    intro sum x hx
    rw [worth_of_mem (m := m) (List.mem_of_mem_filter hx)]
  have hslots : (m.gauges.filter fun x => q.selects x.1 && x.1.component == c).map Prod.fst =
      m.order ⟨q.package, some c⟩ := by
    rw [← filter_slots, List.filter_map, ← Query.selects_and hc]
    rfl
  have hrow : (m.gauges.filter fun x => q.selects x.1 && x.1.component == c).foldl
      (fun sum x => sum + m.worth x.1) 0 =
        (m.order ⟨q.package, some c⟩).foldl (fun sum s => sum + m.worth s) 0 := by
    rw [← hslots, List.foldl_map]
  rw [amount_tally, List.foldl_ext _ _ _ hworth, hrow, sum_order]
  rfl

/-- The packages can be told from the slots. -/
theorem packages_eq_slots (m : CpuMeter) : m.packages = (slotsOf m.gauges).filterMap fun s =>
    if s.component = .whole then some s.package else none := by
  rw [List.filterMap_map]
  rfl

/-- An action leaves the packages as they are. -/
theorem packages_act (m : CpuMeter) (selects : Slot → Bool) (f : Gauge → Except Error Gauge) :
    (m.act selects f).2.packages = m.packages := by
  rw [packages_eq_slots, packages_eq_slots]
  exact congrArg _ (slotsOf_visit selects f m.gauges)

/-- A read of a package that the meter does not have changes nothing. -/
theorem read_of_unknown {q : Query} {id : UInt32} (h : m.unknown? q = some id) (v : View) :
    m.read v q = (.error (.unknownPackage id), m) := by
  unfold read
  rw [h]

/-- Any other read acts on the gauges and gives the tally unless a gauge failed. -/
theorem read_eq_act {q : Query} (h : m.unknown? q = none) (v : View) :
    m.read v q = ((match (m.act q.selects (Gauge.read v)).1 with
      | some e => .error e
      | none => .ok (tally q.selects (m.act q.selects (Gauge.read v)).2.gauges)),
      (m.act q.selects (Gauge.read v)).2) := by
  unfold read
  rw [h]
  cases hact : m.act q.selects (Gauge.read v) with
  | mk failure m' => cases failure <;> rfl

end CpuMeter

/-- A read of the CPU meter: by component or as one amount, of one package or of
all, and the joules of the machine. -/
inductive CpuRead where
  /-- The joules by component. -/
  | components (package : Option UInt32)
  /-- The joules of one component. -/
  | amount (component : Component) (package : Option UInt32)
  /-- The joules of all packages as wholes. -/
  | joules
  deriving DecidableEq, Repr

namespace CpuRead

/-- What a read asks for. -/
def query : CpuRead → Query
  | components package => ⟨package, none⟩
  | amount c package => ⟨package, some c⟩
  | joules => ⟨none, some .whole⟩

/-- Carries out a read. -/
def perform (v : View) (m : CpuMeter) (r : CpuRead) : Except Error Reply × CpuMeter :=
  match r with
  | components package =>
    let answer := m.read v ⟨package, none⟩
    (answer.1.map .breakdown, answer.2)
  | amount c package =>
    let answer := m.readAmount v c package
    (answer.1.map .joules, answer.2)
  | joules =>
    let answer := m.joules v
    (answer.1.map .joules, answer.2)

/-- What a read answers if it gets through: the sums over the packages, in
ascending order, of what the gauges have counted. -/
def sums (m : CpuMeter) : CpuRead → Reply
  | components (some id) => .breakdown (m.breakdownOf id)
  | components none => .breakdown (m.breakdownSum m.packages)
  | amount c (some id) => .joules (m.worth ⟨id, c⟩)
  | amount c none => .joules (m.sumOf c m.packages)
  | joules => .joules (m.sumOf .whole m.packages)

/-- What a read answers to the tally of its gauges. -/
def reply (b : Breakdown) : CpuRead → Reply
  | components _ => .breakdown b
  | amount c _ => .joules (b.amount c)
  | joules => .joules b.cpu

/-- All reads are reads of their query. -/
theorem perform_eq_read (v : View) (m : CpuMeter) (r : CpuRead) :
    r.perform v m = ((m.read v r.query).1.map (reply · r), (m.read v r.query).2) := by
  cases r with
  | components package => rfl
  | amount c package =>
    simp only [perform, CpuMeter.readAmount, query]
    cases (m.read v ⟨package, some c⟩).1 <;> rfl
  | joules =>
    simp only [perform, CpuMeter.joules, CpuMeter.readAmount, query]
    cases (m.read v ⟨none, some .whole⟩).1 <;> rfl

/-- The tally of the gauges holds the sums over the packages. -/
theorem reply_tally (m : CpuMeter) (r : CpuRead) :
    r.reply (CpuMeter.tally r.query.selects m.gauges) = r.sums m := by
  cases r with
  | components package =>
    have hamount : ∀ c, (CpuMeter.tally (Query.mk package none).selects m.gauges).amount c =
        m.sumOf c (m.packagesOf ⟨package, none⟩) :=
      fun c => m.amount_tally_selects (Query.mem_components.2 rfl)
    cases package with
    | some id =>
      refine congrArg Reply.breakdown (Breakdown.ext_amount fun c => ?_)
      rw [CpuMeter.amount_breakdownOf]
      exact (hamount c).trans (m.sumOf_singleton c id)
    | none =>
      refine congrArg Reply.breakdown (Breakdown.ext_amount fun c => ?_)
      rw [CpuMeter.amount_breakdownSum]
      exact hamount c
  | amount c package =>
    have hamount := m.amount_tally_selects (q := ⟨package, some c⟩) (List.mem_singleton_self c)
    cases package with
    | some id => exact congrArg Reply.joules (hamount.trans (m.sumOf_singleton c id))
    | none => exact congrArg Reply.joules hamount
  | joules =>
    exact congrArg Reply.joules
      (m.amount_tally_selects (q := ⟨none, some .whole⟩) (List.mem_singleton_self _))

end CpuRead

/-- What a read does: it reads its slots one by one and ends with the first that
cannot be read, or with the sums if there is none. -/
structure ReadsInOrder (v : View) (r : CpuRead) (m m' : CpuMeter) (answer : Except Error Reply)
    (before after : List Slot) : Prop where
  /-- The slots stand in the order of the read. -/
  order : before ++ after = m.order r.query
  /-- In that order no slot comes twice, so none is both in front and behind. -/
  ascending : (before ++ after).Pairwise Slot.Before
  /-- In every slot in front, the gauge is as after a read of its own, which takes the count of
  its file and adds what was counted. -/
  advanced : ∀ s ∈ before, ∃ g g', m.gauge? s = some g ∧ g.read v = .ok g' ∧ g.Advances v g' ∧
    m'.gauge? s = some g'
  /-- All other slots are as they were, those behind among them. -/
  kept : ∀ s, s ∉ before → m'.gauge? s = m.gauge? s
  /-- If no slot is left behind, the answer is what the read sums up. -/
  completed : after = [] → answer = .ok (r.sums m')
  /-- No slot is left behind if and only if the file of every slot holds a count. -/
  readable : after = [] ↔
    ∀ s ∈ m.order r.query, ∃ g n, m.gauge? s = some g ∧ Sensor.count v g.file = .ok n
  /-- The file of the first slot left behind holds no count, so that the gauge cannot be read,
  and the answer is its error. -/
  stopped : ∀ s ∈ after.head?, ∃ g e, m.gauge? s = some g ∧ Sensor.count v g.file = .error e ∧
    g.read v = .error e ∧ answer = .error e

/-- Every read of the meter is a reading of its slots one by one, packages by
ascending number. A package that the meter does not have is the error of the
read, which then changes nothing. -/
theorem read_in_order (v : View) (r : CpuRead) (m : CpuMeter) :
    m.packages.Pairwise (· < ·) ∧ (r.perform v m).2.packages = m.packages ∧
      match m.unknown? r.query with
      | some id => r.perform v m = (.error (.unknownPackage id), m)
      | none => ∃ before after,
          ReadsInOrder v r m (r.perform v m).2 (r.perform v m).1 before after := by
  refine ⟨m.ascending_packages, ?_⟩
  rw [CpuRead.perform_eq_read]
  cases hq : m.unknown? r.query with
  | some id =>
    rw [CpuMeter.read_of_unknown hq]
    exact ⟨rfl, rfl⟩
  | none =>
    rw [CpuMeter.read_eq_act hq]
    obtain ⟨before, after, horder, hacts⟩ := m.act_in_order r.query.selects (Gauge.read v)
    have horder' : before ++ after = m.order r.query := horder.trans (m.filter_slots r.query)
    have hstopped : ∀ s ∈ after.head?, ∃ g e, m.gauge? s = some g ∧
        Sensor.count v g.file = .error e ∧ g.read v = .error e ∧
          (m.act r.query.selects (Gauge.read v)).1 = some e := by
      intro s hs
      obtain ⟨g, e, hg, hread, hfailure⟩ := hacts.stopped s hs
      exact ⟨g, e, hg, Gauge.read_eq_error.1 hread, hread, hfailure⟩
    refine ⟨m.packages_act _ _, before, after, ?_⟩
    constructor
    case order => exact horder'
    case ascending =>
      rw [horder']
      exact m.ascending_order r.query
    case advanced =>
      intro s hs
      obtain ⟨g, g', hg, hread, hg'⟩ := hacts.advanced s hs
      exact ⟨g, g', hg, hread, Gauge.advances_of_read hread, hg'⟩
    case kept => exact hacts.kept
    case completed =>
      intro hnil
      rw [hacts.completed hnil]
      exact congrArg Except.ok (r.reply_tally _)
    case readable =>
      rw [← horder']
      constructor
      · rintro rfl s hs
        obtain ⟨g, g', hg, hread, -⟩ := hacts.advanced s (List.append_nil before ▸ hs)
        exact ⟨g, g'.last, hg, (Gauge.advances_of_read hread).last⟩
      · intro hall
        cases after with
        | nil => rfl
        | cons s rest =>
          obtain ⟨g, e, hg, hcount, -⟩ := hstopped s rfl
          obtain ⟨g', n, hg', hn⟩ := hall s (List.mem_append_right _ List.mem_cons_self)
          cases hg.symm.trans hg'
          cases hcount.symm.trans hn
    case stopped =>
      intro s hs
      obtain ⟨g, e, hg, hcount, hread, hfailure⟩ := hstopped s hs
      refine ⟨g, e, hg, hcount, hread, ?_⟩
      rw [hfailure]
      rfl

/-- A meter of two packages, one with a gauge for its cores and the other with one for its
memory. -/
def unevenMeter : CpuMeter where
  gauges :=
    [(⟨0, .whole⟩, ⟨⟨"zones/intel-rapl:0/energy_uj"⟩, some 1000, 100, 0, signBit_zero⟩),
      (⟨0, .cores⟩, ⟨⟨"zones/intel-rapl:0:0/energy_uj"⟩, none, 170, 0, signBit_zero⟩),
      (⟨3, .whole⟩, ⟨⟨"zones/intel-rapl:3/energy_uj"⟩, none, 5, 0, signBit_zero⟩),
      (⟨3, .dram⟩, ⟨⟨"zones/intel-rapl:3:0/energy_uj"⟩, some 200, 180, 0, signBit_zero⟩)]
  proper := ⟨by decide, by decide⟩

/-- With the file of the cores of its first package gone, a read of all components of such a
meter ends there. The counter of that package had started again, and its gauge has gone on by
the 941 microjoules in between; no other gauge has changed. A read of the memory of the second
package gets through and gives the 41 microjoules of its own counter. -/
theorem read_in_order_of_lost :
    let view := View.listing ⟨"zones"⟩ [] [("zones/intel-rapl:0/energy_uj", "40"),
      ("zones/intel-rapl:3/energy_uj", "9"), ("zones/intel-rapl:3:0/energy_uj", "20")]
    let done := (CpuRead.components none).perform view unevenMeter
    done.1 = .error (.io .notFound) ∧
      (∃ g, done.2.gauge? ⟨0, .whole⟩ = some g ∧ g.last = 40 ∧ g.total = 0.000941) ∧
      (∀ s, s ≠ ⟨0, .whole⟩ → done.2.gauge? s = unevenMeter.gauge? s) ∧
      ((CpuRead.amount .dram (some 3)).perform view done.2).1 = .ok (.joules 0.000041) := by
  intro view done
  obtain ⟨-, -, before, after, h⟩ := read_in_order view (.components none) unevenMeter
  have horder : before ++ after = [⟨0, .whole⟩, ⟨0, .cores⟩, ⟨3, .whole⟩, ⟨3, .dram⟩] := h.order
  have hwhole : Sensor.count view ⟨"zones/intel-rapl:0/energy_uj"⟩ = .ok 40 := by rfl
  have hcores : Sensor.count view ⟨"zones/intel-rapl:0:0/energy_uj"⟩ = .error (.io .notFound) := by
    rfl
  match before, horder with
  | [], horder =>
    -- The whole of the first package is not left behind, as its file holds a count.
    obtain ⟨g, e, hg, hcount, -⟩ := h.stopped ⟨0, .whole⟩ (by simp [show after = _ from horder])
    cases hg
    cases hwhole.symm.trans hcount
  | s :: t :: rest, horder =>
    obtain ⟨rfl, rfl, -⟩ : s = ⟨0, .whole⟩ ∧ t = ⟨0, .cores⟩ ∧ _ := by simpa using horder
    obtain ⟨g, g', hg, -, hadvances, -⟩ := h.advanced ⟨0, .cores⟩ (by simp)
    cases hg
    cases hcores.symm.trans hadvances.last
  | [s], horder =>
    obtain ⟨rfl, rfl⟩ : s = ⟨0, .whole⟩ ∧ after = _ := by simpa using horder
    obtain ⟨g, e, hg, hcount, -, hanswer⟩ := h.stopped ⟨0, .cores⟩ rfl
    cases hg
    cases hcores.symm.trans hcount
    obtain ⟨g, g', hg, -, hadvances, hg'⟩ := h.advanced ⟨0, .whole⟩ (by simp)
    cases hg
    have hlast := Except.ok.inj (hwhole.symm.trans hadvances.last)
    have htotal := hadvances.total
    rw [← hlast] at htotal
    exact ⟨hanswer, ⟨g', hg', hlast.symm, htotal⟩, fun s hs => h.kept s (by simpa using hs),
      rfl⟩

end Rapl

end EnergyMeter
