import EnergyMeter.Rapl.Visit

/-!
# The meter of the CPU packages

The meter is a row of gauges in reading order. Every package has a gauge for its
whole; a component that a package does not have counts nothing. A query says
which gauges a read is about, and its answer is the sums of their totals.
-/

namespace EnergyMeter.Rapl

open Files

/-- The gauges of all CPU packages. -/
structure CpuMeter where
  /-- The gauges in reading order, each with its slot. -/
  gauges : List (Slot × Gauge)
  /-- The slots are in order and every package has one for its whole. -/
  proper : Slot.Proper (slotsOf gauges)

namespace CpuMeter

/-- The numbers of the packages. -/
def packages (m : CpuMeter) : List UInt32 :=
  m.gauges.filterMap fun x => if x.1.component = .whole then some x.1.package else none

/-- The gauge in a slot. -/
def gauge? (m : CpuMeter) (s : Slot) : Option Gauge :=
  m.gauges.lookup s

/-- Whether every package has the component. -/
def has (m : CpuMeter) (c : Component) : Bool :=
  m.packages.all fun id => (m.gauge? ⟨id, c⟩).isSome

/-- The sums of the selected totals by component. -/
def tally (selects : Slot → Bool) (gauges : List (Slot × Gauge)) : Breakdown :=
  gauges.foldl
    (fun b x => if selects x.1 then b.addTo x.1.component x.2.total else b) Breakdown.zero

/-- Acts on the selected gauges. -/
def act (m : CpuMeter) (selects : Slot → Bool) (f : Gauge → Except Error Gauge) :
    Option Error × CpuMeter :=
  let seen := visit selects f m.gauges
  (seen.failure, ⟨seen.gauges, slotsOf_visit selects f m.gauges ▸ m.proper⟩)

/-- The package that a query names without the meter having it. -/
def unknown? (m : CpuMeter) (q : Query) : Option UInt32 :=
  q.package.filter fun id => !m.packages.contains id

/-- Reads the selected gauges and gives the sums of their totals. -/
def read (v : View) (q : Query) (m : CpuMeter) : Except Error Breakdown × CpuMeter :=
  match m.unknown? q with
  | some id => (.error (.unknownPackage id), m)
  | none =>
    match m.act q.selects (Gauge.read v) with
    | (some e, m') => (.error e, m')
    | (none, m') => (.ok (tally q.selects m'.gauges), m')

/-- Reads one component and gives its joules. -/
def readAmount (v : View) (c : Component) (package : Option UInt32) (m : CpuMeter) :
    Except Error Float × CpuMeter :=
  let answer := m.read v ⟨package, some c⟩
  (answer.1.map (·.amount c), answer.2)

/-- The joules of all packages as wholes. -/
def joules (v : View) (m : CpuMeter) : Except Error Float × CpuMeter :=
  m.readAmount v .whole none

/-- Starts every gauge again at the value of its file. -/
def reset (v : View) (m : CpuMeter) : Except Error Unit × CpuMeter :=
  match m.act (fun _ => true) (Gauge.reset v) with
  | (some e, m') => (.error e, m')
  | (none, m') => (.ok (), m')

end CpuMeter

end EnergyMeter.Rapl
