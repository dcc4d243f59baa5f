import EnergyMeter.Log.Event
import EnergyMeter.Rapl.Visit
import EnergyMeter.Rapl.ZoneName

/-!
# Power zones

A zone is a directory with a name, a counter and perhaps the range of the
counter. Zones inside a package stand beside the package's own zone or, where
none does, in its directory. One of them stands for a component by its name;
the last usable one in the order of names counts.
-/

namespace EnergyMeter.Rapl

open Files Log

/-- A zone's gauge, with the range that the zone states, if it can be read. -/
def startZone (v : View) (zone : Path) : Except Error Gauge :=
  Gauge.start v (zone.join "energy_uj") (Sensor.count v (zone.join "max_energy_range_uj")).toOption

/-- The component that the name inside a zone stands for. -/
def componentOf? (name : String) : Option Component :=
  if name = "core" then some .cores
  else if name = "uncore" then some .graphic
  else if name = "dram" then some .dram
  else none

/-- What examining a zone inside a package gives. -/
structure Examined where
  /-- The gauge and what it covers, if the zone is usable. -/
  gauge? : Option (Component × Gauge)
  /-- The events. -/
  events : List Event

/-- Examines a zone inside a package. One without a readable name is passed
over in silence. -/
def examine (v : View) (zone : Path) : Examined :=
  match Sensor.text v (zone.join "name") with
  | .error _ => ⟨none, []⟩
  | .ok name =>
    match componentOf? name with
    | none => ⟨none, [.innerIgnored zone name]⟩
    | some c =>
      match startZone v zone with
      | .ok g => ⟨some (c, g), []⟩
      | .error e => ⟨none, [.innerUnreadable zone name e]⟩

/-- The zones that may be inside a package, sorted: those beside it, or else
those in its directory. -/
def innerZones (v : View) (root : Path) (names : List String) (id : UInt32) (zone : Path) :
    List Path :=
  let beside := names.filter (ZoneName.isInsideOf id)
  if beside.isEmpty then
    match v.list zone with
    | .ok nested => ((nested.filter ZoneName.isInside).mergeSort nameLe).map zone.join
    | .error _ => []
  else
    (beside.mergeSort nameLe).map root.join

/-- The last gauge of a component among the examined zones. -/
def lastOf (c : Component) (zones : List Examined) : Option Gauge :=
  ((zones.filterMap (·.gauge?)).filter (·.1 = c)).getLast?.map (·.2)

/-- The gauge in the slot of a component, if there is one. -/
def slotted (id : UInt32) (c : Component) (g : Option Gauge) : List (Slot × Gauge) :=
  (g.map fun g => (⟨id, c⟩, g)).toList

/-- The gauges of a usable package in reading order. -/
def packageGauges (id : UInt32) (whole : Gauge) (zones : List Examined) : List (Slot × Gauge) :=
  (⟨id, .whole⟩, whole) :: (slotted id .cores (lastOf .cores zones) ++
    slotted id .graphic (lastOf .graphic zones) ++ slotted id .dram (lastOf .dram zones))

/-- The gauges of a package are in that package's slots. -/
theorem package_of_mem_packageGauges {id : UInt32} {whole : Gauge} {zones : List Examined}
    {s : Slot} (h : s ∈ slotsOf (packageGauges id whole zones)) : s.package = id := by
  simp only [packageGauges, slotted, slotsOf] at h
  cases lastOf .cores zones <;> cases lastOf .graphic zones <;> cases lastOf .dram zones <;>
    simp_all <;> grind

/-- The gauges of a package are in reading order, that of the whole among them. -/
theorem proper_packageGauges (id : UInt32) (whole : Gauge) (zones : List Examined) :
    Slot.Proper (slotsOf (packageGauges id whole zones)) := by
  constructor
  · simp only [packageGauges, slotted, slotsOf]
    cases lastOf .cores zones <;> cases lastOf .graphic zones <;> cases lastOf .dram zones <;>
      simp [Slot.Before, Component.rank]
  · intro s hs
    rw [package_of_mem_packageGauges hs]
    simp [packageGauges, slotsOf]

end EnergyMeter.Rapl
