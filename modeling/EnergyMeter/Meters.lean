import EnergyMeter.Hwmon.PlugMeter
import EnergyMeter.MeterKind
import EnergyMeter.Rapl.Detection

/-!
# The meters of a machine

A machine has at most one meter of each kind. The kinds it has are fixed when
they are looked for; the best one is the most precise. Operations on one meter
leave the other alone.
-/

namespace EnergyMeter

open Files Log

/-- The directories in which the kernel shows its sensors. -/
structure SensorRoots where
  /-- The directory of power zones. -/
  powercap : Path
  /-- The directory of monitoring chips. -/
  hwmon : Path
  deriving DecidableEq, Repr

/-- The directories that the kernel uses. -/
def SensorRoots.standard : SensorRoots :=
  ⟨⟨"/sys/class/powercap"⟩, ⟨"/sys/class/hwmon"⟩⟩

/-- The meters that were found. -/
structure Meters where
  /-- The meter of the CPU packages. -/
  cpus : Option Rapl.CpuMeter
  /-- The meter at the plug. -/
  plug : Option Hwmon.PlugMeter

namespace Meters

/-- Looks for the meters. The directory of zones is looked at first, and an
error there ends the search. -/
def detect (v : View) (roots : SensorRoots) : Logged (Except Error Meters) :=
  let cpus := Rapl.CpuMeter.detect v roots.powercap
  match cpus.value with
  | .error e => ⟨.error e, cpus.events⟩
  | .ok c =>
    let plug := Hwmon.PlugMeter.detect v roots.hwmon
    match plug.value with
    | .error e => ⟨.error e, cpus.events ++ plug.events⟩
    | .ok p =>
      let missing := if c.isNone && p.isNone then [Event.noMeters] else []
      ⟨.ok ⟨c, p⟩, cpus.events ++ plug.events ++ missing⟩

/-- Whether there is a meter of a kind. -/
def has (m : Meters) : MeterKind → Bool
  | .cpus => m.cpus.isSome
  | .plug => m.plug.isSome

/-- The kinds of meters that there are, the most precise one first. -/
def kinds (m : Meters) : List MeterKind :=
  MeterKind.all.filter m.has

/-- The most precise kind of meter that there is. -/
def best? (m : Meters) : Option MeterKind :=
  m.kinds.head?

/-- Carries an answer of the CPU meter over to all meters. -/
def withCpus {α : Type} (m : Meters) (act : Rapl.CpuMeter → Except Error α × Rapl.CpuMeter) :
    Option (Except Error α × Meters) :=
  m.cpus.map fun c =>
    let answer := act c
    (answer.1, { m with cpus := some answer.2 })

/-- Carries an answer of the plug's meter over to all meters. -/
def withPlug {α : Type} (m : Meters)
    (act : Hwmon.PlugMeter → Except Error α × Hwmon.PlugMeter) :
    Option (Except Error α × Meters) :=
  m.plug.map fun p =>
    let answer := act p
    (answer.1, { m with plug := some answer.2 })

/-- Reads the meter of a kind, if there is one. -/
def joules? (v : View) (m : Meters) : MeterKind → Option (Except Error Float × Meters)
  | .cpus => m.withCpus (Rapl.CpuMeter.joules v)
  | .plug => m.withPlug (Hwmon.PlugMeter.joules v)

/-- A meter that is there answers a read. -/
theorem exists_joules?_of_has (m : Meters) {kind : MeterKind} (v : View)
    (h : m.has kind = true) : ∃ answer, m.joules? v kind = some answer := by
  cases kind with
  | cpus =>
    obtain ⟨c, hc⟩ := Option.isSome_iff_exists.1 h
    simp [joules?, withCpus, hc]
  | plug =>
    obtain ⟨p, hp⟩ := Option.isSome_iff_exists.1 h
    simp [joules?, withPlug, hp]

/-- Starts the meter of a kind again, if there is one. -/
def reset? (v : View) (m : Meters) : MeterKind → Option (Except Error Unit × Meters)
  | .cpus => m.withCpus (Rapl.CpuMeter.reset v)
  | .plug => m.withPlug (Hwmon.PlugMeter.reset v)

end Meters

end EnergyMeter
