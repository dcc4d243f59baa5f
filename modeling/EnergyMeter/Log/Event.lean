import EnergyMeter.Amount
import EnergyMeter.Error
import EnergyMeter.Log.Severity
import EnergyMeter.MeterKind

/-!
# Events

Detection, configuration and measurement say what happened in events. Each
event has its severity, its source and its wording, all fixed here, so that
what was found and left out can be told from the events alone.
-/

namespace EnergyMeter.Log

open Files

/-- Something worth telling. -/
inductive Event where
  /-- The directory of power zones is not there. -/
  | zonesMissing (root : Path)
  /-- No power zone is that of a usable package. -/
  | noPackages (root : Path)
  /-- A power zone is not named as a package. -/
  | zoneSkipped (zone : Path) (name : String)
  /-- A usable package. -/
  | packageFound (id : UInt32) (name : String) (zone : Path)
  /-- A package whose counter cannot be read. -/
  | packageUnreadable (zone : Path) (cause : Error)
  /-- A zone inside a package that stands for no component. -/
  | innerIgnored (zone : Path) (name : String)
  /-- A component whose counter cannot be read. -/
  | innerUnreadable (zone : Path) (name : String) (cause : Error)
  /-- The directory of monitoring chips is not there. -/
  | chipsMissing (root : Path)
  /-- The meter at the plug. -/
  | inputFound (file : Path) (label : String)
  /-- An energy input that cannot be read. -/
  | inputUnreadable (file : Path) (cause : Error)
  /-- The machine has no meter. -/
  | noMeters
  /-- There is no file with settings. -/
  | settingsMissing (file : Path)
  /-- The directories in which meters are looked for. -/
  | machineStarted (powercap hwmon : Path)
  /-- The two reads of a measurement. -/
  | windowClosed (kind : MeterKind) (start stop : Float)
  /-- The average power of a package. -/
  | averagePower (id : UInt32) (watts : Float)

namespace Event

/-- How important an event is. -/
def severity : Event → Severity
  | .packageUnreadable .. | .innerUnreadable .. | .inputUnreadable .. | .noMeters => .warn
  | .zonesMissing .. | .noPackages .. | .packageFound .. | .chipsMissing ..
  | .inputFound .. | .averagePower .. => .info
  | .zoneSkipped .. | .innerIgnored .. | .settingsMissing .. | .machineStarted ..
  | .windowClosed .. => .debug

/-- Where an event comes from. -/
def source : Event → Source
  | .noMeters => .meters
  | .settingsMissing .. => .settings
  | .machineStarted .. => .machine
  | .windowClosed .. => .report
  | .averagePower .. => .components
  | _ => .sensors

/-- The wording of an event. -/
def message : Event → String
  | .zonesMissing root => s!"powercap not available at {root.quoted}"
  | .noPackages root => s!"No readable RAPL package zones below {root.quoted}"
  | .zoneSkipped zone name => s!"Skipping RAPL zone {zone.quoted} ({name})"
  | .packageFound id name zone =>
    s!"Found RAPL package {id.toNat} ({name}) at {zone.quoted}"
  | .packageUnreadable zone cause => s!"RAPL zone {zone.quoted} unreadable: {cause.message}"
  | .innerIgnored zone name => s!"Ignoring RAPL sub-zone {zone.quoted} ({name})"
  | .innerUnreadable zone name cause =>
    s!"RAPL sub-zone {zone.quoted} ({name}) unreadable: {cause.message}"
  | .chipsMissing root => s!"hwmon not available at {root.quoted}"
  | .inputFound file label => s!"Found hwmon energy meter at {file.quoted} ({label})"
  | .inputUnreadable file cause =>
    s!"hwmon energy input {file.quoted} unreadable: {cause.message}"
  | .noMeters => "No energy counters detected"
  | .settingsMissing file => s!"No config at {file.quoted}, using defaults"
  | .machineStarted powercap hwmon =>
    "Initializing machine with SysfsConfig \x7b powercap_root: " ++ powercap.quoted ++
      ", hwmon_root: " ++ hwmon.quoted ++ " \x7d"
  | .windowClosed kind start stop =>
    s!"{kind.name} counter: {Amount.text start} J -> {Amount.text stop} J"
  | .averagePower id watts => s!"package {id.toNat}: {Amount.fixedText 1 watts} W average"

/-- The line that an event is told as. -/
def line (e : Event) : String :=
  s!"{e.severity.word} {e.message}"

end Event

/-- A result together with the events on the way to it. -/
structure Logged (α : Type) where
  /-- The result. -/
  value : α
  /-- The events, the first one first. -/
  events : List Event

end EnergyMeter.Log
