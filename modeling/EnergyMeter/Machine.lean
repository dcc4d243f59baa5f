import EnergyMeter.Measurement
import EnergyMeter.Settings

/-!
# The local machine

A machine is its settings and the meters found where they point. Together with
the state of the file system it can be measured: reading a meter changes the
machine, and waiting changes the files.
-/

namespace EnergyMeter

open Files Log

/-- A machine and its meters. -/
structure Machine where
  /-- The settings in force. -/
  settings : Settings
  /-- The meters found. -/
  meters : Meters

namespace Machine

/-- Looks for the meters where settings point. -/
def ofSettings (v : View) (settings : Settings) : Logged (Except Error Machine) :=
  let found := Meters.detect v settings.roots
  ⟨found.value.map fun meters => ⟨settings, meters⟩,
    .machineStarted settings.roots.powercap settings.roots.hwmon :: found.events⟩

/-- The machine with the settings in force here. -/
def here (v : View) (env : Environment) : Logged (Except Error Machine) :=
  let loaded := Settings.load v env
  match loaded.value with
  | .error e => ⟨.error e, loaded.events⟩
  | .ok settings =>
    let machine := ofSettings v settings
    ⟨machine.value, loaded.events ++ machine.events⟩

end Machine

/-- Meters together with the files that they read. -/
structure Bench where
  /-- The files as they are now. -/
  view : View
  /-- The meters. -/
  meters : Meters

namespace Bench

/-- Reads the meter of a kind. -/
def joules (kind : MeterKind) (b : Bench) : Except Error Float × Bench :=
  match b.meters.joules? b.view kind with
  | some answer => (answer.1, { b with meters := answer.2 })
  | none => (.ok 0, b)

/-- The meter of a kind as a measurement sees it. -/
def readable? (m : Meters) (kind : MeterKind) : Option (Readable Bench) :=
  if m.has kind then some ⟨kind, joules kind⟩ else none

end Bench

end EnergyMeter
