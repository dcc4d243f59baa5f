import EnergyMeter.Gauge
import EnergyMeter.Log.Event

/-!
# The meter at the plug

Chips that monitor the hardware stand in one directory, each with up to
thirty-two energy inputs. The meter is the first input that can be read, by
chip and then by number. Chips that only measure CPU cores are no meters of
the machine. An input has no stated range.
-/

namespace EnergyMeter.Hwmon

open Files Log

/-- An energy input of the whole machine. -/
structure PlugMeter where
  /-- What the input is called. -/
  label : String
  /-- The gauge of the input. -/
  gauge : Gauge

/-- Chips whose energy inputs are sensors of CPU cores. -/
def coreChips : List String := ["amd_energy"]

/-- The numbers that an energy input may have. -/
def inputNumbers : List Nat := (List.range 32).map (· + 1)

/-- An energy input of a chip. -/
structure Input where
  /-- The directory of the chip. -/
  chip : Path
  /-- The name of the chip, empty if it has none. -/
  chipName : String
  /-- The number of the input. -/
  number : Nat
  deriving DecidableEq, Repr

namespace Input

/-- The file with the input's counter. -/
def file (i : Input) : Path := i.chip.join s!"energy{i.number}_input"

/-- What the input is called: its own label, or the chip's name and its number
if it has none. -/
def label (v : View) (i : Input) : String :=
  match Sensor.text v (i.chip.join s!"energy{i.number}_label") with
  | .ok s => s
  | .error _ => s!"{i.chipName} energy{i.number}"

end Input

/-- The inputs of a chip that are there, by number. -/
def inputsOf (v : View) (chip : Path) : List Input :=
  let name := Sensor.textOrEmpty v (chip.join "name")
  if coreChips.contains name then []
  else (inputNumbers.map fun i => ⟨chip, name, i⟩).filter fun i => v.leadsTo i.file

/-- Tries inputs in order up to the first that can be read. -/
def firstUsable (v : View) : List Input → Option PlugMeter × List Event
  | [] => (none, [])
  | i :: rest =>
    match Gauge.start v i.file none with
    | .ok g =>
      (some ⟨i.label v, g⟩, [.inputFound i.file (i.label v)])
    | .error e =>
      let later := firstUsable v rest
      (later.1, .inputUnreadable i.file e :: later.2)

/-- The inputs below a directory of chips in the order in which they are tried. -/
def allInputs (v : View) (root : Path) (names : List String) : List Input :=
  (names.mergeSort nameLe).flatMap fun name => inputsOf v (root.join name)

namespace PlugMeter

/-- Finds the first usable input below a directory of chips. -/
def detect (v : View) (root : Path) : Logged (Except Error (Option PlugMeter)) :=
  match v.list root with
  | .error .notFound => ⟨.ok none, [.chipsMissing root]⟩
  | .error fault => ⟨.error (.io fault), []⟩
  | .ok names =>
    let found := firstUsable v (allInputs v root names)
    ⟨.ok found.1, found.2⟩

/-- Reads the meter and gives its joules. -/
def joules (v : View) (m : PlugMeter) : Except Error Float × PlugMeter :=
  match m.gauge.read v with
  | .ok g => (.ok g.total, { m with gauge := g })
  | .error e => (.error e, m)

/-- Starts the meter again. -/
def reset (v : View) (m : PlugMeter) : Except Error Unit × PlugMeter :=
  match m.gauge.reset v with
  | .ok g => (.ok (), { m with gauge := g })
  | .error e => (.error e, m)

end PlugMeter

end EnergyMeter.Hwmon
