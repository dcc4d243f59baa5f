import EnergyMeter.Program.Run

/-!
# The program that reports components

It starts the meter of the CPU packages again, waits ten seconds, and prints
one line with the joules of all packages: as wholes, and for each component
that every package has. Then it tells each package's average power.
-/

namespace EnergyMeter.Components

open Files Log

/-- A component that the line of totals may show. -/
structure Title where
  /-- The words in front of the amount. -/
  words : String
  /-- The component. -/
  component : Component

/-- The components in the order of the line. -/
def titles : List Title :=
  [⟨"Total Cpus Joules: ", .whole⟩, ⟨" Total Cores Joules: ", .cores⟩,
    ⟨" Total Dram Joules: ", .dram⟩, ⟨" Total Graphic Joules: ", .graphic⟩]

/-- The components that the line shows: those that every package has. -/
def shownTitles (m : Rapl.CpuMeter) : List Title :=
  titles.filter fun t => m.has t.component

/-- Reads totals one after the other and joins their texts. -/
def totals (v : View) : List Title → Rapl.CpuMeter → Except Error String × Rapl.CpuMeter
  | [], m => (.ok "", m)
  | t :: rest, m =>
    match m.readAmount v t.component none with
    | (.error e, m') => (.error e, m')
    | (.ok joules, m') =>
      let behind := totals v rest m'
      (behind.1.map fun line => t.words ++ Amount.text joules ++ line, behind.2)

/-- The average power of a package over the wait. -/
def average (id : UInt32) (joules : Breakdown) : Event :=
  .averagePower id (joules / waitSeconds.toFloat).cpu

/-- Reads packages one after the other and tells their average power, up to the
first that cannot be read. -/
def averages (v : View) : List UInt32 → Rapl.CpuMeter → List Event × Option Error
  | [], _ => ([], none)
  | id :: rest, m =>
    match m.read v (.packageOf id) with
    | (.error e, _) => ([], some e)
    | (.ok joules, m') =>
      let behind := averages v rest m'
      (average id joules :: behind.1, behind.2)

/-- The line printed before the wait. -/
def waitLine : String :=
  s!"Sleeping {waitSeconds.toNat} seconds."

/-- The run behind the wait. -/
def finish (f : Filter) (shown : List String) (m : Rapl.CpuMeter) (v : View) : Run :=
  match totals v (shownTitles m) m with
  | (.error e, _) => .fail e [waitLine] shown [waitSeconds]
  | (.ok line, m') =>
    let found := averages v m.packages m'
    let shown := shown ++ f.lines found.1
    match found.2 with
    | some e => .fail e [waitLine, line] shown [waitSeconds]
    | none => .succeed [waitLine, line] shown [waitSeconds]

/-- The program on a machine that was found. -/
def reportMeter (f : Filter) (shown : List String) (v : View) (m : Meters) : Stage :=
  match m.cpus with
  | none => .ended ⟨1, ["Cpu counters not present on this machine."], shown, []⟩
  | some cpus =>
    match cpus.reset v with
    | (.error e, _) => .ended (.fail e [] shown [])
    | (.ok (), cpus') =>
      .waiting (.succeed [waitLine] shown [waitSeconds]) waitSeconds (finish f shown cpus')

/-- The program up to its wait or its end. -/
def start (c : Context) (v : View) : Stage :=
  let f := c.filter "info"
  let machine := Machine.here v c.environment
  let shown := f.warnings ++ f.lines machine.events
  match machine.value with
  | .error e => .ended (.fail e [] shown [])
  | .ok m => reportMeter f shown v m.meters

end EnergyMeter.Components
