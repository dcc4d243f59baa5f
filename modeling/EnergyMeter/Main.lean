import EnergyMeter.Files.Snapshot
import EnergyMeter.Program.Components
import EnergyMeter.Program.Consumption

/-!
# The command line

Without an argument the program reports consumption, with the argument
`components` it reports the components of the CPU packages. The files that it
needs are read before it starts and again after its wait.
-/

namespace EnergyMeter.CommandLine

open Files

/-- The cause that an error of the system stands for. -/
def faultOf : IO.Error → Fault
  | .noFileOrDirectory _ _ _ => .notFound
  | .permissionDenied _ _ _ => .permissionDenied
  | .inappropriateType _ code text =>
    if code = 20 then .notDirectory else if code = 21 then .isDirectory else .other text
  | e => .other (toString e)

/-- Turns errors of the system into causes. -/
def attempt {α : Type} (act : IO α) : IO (Except Fault α) := do
  match ← act.toBaseIO with
  | .ok a => return .ok a
  | .error e => return .error (faultOf e)

/-- Reads a file. -/
def lookAtFile (p : Path) : IO Snapshot := do
  let content ← attempt (IO.FS.readBinFile p.text)
  let real ← attempt (IO.FS.realPath p.text)
  return ⟨[(p, content)], [], if real.isOk then [p] else []⟩

/-- Lists a directory. -/
def lookAtDirectory (p : Path) : IO (Snapshot × List String) := do
  let names ← attempt do
    let real ← IO.FS.realPath p.text
    return (← real.readDir).toList.map (·.fileName)
  return (⟨[], [(p, names)], []⟩, (names.toOption).getD [])

/-- Reads some files of a directory. -/
def lookAtFiles (directory : Path) (names : List String) : IO Snapshot :=
  names.foldlM (fun s name => return s.append (← lookAtFile (directory.join name))) .empty

/-- The files of a power zone. -/
def zoneFiles : List String := ["name", "energy_uj", "max_energy_range_uj"]

/-- Reads the zones in a directory, `inside` deep. -/
def lookAtZones (directory : Path) : Nat → IO Snapshot
  | 0 => return .empty
  | inside + 1 => do
    let (listed, names) ← lookAtDirectory directory
    let zones := names.filter fun s => (Rapl.ZoneName.parse? s).isSome
    zones.foldlM
      (fun s name => do
        let zone := directory.join name
        let files ← lookAtFiles zone zoneFiles
        return (s.append files).append (← lookAtZones zone inside))
      listed

/-- The files of a monitoring chip. -/
def chipFiles : List String :=
  "name" :: Hwmon.inputNumbers.flatMap fun i => [s!"energy{i}_input", s!"energy{i}_label"]

/-- Reads the chips in a directory. -/
def lookAtChips (directory : Path) : IO Snapshot := do
  let (listed, names) ← lookAtDirectory directory
  names.foldlM
    (fun s name => return s.append (← lookAtFiles (directory.join name) chipFiles)) listed

/-- Reads everything that a program may ask for. -/
def lookAround (environment : Environment) : IO View := do
  let settings ← match Settings.file environment with
    | .ok p => lookAtFile p
    | .error _ => pure .empty
  match (Settings.load settings.view environment).value with
  | .error _ => return settings.view
  | .ok s =>
    let zones ← lookAtZones s.roots.powercap 2
    let chips ← lookAtChips s.roots.hwmon
    return ((settings.append zones).append chips).view

/-- The number of the user, told from what the system says about the process. -/
def userNumber? (status : String) : Option (List Char) :=
  (Text.splitAt '\n' status.toList).findSome? fun line =>
    match Text.splitAt '\t' line with
    | title :: number :: _ => if String.ofList title = "Uid:" then some number else none
    | _ => none

/-- The home directory of a user in the table of accounts. -/
def accountHome? (accounts : String) (user : List Char) : Option String :=
  (Text.splitAt '\n' accounts.toList).findSome? fun line =>
    match Text.splitAt ':' line with
    | [_, _, number, _, _, home, _] => if number = user then some (String.ofList home) else none
    | _ => none

/-- The home directory as the system tells it. -/
def lookUpHome : IO Home := do
  let status ← attempt (IO.FS.readFile "/proc/self/status")
  let accounts ← attempt (IO.FS.readFile "/etc/passwd")
  let account := do
    let user ← userNumber? (← status.toOption)
    accountHome? (← accounts.toOption) user
  return ⟨← IO.getEnv "HOME", account⟩

/-- Prints the lines that are not printed yet. -/
def printFrom (stream : IO.FS.Stream) (printed : Nat) (lines : List String) : IO Unit := do
  (lines.drop printed).forM stream.putStrLn
  stream.flush

/-- Carries a program out. -/
def carryOut (program : Context → View → Stage) : IO UInt32 := do
  let environment : Environment := ⟨← lookUpHome, ← IO.getEnv "XDG_CONFIG_HOME"⟩
  let context : Context := ⟨environment, ← IO.getEnv "RUST_LOG"⟩
  let output ← IO.getStdout
  let errors ← IO.getStderr
  match program context (← lookAround environment) with
  | .ended run =>
    printFrom errors 0 run.errors
    printFrom output 0 run.output
    return run.exit.toUInt32
  | .waiting before seconds after =>
    printFrom errors 0 before.errors
    printFrom output 0 before.output
    IO.sleep (1000 * seconds.toUInt32)
    let run := after (← lookAround environment)
    printFrom output before.output.length run.output
    printFrom errors before.errors.length run.errors
    return run.exit.toUInt32

end EnergyMeter.CommandLine

/-- The command line. -/
def main (arguments : List String) : IO UInt32 :=
  match arguments with
  | ["components"] => EnergyMeter.CommandLine.carryOut EnergyMeter.Components.start
  | _ => EnergyMeter.CommandLine.carryOut EnergyMeter.Consumption.start
