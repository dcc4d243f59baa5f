import EnergyMeter.Error
import EnergyMeter.Text.Blank
import EnergyMeter.Text.Numeral

/-!
# Reading sensor files

A sensor file holds one short text with blanks around it. A counter is such a
text that is a numeral below `2^64`. A file that its mode protects is an error
of its own kind, since running with more rights mends it.
-/

namespace EnergyMeter.Sensor

open Files

/-- The error for a sensor that may not be read. -/
def denied (p : Path) : Error :=
  .permissionDenied s!"Cannot read {p.text} (try running with sudo or add CAP_SYS_RAWIO)"

/-- The error for a file that could not be read. -/
def errorOf (p : Path) : Fault → Error
  | .permissionDenied => denied p
  | fault => .io fault

/-- The text of a sensor file without the blanks around it. -/
def text (v : View) (p : Path) : Except Error String :=
  match v.text p with
  | .ok s => .ok (Text.trimmed s)
  | .error fault => .error (errorOf p fault)

/-- The count in a sensor file. -/
def count (v : View) (p : Path) : Except Error UInt64 :=
  match text v p with
  | .error e => .error e
  | .ok s =>
    match Text.Numeral.word64? s with
    | some n => .ok n
    | none => .error (.parse p s)

/-- The text of a sensor file, or the empty text if it cannot be read. -/
def textOrEmpty (v : View) (p : Path) : String :=
  match text v p with
  | .ok s => s
  | .error _ => ""

end EnergyMeter.Sensor
