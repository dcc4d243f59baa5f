import EnergyMeter.Files.Fault
import EnergyMeter.Files.Path

/-!
# What can be asked of a file system

Metering needs three answers about a file system at one moment: the content of
a file, the names in a directory, and whether anything is there. Everything
above this file works on these answers alone, so it holds for every file
system, whatever its layout and in whatever order it lists a directory.
-/

namespace EnergyMeter.Files

/-- The answers of a file system at one moment. -/
structure View where
  /-- The bytes of a file. -/
  read : Path → Except Fault ByteArray
  /-- The names in a directory, in the order the system gives them. -/
  list : Path → Except Fault (List String)
  /-- Whether a path leads to something, links followed. -/
  leadsTo : Path → Bool

/-- The content of a file as text. -/
def View.text (v : View) (p : Path) : Except Fault String :=
  match v.read p with
  | .error fault => .error fault
  | .ok bytes =>
    match String.fromUTF8? bytes with
    | some s => .ok s
    | none => .error .notText

end EnergyMeter.Files
