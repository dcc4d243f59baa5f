import EnergyMeter.Files.View

/-!
# Errors

An error says why an operation gave no result. The wording of each kind stands
in one function.
-/

namespace EnergyMeter

open Files

/-- Why an operation failed. -/
inductive Error where
  /-- The settings are wrong or cannot be found. -/
  | config (text : String)
  /-- A file access failed for a reason other than its mode. -/
  | io (cause : Fault)
  /-- A sensor file holds no number. -/
  | parse (path : Path) (value : String)
  /-- There is no CPU package of that number. -/
  | unknownPackage (id : UInt32)
  /-- A mode forbids reading a sensor. -/
  | permissionDenied (text : String)
  deriving DecidableEq, Repr

namespace Error

/-- The text of an error. -/
def message : Error → String
  | .config text => s!"Configuration error: {text}"
  | .io cause => s!"IO error: {cause.message}"
  | .parse path value =>
    s!"Failed to parse {Text.quoted value} read from {path.text}"
  | .unknownPackage id => s!"Unknown CPU package: {id.toNat}"
  | .permissionDenied text => s!"Permission denied: {text}"

/-- The text of what caused an error, if something beyond it did. -/
def cause? : Error → Option String
  | .io cause => some cause.message
  | _ => none

end Error

end EnergyMeter
