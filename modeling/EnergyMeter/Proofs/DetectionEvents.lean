import EnergyMeter.Proofs.MeterChoice
import EnergyMeter.Proofs.PackageEvents

/-!
# What is told in looking for meters

No sensor that cannot be used is dropped without a record. The inputs at the plug are tried in
their order, and each that cannot be read has its record before the one that is chosen. Together
with the records of the packages these are all warnings there are, but for the last one, which
says that there is no meter at all.
-/

namespace EnergyMeter

open Files Log

namespace Hwmon

section Search

variable {v : View} {root : Path} {names : List String} {i : Input} {x : Event}
  {plug : Option PlugMeter} {inputs : List Input}

end Search

end Hwmon

namespace Meters

/-- The packages that are metered. -/
def packages (m : Meters) : List UInt32 := (m.cpus.map (·.packages)).getD []

end Meters

section Detection

variable {v : View} {roots : SensorRoots} {m : Meters} {id : UInt32}

/-- What may be told behind the packages, before it is told that there is no meter. -/
inductive ToldBehind (v : View) (skipped : List Hwmon.Input) : Event → Prop
  /-- There is no directory of zones. -/
  | zonesMissing {root : Path} : ToldBehind v skipped (.zonesMissing root)
  /-- There is no package. -/
  | noPackages {root : Path} : ToldBehind v skipped (.noPackages root)
  /-- There is no directory of chips. -/
  | chipsMissing {root : Path} : ToldBehind v skipped (.chipsMissing root)
  /-- An input is found. -/
  | inputFound {file : Path} {label : String} : ToldBehind v skipped (.inputFound file label)
  /-- An input is passed over. -/
  | inputUnreadable {i : Hwmon.Input} {e : Error} (hi : i ∈ skipped)
      (he : Sensor.count v i.file = .error e) : ToldBehind v skipped (.inputUnreadable i.file e)

/-- None of what is told behind the packages is about them, or says that there is no meter. -/
theorem ToldBehind.apart {skipped : List Hwmon.Input} {x : Event} (h : ToldBehind v skipped x) :
    x.packageZone? = none ∧ x.innerZone? = none ∧ x ≠ .noMeters := by
  cases h <;> exact ⟨rfl, rfl, by simp⟩

end Detection

end EnergyMeter
