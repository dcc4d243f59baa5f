import EnergyMeter.Meters
import EnergyMeter.Toml.Reader

/-!
# Settings

The settings say where the kernel shows its sensors. They come from a TOML file
in the user's configuration directory; without a file there the kernel's own
directories are used. Each directory is set on its own: one that is not given
keeps its standard value, whatever the other is. Keys without a meaning are
passed over.
-/

namespace EnergyMeter

open Files Log

/-- The settings of the meter. -/
structure Settings where
  /-- The directories of the sensors. -/
  roots : SensorRoots
  deriving DecidableEq, Repr

/-- What the system says about the user's home directory. -/
structure Home where
  /-- The directory that the process environment names. -/
  named : Option String
  /-- The directory of the user's account. -/
  account : Option String
  deriving DecidableEq, Repr

/-- A name alone stands for a home directory without an account. -/
instance : Coe (Option String) Home := ⟨fun named => ⟨named, none⟩⟩

/-- The home directory: the one that is named, or that of the account if none is. An empty text
stands for none. -/
def Home.directory? (h : Home) : Option String :=
  (h.named.filter (· ≠ "")).or (h.account.filter (· ≠ ""))

/-- What the system says about where settings are. -/
structure Environment where
  /-- The home directory. -/
  home : Home
  /-- The directory of configuration files, if set. -/
  configHome : Option String
  deriving DecidableEq, Repr

namespace Settings

/-- The settings without a file. -/
def standard : Settings := ⟨SensorRoots.standard⟩

/-- The error for a text that gives no settings. -/
def invalid : Error := .config "Failed to parse config"

/-- A directory given by a value, or its standard if no value is given. -/
def root? (given : Option Toml.Value) (standard : Path) : Option Path :=
  match given with
  | none => some standard
  | some (.string s) => some ⟨s⟩
  | some _ => none

/-- The directories given by two values, the powercap one first. -/
def rootsOf? (powercap hwmon : Option Toml.Value) : Option SensorRoots :=
  match root? powercap SensorRoots.standard.powercap, root? hwmon SensorRoots.standard.hwmon with
  | some p, some h => some ⟨p, h⟩
  | _, _ => none

/-- The directories that the value of `sysfs` gives. A table names them and an
array lists them in order; a date is a table without a key that has a meaning. -/
def decodeRoots? : Option Toml.Value → Option SensorRoots
  | none => some SensorRoots.standard
  | some (.table pairs) => rootsOf? (pairs.lookup "powercap_root") (pairs.lookup "hwmon_root")
  | some (.array items) => rootsOf? items[0]? items[1]?
  | some (.datetime _) => rootsOf? none none
  | some _ => none

/-- The settings that a document's table gives. -/
def decode? (document : List (String × Toml.Value)) : Option Settings :=
  (decodeRoots? (document.lookup "sysfs")).map Settings.mk

/-- The document that states settings in full. -/
def encode (s : Settings) : List (String × Toml.Value) :=
  [("sysfs", .table
    [("powercap_root", .string s.roots.powercap.text),
      ("hwmon_root", .string s.roots.hwmon.text)])]

/-- Reads settings from TOML text. -/
def ofToml (text : String) : Except Error Settings :=
  match (Toml.parse? text).bind decode? with
  | some s => .ok s
  | none => .error invalid

/-- The directory of configuration files: the one that the environment names if
its path is absolute, else `.config` in the home directory. -/
def directory? (env : Environment) : Option Path :=
  match env.configHome.filter fun s => Path.isAbsolute ⟨s⟩ with
  | some s => some ⟨s⟩
  | none => env.home.directory?.map fun home => Path.join ⟨home⟩ ".config"

/-- The file that settings are read from. -/
def file (env : Environment) : Except Error Path :=
  match directory? env with
  | some d => .ok ((d.join "joulemeter").join "config.toml")
  | none => .error (.config "Could not determine config directory")

/-- Reads the settings from their file; without one they are the standard. -/
def load (v : View) (env : Environment) : Logged (Except Error Settings) :=
  match file env with
  | .error e => ⟨.error e, []⟩
  | .ok p =>
    if v.leadsTo p then
      match v.text p with
      | .error fault => ⟨.error (.io fault), []⟩
      | .ok text => ⟨ofToml text, []⟩
    else
      ⟨.ok standard, [.settingsMissing p]⟩

end Settings

end EnergyMeter
