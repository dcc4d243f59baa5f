/-!
# Severities and sources

What a program says about its work has a severity and comes from a part of the
program. A filter knows both: severities by their rank, sources by their names.
-/

namespace EnergyMeter.Log

/-- How important an event is. -/
inductive Severity where
  /-- Something failed. -/
  | error
  /-- A sensor is left out. -/
  | warn
  /-- A sensor is found, or none is there. -/
  | info
  /-- A detail of the work. -/
  | debug
  /-- A detail of the finest kind. -/
  | trace
  deriving DecidableEq, Repr

/-- The place among the severities, the most important one lowest. -/
def Severity.rank : Severity → Nat
  | .error => 1
  | .warn => 2
  | .info => 3
  | .debug => 4
  | .trace => 5

/-- The word for a severity. -/
def Severity.word : Severity → String
  | .error => "ERROR"
  | .warn => "WARN"
  | .info => "INFO"
  | .debug => "DEBUG"
  | .trace => "TRACE"

/-- The part of the program that an event comes from. -/
inductive Source where
  /-- Finding and reading sensors. -/
  | sensors
  /-- The choice among meters. -/
  | meters
  /-- The settings. -/
  | settings
  /-- The machine as a whole. -/
  | machine
  /-- Measurement windows. -/
  | report
  /-- The program that reports components. -/
  | components
  deriving DecidableEq, Repr

/-- The name that a filter knows a source by. -/
def Source.name : Source → String
  | .sensors => "joulemeter_lib::energy::linux"
  | .meters => "joulemeter_lib::energy"
  | .settings => "joulemeter_lib::core::config"
  | .machine => "joulemeter_lib::machine"
  | .report => "joulemeter_lib::report"
  | .components => "joulemeter_components"

end EnergyMeter.Log
