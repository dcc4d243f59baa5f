import EnergyMeter.Log.Filter
import EnergyMeter.Machine

/-!
# Runs of a program

A program looks at the files, perhaps waits once, and looks at them again. Its
run is what can be seen from outside: the lines on both outputs, the waits and
the exit status. A stage stands for a program that has either ended or waits
for the files as they will be.
-/

namespace EnergyMeter

open Files Log

/-- What a program does as seen from outside. -/
structure Run where
  /-- The exit status. -/
  exit : Nat
  /-- The lines on standard output. -/
  output : List String
  /-- The lines on standard error. -/
  errors : List String
  /-- The seconds of each wait. -/
  waits : List UInt64
  deriving DecidableEq, Repr

/-- A program up to its wait or its end. -/
inductive Stage where
  /-- The program has ended. -/
  | ended (run : Run)
  /-- The program waits; `before` is its run so far, and `after` gives its whole
  run for the files after the wait. -/
  | waiting (before : Run) (seconds : UInt64) (after : View → Run)

/-- The whole run, given the files after a wait. -/
def Stage.run (s : Stage) (later : View) : Run :=
  match s with
  | .ended run => run
  | .waiting _ _ after => after later

namespace Run

/-- The lines that report an error. -/
def errorLines (e : Error) : List String :=
  let message := (Text.splitAt '\n' e.message.toList).map String.ofList
  let first := match message with
    | [] => ["Error: "]
    | l :: rest => ("Error: " ++ l) :: rest
  match e.cause? with
  | none => first
  | some cause => first ++ ["", "Caused by:", "    " ++ cause]

/-- A run that ends well. -/
def succeed (output errors : List String) (waits : List UInt64) : Run :=
  ⟨0, output, errors, waits⟩

/-- A run that ends with an error. -/
def fail (e : Error) (output errors : List String) (waits : List UInt64) : Run :=
  ⟨1, output, errors ++ errorLines e, waits⟩

end Run

/-- What the environment of a program says. -/
structure Context where
  /-- Where the settings are. -/
  environment : Environment
  /-- The log filter, if set. -/
  logFilter : Option String

/-- The filter in force, given the one that holds without a setting. -/
def Context.filter (c : Context) (standard : String) : Filter :=
  Filter.parse (c.logFilter.getD standard)

/-- How long the programs wait. -/
def waitSeconds : UInt64 := 10

end EnergyMeter
