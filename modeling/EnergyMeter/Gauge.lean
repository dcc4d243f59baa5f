import EnergyMeter.Decimal.Sign
import EnergyMeter.Sensor

/-!
# Gauges

A gauge follows one cumulative microjoule counter. The kernel's counter starts
again from zero after its largest value, so a gauge keeps the value it saw last
and adds up the steps between readings. What it adds up never carries a minus
sign. Reading the file and booking the value are separate: a reading in flight
may be booked after a later one.
-/

namespace EnergyMeter

open Files

/-- The microjoules between two values of a counter that may have started again
once. The counter takes every value from zero to `range`, so the step from
`range` to zero is itself one microjoule. Without a known range only what was
counted since the start can be told. -/
def countedBetween (last current : UInt64) (range : Option UInt64) : UInt64 :=
  if last ≤ current then current - last
  else
    match range with
    | some top => (if last ≤ top then top - last else 0) + 1 + current
    | none => current

/-- Microjoules as joules. -/
def joulesOf (microjoules : UInt64) : Float :=
  microjoules.toFloat / 1000000

/-- Joules carry no minus sign. -/
theorem signBit_joulesOf (microjoules : UInt64) : signBit (joulesOf microjoules) = false :=
  signBit_div (signBit_toFloat microjoules) (by decide +kernel)

/-- A counter file and what was counted since the gauge started. -/
structure Gauge where
  /-- The file with the current value. -/
  file : Path
  /-- The largest value before the counter starts again, if known. -/
  range : Option UInt64
  /-- The value that was seen last. -/
  last : UInt64
  /-- The joules counted since the start. -/
  total : Float
  /-- What was counted carries no minus sign, not even as a zero. -/
  unsigned : signBit total = false

namespace Gauge

/-- The microjoules that booking a value adds. -/
def step (g : Gauge) (value : UInt64) : UInt64 :=
  countedBetween g.last value g.range

/-- Adds the step to a value and keeps the value. -/
def book (g : Gauge) (value : UInt64) : Gauge :=
  { g with
    last := value
    total := g.total + joulesOf (g.step value)
    unsigned := signBit_add g.unsigned (signBit_joulesOf _) }

/-- Starts again from zero at a value. -/
def restart (g : Gauge) (value : UInt64) : Gauge :=
  { g with last := value, total := 0, unsigned := signBit_zero }

/-- Reads the file and books its value. -/
def read (v : View) (g : Gauge) : Except Error Gauge :=
  match Sensor.count v g.file with
  | .ok value => .ok (g.book value)
  | .error e => .error e

/-- Reads the file and starts again at its value. -/
def reset (v : View) (g : Gauge) : Except Error Gauge :=
  match Sensor.count v g.file with
  | .ok value => .ok (g.restart value)
  | .error e => .error e

/-- A gauge that starts at the current value of a file. -/
def start (v : View) (file : Path) (range : Option UInt64) : Except Error Gauge :=
  match Sensor.count v file with
  | .ok value => .ok ⟨file, range, value, 0, signBit_zero⟩
  | .error e => .error e

end Gauge

end EnergyMeter
