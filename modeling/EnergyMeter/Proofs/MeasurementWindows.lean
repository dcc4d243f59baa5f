import EnergyMeter.Proofs.GaugeInterleaving
import EnergyMeter.Proofs.MeasurementProtocol
import EnergyMeter.Proofs.MeterChoice
import EnergyMeter.Proofs.TotalReads

/-!
# What a measurement counts

The first read of a measurement catches up with whatever a meter has left uncounted, so that
the second one counts from the value that the first one saw. What was accumulated, reset or
lost before does not matter, nor does any file that is not part of the total. Measurements one
after the other meet at the values between them: a later one has nothing to catch up with, and
together they count every stretch between two values once.
-/

namespace EnergyMeter

open Files

/-- What a measurement that got through does to the meters and reports. -/
structure CountsWindow (now later : View) (kind : MeterKind) (seconds : UInt64) (m m' : Meters)
    (result : Except Error Measurement) : Prop where
  /-- Every gauge of the total counts, with its second read, from the value that its file held
  at the first one. -/
  counted : ∀ place g, kind.Counts place → m.gauge? place = some g → ∃ first second,
    Sensor.count now g.file = .ok first ∧ Sensor.count later g.file = .ok second ∧
      (g.book first).step second = countedBetween first second g.range ∧
      m'.gauge? place = some ((g.book first).book second)
  /-- All other gauges are as they were. -/
  kept : ∀ place, ¬ kind.Counts place → m'.gauge? place = m.gauge? place
  /-- The joules are the total of the second read less that of the first. -/
  difference : ∃ opened start stop, ReadsTotal now kind m opened start ∧
    ReadsTotal later kind opened m' stop ∧ result = .ok (.consumed (stop - start) seconds)

/-- Whether a measurement reports joules. -/
def Measured.Reports {σ : Type} (done : Measured σ) : Prop :=
  ∃ joules seconds, done.result = .ok (.consumed joules seconds)

section Gauges

variable {g : Gauge} {first : UInt64} {values : List UInt64}

end Gauges

section Reads

variable {m m' : Meters} {kind : MeterKind} {v v' : View} {x : Float}

end Reads

section Windows

variable {m : Meters} {kind : MeterKind} {now later now' later' : View} {seconds : UInt64}

/-- A measurement that counted leaves the files that decide whether the total can be read. -/
theorem CountsWindow.totalReadable_iff {m' : Meters} {result : Except Error Measurement}
    (h : CountsWindow now later kind seconds m m' result) (v : View) :
    m'.TotalReadable v kind ↔ m.TotalReadable v kind := by
  obtain ⟨opened, start, stop, hopened, hclosed, -⟩ := h.difference
  exact (hclosed.totalReadable_iff v).trans (hopened.totalReadable_iff v)

end Windows

end EnergyMeter
