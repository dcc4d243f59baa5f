import EnergyMeter.Program.Run

/-!
# The program that reports consumption

It measures the best meter of this machine over ten seconds and prints one
sentence. Without a meter the sentence says so and nothing waits.
-/

namespace EnergyMeter.Consumption

open Files Log

/-- The run behind the wait. -/
def finish (f : Filter) (shown : List String) (kind : MeterKind) (w : Window) (m : Meters)
    (v : View) : Run :=
  let closed := (w.close ⟨kind, Bench.joules kind⟩ ⟨v, m⟩).1
  let shown := shown ++ f.lines closed.events
  match closed.value with
  | .error e => .fail e [] shown [waitSeconds]
  | .ok measurement => .succeed [measurement.text] shown [waitSeconds]

/-- The program on a machine that was found. -/
def measureBest (f : Filter) (shown : List String) (v : View) (m : Meters) : Stage :=
  match m.best? with
  | none => .ended (.succeed [Measurement.unavailable.text] shown [])
  | some kind =>
    match Window.begin ⟨kind, Bench.joules kind⟩ waitSeconds ⟨v, m⟩ with
    | (.error e, _) => .ended (.fail e [] shown [])
    | (.ok w, b) =>
      .waiting (.succeed [] shown [waitSeconds]) waitSeconds (finish f shown kind w b.meters)

/-- The program up to its wait or its end. -/
def start (c : Context) (v : View) : Stage :=
  let f := c.filter "warn"
  let machine := Machine.here v c.environment
  let shown := f.warnings ++ f.lines machine.events
  match machine.value with
  | .error e => .ended (.fail e [] shown [])
  | .ok m => measureBest f shown v m.meters

end EnergyMeter.Consumption
