import EnergyMeter.Log.Event

/-!
# Measurement windows

A measurement reads a meter, waits, reads it again and reports the difference.
It works on anything that can be read: a state and a way to read it that may
change the state. Without a meter nothing is read and nothing waits; a first
read that fails ends the measurement before the wait.
-/

namespace EnergyMeter

open Log

/-- A meter as a measurement sees it. -/
structure Readable (σ : Type) where
  /-- Where the meter measures. -/
  kind : MeterKind
  /-- Reads the meter's joules. -/
  joules : σ → Except Error Float × σ

/-- The outcome of a measurement. -/
inductive Measurement where
  /-- The joules consumed during some seconds. -/
  | consumed (joules : Float) (seconds : UInt64)
  /-- There is no meter. -/
  | unavailable

/-- The sentence that reports a measurement. -/
def Measurement.text : Measurement → String
  | .consumed joules seconds =>
    s!"Consumed {Amount.text joules} joules in the last {seconds.toNat} seconds."
  | .unavailable => "Energy counters not available."

/-- A measurement between its two reads. -/
structure Window where
  /-- The joules at the first read. -/
  start : Float
  /-- How long the window is. -/
  seconds : UInt64

namespace Window

variable {σ : Type}

/-- Reads the meter for the first time. -/
def begin (r : Readable σ) (seconds : UInt64) (s : σ) : Except Error Window × σ :=
  let first := r.joules s
  (first.1.map fun start => ⟨start, seconds⟩, first.2)

/-- Reads the meter for the second time. -/
def close (w : Window) (r : Readable σ) (s : σ) :
    Logged (Except Error Measurement) × σ :=
  let second := r.joules s
  match second.1 with
  | .error e => (⟨.error e, []⟩, second.2)
  | .ok stop =>
    (⟨.ok (.consumed (stop - w.start) w.seconds), [.windowClosed r.kind w.start stop]⟩,
      second.2)

end Window

/-- Everything that a measurement does. -/
structure Measured (σ : Type) where
  /-- The measurement, or the error of the read that failed. -/
  result : Except Error Measurement
  /-- The seconds waited; none if there was no wait. -/
  waited : Option UInt64
  /-- The events. -/
  events : List Event
  /-- The state left behind. -/
  state : σ

/-- Measures over some seconds. `wait` says what the wait does to the state. -/
def measure {σ : Type} (r : Option (Readable σ)) (seconds : UInt64) (wait : σ → σ) (s : σ) :
    Measured σ :=
  match r with
  | none => ⟨.ok .unavailable, none, [], s⟩
  | some r =>
    match Window.begin r seconds s with
    | (.error e, s') => ⟨.error e, none, [], s'⟩
    | (.ok w, s') =>
      let closed := w.close r (wait s')
      ⟨closed.1.value, some seconds, closed.1.events, closed.2⟩

/-- Measures several times, each time from the state that the last left behind. -/
def measureEach {σ : Type} (r : Option (Readable σ)) (wait : σ → σ) :
    List UInt64 → σ → List (Measured σ)
  | [], _ => []
  | seconds :: rest, s =>
    let done := measure r seconds wait s
    done :: measureEach r wait rest done.state

/-- A meter that gives scripted readings, one at each read, and fails when none
is left. -/
def scripted (kind : MeterKind) : Readable (List (Except Error Float)) where
  kind := kind
  joules
    | [] => (.error (.permissionDenied "no more readings"), [])
    | reading :: rest => (reading, rest)

end EnergyMeter
