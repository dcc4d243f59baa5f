/-!
# The size of machines

An expression is built into a machine that reads a text byte by byte and goes
from state to state. While it is built, the states are counted, for a new state
is known by the number of those before it, and so are the bytes that they take
up. A machine that takes up too many bytes is given up.
-/

namespace EnergyMeter.Pattern

/-- The most bytes that a machine may take up. -/
def sizeLimit : Nat := 10485760

/-- The bytes of a state. -/
def stateSize : Nat := 32

/-- The bytes of a way out of a state for a range of bytes. -/
def rangeSize : Nat := 8

/-- The bytes of a way out of a state for no byte. -/
def exitSize : Nat := 4

/-- What is known of a machine while it is built. -/
structure Machine where
  /-- The number of states. -/
  states : Nat
  /-- The bytes for the ways out of them, where a state may have several. -/
  ways : Nat
  deriving DecidableEq, Repr

namespace Machine

/-- A machine without states. -/
def empty : Machine := ⟨0, 0⟩

/-- The bytes that a machine takes up. -/
def size (m : Machine) : Nat := stateSize * m.states + m.ways

/-- Whether a machine takes up too many bytes. -/
def isTooLarge (m : Machine) : Bool := sizeLimit < m.size

/-- Some more states, each with one way out. -/
def add (n : Nat) (m : Machine) : Machine := { m with states := m.states + n }

/-- One more state with ways out for several ranges of bytes. -/
def addRanges (n : Nat) (m : Machine) : Machine := ⟨m.states + 1, m.ways + n * rangeSize⟩

/-- Some more ways out for no byte. -/
def addExits (n : Nat) (m : Machine) : Machine := { m with ways := m.ways + n * exitSize }

/-- One more state with several ways out for no byte. -/
def addFork (n : Nat) (m : Machine) : Machine := (m.add 1).addExits n

/-- Takes a step a number of times, or until the machine is too large. -/
def times (step : Machine → Machine) : Nat → Machine → Machine
  | 0, m => m
  | n + 1, m => if m.isTooLarge then m else times step n (step m)

end Machine

end EnergyMeter.Pattern
