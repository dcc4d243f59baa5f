import EnergyMeter.Pattern.ByteRange
import EnergyMeter.Pattern.Machine

/-!
# Machines for sets

A set of ASCII characters takes one state that reads a byte and one behind it.
Other characters are read in several bytes. A state from which the same can be
read as from an earlier one is not added again, as far as the earlier one is
recalled: states are filed in slots by their description, and a slot holds the
last state that was put there.
-/

namespace EnergyMeter.Pattern

open Text

/-- The description of a state: its ways out, number by number. -/
abbrev StateKey := List Nat

/-- States that may be used again, by slot, with their descriptions. The last
state put into a slot comes first. -/
structure Archive where
  /-- The number of slots. -/
  slots : Nat
  /-- The states. -/
  entries : List (Nat × StateKey × Nat)
  deriving DecidableEq, Repr

/-- An archive without states. -/
def Archive.empty (slots : Nat) : Archive := ⟨slots, []⟩

/-- The slot of a state, by a product over the numbers of its description. -/
def Archive.slot (a : Archive) (key : StateKey) : Nat :=
  let spread (h : UInt64) (n : Nat) : UInt64 := (h ^^^ n.toUInt64) * 1099511628211
  (key.foldl spread 14695981039346656037).toNat % a.slots

/-- The state with a description, if its slot still holds it. -/
def Archive.recall? (a : Archive) (key : StateKey) : Option Nat :=
  match a.entries.lookup (a.slot key) with
  | some (k, state) => if k = key then some state else none
  | none => none

/-- Puts a state into its slot. -/
def Archive.file (a : Archive) (key : StateKey) (state : Nat) : Archive :=
  { a with entries := (a.slot key, key, state) :: a.entries }

/-- A machine for a set while it is built. -/
structure SetMachine where
  /-- The machine. -/
  machine : Machine
  /-- The states that may be used again. -/
  archive : Archive
  deriving DecidableEq, Repr

namespace SetMachine

/-- Finds a state or adds it. -/
def obtain (key : StateKey) (add : Machine → Machine) (s : SetMachine) : Nat × SetMachine :=
  match s.archive.recall? key with
  | some state => (state, s)
  | none =>
    let state := s.machine.states
    (state, ⟨add s.machine, s.archive.file key state⟩)

/-- A state that reads rows of ranges of bytes and comes to the state `goal`,
with the states behind it. Rows next to each other that start alike share their
beginning. -/
def readRows (goal : Nat) : Nat → List (List ByteRange) → SetMachine → Nat × SetMachine
  | 0, _, s => (goal, s)
  | depth + 1, rows, s =>
    let groups := (rows.filter (· ≠ [])).splitBy fun a b => a.head? = b.head?
    if groups.isEmpty then (goal, s)
    else
      let read (before : StateKey × SetMachine) (group : List (List ByteRange)) :
          StateKey × SetMachine :=
        let (first, last) := (group.head?.bind List.head?).getD (0, 0)
        let (next, s) := readRows goal depth (group.map List.tail) before.2
        (before.1 ++ [first, last, next], s)
      let (key, s) := groups.foldl read ([], s)
      s.obtain key (·.addRanges groups.length)

/-- States that read a row of ranges of bytes from its end and come from the
state `origin`. -/
def readBack (origin : Nat) (row : List ByteRange) (s : SetMachine) : SetMachine :=
  (row.foldl (fun (state, s) (first, last) =>
    s.obtain [state, first, last] (·.add 1)) (origin, s)).2

end SetMachine

/-- The most bytes of a character. -/
def longestChar : Nat := 4

/-- A machine with states that read a character of a set. -/
def Machine.addSet (set : Ranges) (m : Machine) : Machine :=
  if set.all (·.2 < 0x80) then (m.add 1).addRanges set.length
  else
    let start := SetMachine.mk (m.add 1) (.empty 10000)
    (start.readRows m.states longestChar (byteRows set)).2.machine

/-- A machine with states that read a character of a set from its last byte. -/
def Machine.addSetBack (set : Ranges) (m : Machine) : Machine :=
  if set.all (·.2 < 0x80) then (m.add 1).addRanges set.length
  else
    let rows := byteRows set
    let start := SetMachine.mk ((m.addFork rows.length).add 1) (.empty 1000)
    (rows.foldl (fun s row => s.readBack (m.states + 1) row) start).machine

end EnergyMeter.Pattern
