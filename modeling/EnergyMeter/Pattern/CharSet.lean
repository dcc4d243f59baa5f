import EnergyMeter.Text.Ranges

/-!
# Sets of characters

A set is given by ranges of code points, whose ends are characters. It also
records whether it is known to stay the same under a change of case: the empty
set and its complement are, and so is what is made of such sets.
-/

namespace EnergyMeter.Pattern

open Text

/-- A set of characters. -/
structure CharSet where
  /-- The characters as ranges of code points. -/
  ranges : Ranges
  /-- Whether a change of case is known to change nothing. -/
  caseless : Bool
  deriving DecidableEq, Repr

namespace CharSet

/-- The largest code point. -/
def lastCode : Nat := 0x10ffff

/-- The first and the last of the code points that are no characters. -/
def surrogates : Nat × Nat := (0xd800, 0xdfff)

/-- The range between two others. Its ends are moved to the next character
inside; where there is none inside, it reaches from one end to the other. -/
def gap (r : Nat × Nat) : Nat × Nat :=
  let first := if r.1 = surrogates.1 then surrogates.2 + 1 else r.1
  let last := if r.2 = surrogates.2 then surrogates.1 - 1 else r.2
  (min first last, max first last)

/-- A range without the code points at its ends that are no characters, if
anything is left. -/
def trimmed? (r : Nat × Nat) : Option (Nat × Nat) :=
  let out (n : Nat) : Bool := surrogates.1 ≤ n && n ≤ surrogates.2
  let first := if out r.1 then surrogates.2 + 1 else r.1
  let last := if out r.2 then surrogates.1 - 1 else r.2
  if first ≤ last then some (first, last) else none

/-- The set without characters. -/
def empty : CharSet := ⟨[], true⟩

/-- The set of all characters. -/
def all : CharSet := ⟨[(0, lastCode)], true⟩

/-- The set with the characters from one to another as well. -/
def add (s : CharSet) (first last : Char) : CharSet :=
  ⟨s.ranges.insert first.toNat last.toNat, false⟩

/-- One character alone. -/
def single (c : Char) : CharSet := empty.add c c

/-- The characters of ranges of code points. -/
def ofRanges (ranges : Ranges) : CharSet := ⟨ranges, false⟩

/-- The characters in one of two sets. -/
def union (a b : CharSet) : CharSet :=
  if b.ranges.isEmpty || a.ranges = b.ranges then a
  else ⟨a.ranges.union b.ranges, a.caseless && b.caseless⟩

/-- The characters in both of two sets. -/
def inter (a b : CharSet) : CharSet :=
  if a.ranges.isEmpty then a
  else if b.ranges.isEmpty then empty
  else ⟨a.ranges.inter b.ranges lastCode, a.caseless && b.caseless⟩

/-- The characters in the first of two sets alone. -/
def diff (a b : CharSet) : CharSet :=
  if a.ranges.isEmpty || b.ranges.isEmpty then a
  else
    let ranges := a.ranges.inter (b.ranges.complement lastCode) lastCode
    ⟨ranges.filterMap trimmed?, a.caseless && b.caseless⟩

/-- The characters in one of two sets alone. -/
def symmDiff (a b : CharSet) : CharSet :=
  (a.union b).diff (a.inter b)

/-- The characters outside a set. -/
def compl (a : CharSet) : CharSet :=
  if a.ranges.isEmpty then all else ⟨(a.ranges.complement lastCode).map gap, a.caseless⟩

/-- The letters of ASCII in the other case. -/
def otherCases (a : CharSet) : Ranges :=
  let small := a.ranges.inter [(0x61, 0x7a)] lastCode
  let capital := a.ranges.inter [(0x41, 0x5a)] lastCode
  small.map (fun r => (r.1 - 0x20, r.2 - 0x20)) ++ capital.map fun r => (r.1 + 0x20, r.2 + 0x20)

/-- The set with the letters of ASCII in both cases. -/
def foldAscii (a : CharSet) : CharSet :=
  if a.caseless then a else ⟨a.ranges.union a.otherCases, true⟩

end CharSet

end EnergyMeter.Pattern
