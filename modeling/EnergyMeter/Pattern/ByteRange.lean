import EnergyMeter.Text.Ranges

/-!
# Ranges of characters as bytes

Characters are written in one to four bytes. A range of characters is cut into
pieces in such a way that the bytes of a piece can be chosen each for itself,
from a range of bytes for each place.
-/

namespace EnergyMeter.Pattern

open Text

/-- A range of bytes, both ends included. -/
abbrev ByteRange := Nat × Nat

/-- The bytes of the character with a code point. -/
def bytesOf (code : Nat) : List Nat :=
  (String.utf8EncodeChar (Char.ofNat code)).map UInt8.toNat

/-- The last code points with one, two and three bytes. -/
def lengthEnds : List Nat := [0x7f, 0x7ff, 0xffff]

/-- How many characters there are with the same bytes but the last one, the last
two and the last three. -/
def blockSizes : List Nat := [0x40, 0x1000, 0x40000]

/-- Where a range is cut that has to do with several blocks and does not begin
with the first character of a block or does not end with the last one. -/
def blockCut? (first last size : Nat) : Option Nat :=
  if first / size = last / size then none
  else if first % size ≠ 0 then some ((first / size + 1) * size - 1)
  else if last % size ≠ size - 1 then some (last / size * size - 1)
  else none

/-- The last code point of the first part where a range is cut next. -/
def cut? (first last : Nat) : Option Nat :=
  let blockCuts := if last < 0x80 then [] else blockSizes.filterMap (blockCut? first last)
  (lengthEnds ++ blockCuts).find? fun cut => first ≤ cut && cut < last

/-- A cut leaves something of a range on both sides. -/
theorem cut?_bounds {first last cut : Nat} (h : cut? first last = some cut) :
    first ≤ cut ∧ cut < last := by
  have h := List.find?_some h
  simpa using h

/-- The pieces of a range of characters. -/
def pieces (first last : Nat) : Ranges :=
  match _h : cut? first last with
  | none => [(first, last)]
  | some cut => pieces first cut ++ pieces (cut + 1) last
termination_by last - first
decreasing_by
  all_goals
    have h := cut?_bounds ‹cut? first last = some cut›
    omega

/-- The parts of a range before and behind the code points that are no
characters. -/
def charParts (r : Nat × Nat) : Ranges :=
  if r.1 < 0xe000 && 0xd7ff < r.2 then
    [(r.1, 0xd7ff), (0xe000, r.2)].filter fun p => p.1 ≤ p.2
  else [r]

/-- The ranges of bytes, place by place, for each piece of a set. -/
def byteRows (set : Ranges) : List (List ByteRange) :=
  ((set.flatMap charParts).flatMap fun r => pieces r.1 r.2).map fun p =>
    (bytesOf p.1).zip (bytesOf p.2)

end EnergyMeter.Pattern
