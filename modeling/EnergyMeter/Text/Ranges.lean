/-!
# Sets of characters given by ranges

A property of characters is tabulated as ranges of code points, both ends
included. The tables are sorted and their ranges do not touch; the operations
keep them so.
-/

namespace EnergyMeter.Text

/-- Ranges of code points, both ends included. -/
abbrev Ranges := List (Nat × Nat)

namespace Ranges

/-- Whether a code point lies in one of the ranges. -/
def holds (ranges : Ranges) (n : Nat) : Bool :=
  ranges.any fun r => r.1 ≤ n && n ≤ r.2

/-- Whether every range is a range and ends before the next one starts. -/
def ordered : Ranges → Bool
  | [] => true
  | [r] => r.1 ≤ r.2
  | r :: s :: rest => r.1 ≤ r.2 && r.2 + 1 < s.1 && ordered (s :: rest)

/-- Puts one more range in, together with those that it touches. -/
def insert (first last : Nat) : Ranges → Ranges
  | [] => [(first, last)]
  | r :: rest =>
    if last + 1 < r.1 then (first, last) :: r :: rest
    else if r.2 + 1 < first then r :: insert first last rest
    else insert (min first r.1) (max last r.2) rest

/-- The code points in one of two sets. -/
def union (a b : Ranges) : Ranges :=
  b.foldl (fun ranges r => insert r.1 r.2 ranges) a

/-- The code points from `first` up to `last` outside a set. -/
def gaps (first last : Nat) : Ranges → Ranges
  | [] => if first ≤ last then [(first, last)] else []
  | r :: rest =>
    if first < r.1 then (first, r.1 - 1) :: gaps (r.2 + 1) last rest
    else gaps (r.2 + 1) last rest

/-- The code points up to `last` outside a set. -/
def complement (a : Ranges) (last : Nat) : Ranges :=
  gaps 0 last a

/-- The code points up to `last` in both of two sets. -/
def inter (a b : Ranges) (last : Nat) : Ranges :=
  ((a.complement last).union (b.complement last)).complement last

end Ranges

end EnergyMeter.Text
