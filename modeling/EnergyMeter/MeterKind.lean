/-!
# Kinds of meters

A machine may have a meter of its CPU packages and one at its plug. The more
precise one comes first.
-/

namespace EnergyMeter

/-- Where a meter measures. -/
inductive MeterKind where
  /-- At the CPU packages. -/
  | cpus
  /-- For the whole machine. -/
  | plug
  deriving DecidableEq, Repr

namespace MeterKind

/-- The kinds, the most precise one first. -/
def all : List MeterKind := [.cpus, .plug]

/-- The word for a kind. -/
def name : MeterKind → String
  | .cpus => "cpus"
  | .plug => "plug"

/-- The kind that a word stands for. -/
def ofName? (s : String) : Option MeterKind :=
  all.find? (·.name = s)

/-- The place of a kind in the order. -/
def rank : MeterKind → Nat
  | .cpus => 0
  | .plug => 1

/-- Puts the more precise kinds first. -/
def sort (ks : List MeterKind) : List MeterKind :=
  ks.mergeSort fun a b => a.rank ≤ b.rank

end MeterKind

end EnergyMeter
