import EnergyMeter.Breakdown

/-!
# Names of gauges

The meter of the CPU packages has a gauge for each component of each package. A
slot names one. Slots are ordered as they are read: by the number of the
package, and in a package from the whole to the memory.
-/

namespace EnergyMeter.Rapl

/-- Names a gauge of the meter. -/
structure Slot where
  /-- The number of the package. -/
  package : UInt32
  /-- What the gauge covers. -/
  component : Component
  deriving DecidableEq, Repr

namespace Slot

/-- Whether a slot is read before another. -/
def Before (a b : Slot) : Prop :=
  a.package < b.package ∨ (a.package = b.package ∧ a.component.rank < b.component.rank)

instance (a b : Slot) : Decidable (a.Before b) :=
  inferInstanceAs (Decidable (_ ∨ _))

/-- Whether slots stand in reading order, each once, and no package is without
the slot of its whole. -/
structure Proper (slots : List Slot) : Prop where
  /-- The slots stand in reading order. -/
  ascending : slots.Pairwise Before
  /-- Every package has a slot for its whole. -/
  rooted : ∀ s ∈ slots, ⟨s.package, .whole⟩ ∈ slots

/-- No slots are proper. -/
theorem Proper.nil : Proper [] :=
  ⟨.nil, fun _ h => absurd h List.not_mem_nil⟩

end Slot

/-- Which slots an operation is about. -/
structure Query where
  /-- Only this package; without one, all of them. -/
  package : Option UInt32
  /-- Only this component; without one, all of them. -/
  component : Option Component
  deriving DecidableEq, Repr

namespace Query

/-- All slots. -/
def everything : Query := ⟨none, none⟩

/-- All components of one package. -/
def packageOf (id : UInt32) : Query := ⟨some id, none⟩

/-- One component of all packages. -/
def across (c : Component) : Query := ⟨none, some c⟩

/-- Whether a slot is meant. -/
def selects (q : Query) (s : Slot) : Bool :=
  (q.package.isNone || q.package == some s.package) &&
    (q.component.isNone || q.component == some s.component)

end Query

end EnergyMeter.Rapl
