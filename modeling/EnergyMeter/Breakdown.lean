import EnergyMeter.Amount

/-!
# Joules by component

A CPU package counts its energy as a whole and, where the hardware can, that of
its cores, its graphics unit and its memory. A breakdown holds the four
amounts; sums, differences and multiples are taken component by component.
-/

namespace EnergyMeter

/-- What a counter of a CPU package covers. -/
inductive Component where
  /-- The package as a whole. -/
  | whole
  /-- The cores. -/
  | cores
  /-- The graphics unit. -/
  | graphic
  /-- The memory. -/
  | dram
  deriving DecidableEq, Repr

/-- The components in the order in which they are read. -/
def Component.all : List Component :=
  [.whole, .cores, .graphic, .dram]

/-- The place of a component in that order. -/
def Component.rank : Component → Nat
  | .whole => 0
  | .cores => 1
  | .graphic => 2
  | .dram => 3

/-- Joules, or watts, by component. -/
structure Breakdown where
  /-- The package as a whole. -/
  cpu : Float
  /-- The cores. -/
  cores : Float
  /-- The graphics unit. -/
  graphic : Float
  /-- The memory. -/
  dram : Float
  deriving BEq

namespace Breakdown

/-- Nothing in any component. -/
def zero : Breakdown := ⟨0, 0, 0, 0⟩

/-- The amount of one component. -/
def amount (b : Breakdown) : Component → Float
  | .whole => b.cpu
  | .cores => b.cores
  | .graphic => b.graphic
  | .dram => b.dram

/-- The breakdown with an amount added to one component. -/
def addTo (b : Breakdown) (c : Component) (x : Float) : Breakdown :=
  match c with
  | .whole => { b with cpu := b.cpu + x }
  | .cores => { b with cores := b.cores + x }
  | .graphic => { b with graphic := b.graphic + x }
  | .dram => { b with dram := b.dram + x }

/-- Joins two breakdowns component by component. -/
def combine (f : Float → Float → Float) (a b : Breakdown) : Breakdown :=
  ⟨f a.cpu b.cpu, f a.cores b.cores, f a.graphic b.graphic, f a.dram b.dram⟩

/-- Changes each component. -/
def map (f : Float → Float) (b : Breakdown) : Breakdown :=
  ⟨f b.cpu, f b.cores, f b.graphic, f b.dram⟩

instance : Add Breakdown := ⟨combine (· + ·)⟩

instance : Sub Breakdown := ⟨combine (· - ·)⟩

instance : HMul Breakdown Float Breakdown := ⟨fun b x => b.map (· * x)⟩

/-- Dividing joules by seconds gives average watts. -/
instance : HDiv Breakdown Float Breakdown := ⟨fun b x => b.map (· / x)⟩

/-- The four amounts, each followed by a tab. -/
def text (b : Breakdown) : String :=
  String.join ([b.cpu, b.cores, b.graphic, b.dram].map fun x => Amount.text x ++ "\t")

end Breakdown

end EnergyMeter
