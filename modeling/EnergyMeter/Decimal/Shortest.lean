import EnergyMeter.Decimal.Basic
import EnergyMeter.Decimal.Binary

/-!
# The shortest decimal that reads back

The reals that round to a binary number form an interval around it; its ends
belong to it when the mantissa is even. The shortest decimal is searched on
grids of one, two, up to seventeen significant digits. On each grid only the
two neighbours of the number can be nearest, and the first grid with a
neighbour inside the interval gives the digits: the nearer one, and on a tie the
one that the tie rule chooses.
-/

namespace EnergyMeter.Decimal

/-- The choice between two decimals that are equally near. -/
inductive Tie where
  /-- The larger one. -/
  | up
  /-- The one whose last digit is even. -/
  | even
  deriving DecidableEq, Repr

/-- The neighbour that a tie goes to, given the lower one. -/
def Tie.choose (below : Nat) : Tie → Nat
  | .up => below + 1
  | .even => if below % 2 = 0 then below else below + 1

/-- A binary number and the interval that rounds to it, measured in a common
unit on one decimal grid. -/
structure GridView where
  /-- The distance between two points of the grid. -/
  step : Nat
  /-- The number itself. -/
  center : Nat
  /-- The lower end of the interval. -/
  lower : Nat
  /-- The upper end of the interval. -/
  upper : Nat
  /-- Whether the two ends round to the number as well. -/
  closed : Bool
  deriving DecidableEq, Repr

/-- Puts a binary number on the grid of multiples of `10 ^ exponent`. The unit
is a quarter of the last binary place, so that all ends are whole. -/
def GridView.ofBinary (b : Binary) (exponent : Int) : GridView :=
  let quarter := b.exponent - 2
  let step := Nat.pow 10 exponent.toNat * Nat.pow 2 (-quarter).toNat
  let unit := Nat.pow 2 quarter.toNat * Nat.pow 10 (-exponent).toNat
  { step := step
    center := 4 * b.mantissa * unit
    lower := (4 * b.mantissa - (if b.narrowBelow then 1 else 2)) * unit
    upper := (4 * b.mantissa + 2) * unit
    closed := b.mantissa % 2 = 0 }

/-- Whether a point rounds to the number. -/
def GridView.holds (g : GridView) (point : Nat) : Bool :=
  if g.closed then g.lower ≤ point && point ≤ g.upper
  else g.lower < point && point < g.upper

/-- The nearest grid point that rounds to the number, counted in steps. -/
def GridView.nearest? (tie : Tie) (g : GridView) : Option Nat :=
  let below := g.center / g.step
  let above := below + 1
  let gapBelow := g.center - below * g.step
  let gapAbove := above * g.step - g.center
  match g.holds (below * g.step), g.holds (above * g.step) with
  | true, true =>
    if gapBelow < gapAbove then some below
    else if gapAbove < gapBelow then some above
    else some (tie.choose below)
  | true, false => some below
  | false, true => some above
  | false, false => none

/-- The power of ten of a positive number's first significant digit. -/
def leadingExponent (b : Binary) : Int :=
  let n := b.numerator
  let d := b.denominator
  if d ≤ n then (digitCount (n / d) : Int) - 1
  else -(digitCount ((d + n - 1) / n - 1) : Int)

/-- The shortest decimal that reads back as the number, the nearest of those. -/
def shortest (tie : Tie) (b : Binary) : Decimal :=
  let first := leadingExponent b
  let grids := (List.range 17).map fun n : Nat => first - (n : Int)
  (grids.findSome? fun e => ((GridView.ofBinary b e).nearest? tie).map fun d => ⟨d, e⟩).getD
    ⟨b.mantissa, 0⟩

end EnergyMeter.Decimal
