import EnergyMeter.Decimal.Shortest
import EnergyMeter.Decimal.Rounding

/-!
# The text of an amount

Amounts of energy and power are floating-point numbers. A report writes one
with the fewest digits that read back, positionally and without an exponent, a
whole number without a point. A zero keeps its sign.
-/

namespace EnergyMeter.Amount

/-- Puts a minus sign in front of a text. -/
def signed (negative : Bool) (s : String) : String :=
  if negative then "-" ++ s else s

/-- Writes a number, given how to write one that is finite and above zero. -/
def render (zero : String) (finite : Binary → String) (x : Float) : String :=
  match Magnitude.ofFloat x with
  | .undefined => "NaN"
  | .infinite => signed (signBit x) "inf"
  | .zero => signed (signBit x) zero
  | .finite b => signed (signBit x) (finite b)

/-- The text of an amount. -/
def text (x : Float) : String :=
  render "0" (fun b => (Decimal.shortest .up b).positional) x

/-- The text of an amount rounded to a number of decimal places. -/
def fixedText (places : Nat) (x : Float) : String :=
  render (Decimal.fixedText places 0) (Decimal.fixed places) x

end EnergyMeter.Amount
