/-!
# Finite binary numbers

A 64-bit floating-point number is taken apart into its sign and, when it is
finite, the exact rational number `mantissa · 2 ^ exponent`. The functions that
write numbers work on that rational number in natural arithmetic alone.
-/

namespace EnergyMeter

/-- A positive number `mantissa · 2 ^ exponent` of the binary64 format. -/
structure Binary where
  /-- The significand as a natural number. -/
  mantissa : Nat
  /-- The power of two that one unit of the mantissa stands for. -/
  exponent : Int
  /-- Whether the next smaller number of the format is only half a unit away:
  the mantissa is a power of two above the smallest exponent. -/
  narrowBelow : Bool
  deriving DecidableEq, Repr

/-- The magnitude of a binary64 number. -/
inductive Magnitude where
  /-- Zero. -/
  | zero
  /-- A finite number above zero. -/
  | finite (b : Binary)
  /-- Larger than every finite number. -/
  | infinite
  /-- No number at all. -/
  | undefined
  deriving DecidableEq, Repr

namespace Binary

/-- The numerator of the number as a quotient of naturals. -/
def numerator (b : Binary) : Nat :=
  b.mantissa * Nat.pow 2 b.exponent.toNat

/-- The denominator of the number as a quotient of naturals. -/
def denominator (b : Binary) : Nat :=
  Nat.pow 2 (-b.exponent).toNat

end Binary

namespace Magnitude

/-- The magnitude with the given exponent field and fraction field. -/
def ofFields (exponent fraction : Nat) : Magnitude :=
  if exponent = 2047 then
    if fraction = 0 then .infinite else .undefined
  else if exponent = 0 then
    if fraction = 0 then .zero else .finite ⟨fraction, -1074, false⟩
  else
    .finite ⟨Nat.pow 2 52 + fraction, (exponent : Int) - 1075, fraction = 0 && 1 < exponent⟩

/-- The magnitude of a floating-point number. -/
def ofFloat (x : Float) : Magnitude :=
  let bits := x.toBits.toNat
  ofFields (bits / Nat.pow 2 52 % Nat.pow 2 11) (bits % Nat.pow 2 52)

end Magnitude

/-- Whether the sign bit of a floating-point number is set. -/
def signBit (x : Float) : Bool :=
  x.toBits.toNat / Nat.pow 2 63 = 1

end EnergyMeter
