import EnergyMeter.Decimal.Basic
import EnergyMeter.Decimal.Binary

/-!
# Rounding to a fixed number of places

A quotient of naturals is rounded to the nearest natural, a tie to the even
neighbour. Writing a binary number with fixed places rounds its exact value, so
no second rounding happens.
-/

namespace EnergyMeter.Decimal

/-- The natural number nearest to `num / den`; a tie goes to the even one. -/
def roundDiv (num den : Nat) : Nat :=
  let q := num / den
  let twice := 2 * (num % den)
  if den < twice || (twice == den && q % 2 == 1) then q + 1 else q

/-- Joins the characters before and behind the point, keeping end zeros. -/
def fixedText (places digits : Nat) : String :=
  let parts := splitAt places digits
  joinPoint parts.1 parts.2

/-- A binary number rounded to `places` decimal places. -/
def fixed (places : Nat) (b : Binary) : String :=
  fixedText places (roundDiv (b.numerator * Nat.pow 10 places) b.denominator)

end EnergyMeter.Decimal
