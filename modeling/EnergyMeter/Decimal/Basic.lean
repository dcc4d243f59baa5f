/-!
# Decimal numbers and their text

A decimal is a natural number of units of a power of ten. Its positional text
has no exponent: zeros fill the places up to the point, and no zero ends the
part behind it. Its exponential text has one digit before the point and the
power of ten of that digit behind it.
-/

namespace EnergyMeter

/-- The number `digits · 10 ^ exponent`. -/
structure Decimal where
  /-- The significant digits, read as one natural number. -/
  digits : Nat
  /-- The power of ten that one unit of `digits` stands for. -/
  exponent : Int
  deriving DecidableEq, Repr

namespace Decimal

/-- The decimal digits of a natural number. -/
def digitChars (n : Nat) : List Char :=
  Nat.toDigits 10 n

/-- The number of decimal digits of a natural number; zero has one. -/
def digitCount (n : Nat) : Nat :=
  (digitChars n).length

/-- The characters without the zeros that end them. -/
def dropEndZeros (cs : List Char) : List Char :=
  (cs.reverse.dropWhile (· == '0')).reverse

/-- Joins the characters before and behind the point; nothing behind it means
no point. -/
def joinPoint (whole fraction : List Char) : String :=
  String.ofList (if fraction.isEmpty then whole else whole ++ '.' :: fraction)

/-- The digits of `digits / 10 ^ places`, split at the point. Zeros are put in
front until one digit stands before the point. -/
def splitAt (places digits : Nat) : List Char × List Char :=
  let ds := digitChars digits
  let padded := List.replicate (places + 1 - ds.length) '0' ++ ds
  (padded.take (padded.length - places), padded.drop (padded.length - places))

/-- The positional text of a decimal. -/
def positional (d : Decimal) : String :=
  match d.exponent with
  | .ofNat e => String.ofList (digitChars (d.digits * Nat.pow 10 e))
  | .negSucc e =>
    let parts := splitAt (e + 1) d.digits
    joinPoint parts.1 (dropEndZeros parts.2)

/-- The power of ten of the first digit. -/
def magnitude (d : Decimal) : Int :=
  d.exponent + digitCount d.digits - 1

/-- An exponent with its sign, the plus included. -/
def exponentText (e : Int) : String :=
  if 0 ≤ e then s!"e+{e}" else s!"e{e}"

/-- The exponential text of a decimal. -/
def exponential (d : Decimal) : String :=
  let ds := digitChars d.digits
  joinPoint (ds.take 1) (dropEndZeros (ds.drop 1)) ++ exponentText d.magnitude

end Decimal

end EnergyMeter
