import EnergyMeter.Text.Scan

/-!
# Digits in larger bases

Digits behind nine are letters, in either case. The value of a row of digits is
read with the most significant digit first.
-/

namespace EnergyMeter.Text

/-- Whether a character is a hexadecimal digit. -/
def isHex (c : Char) : Bool :=
  c.isDigit || ('a' ≤ c && c ≤ 'f') || ('A' ≤ c && c ≤ 'F')

/-- The value of a hexadecimal digit. -/
def hexValue (c : Char) : Nat :=
  if c.isDigit then c.toNat - '0'.toNat
  else if 'a' ≤ c && c ≤ 'f' then c.toNat - 'a'.toNat + 10
  else c.toNat - 'A'.toNat + 10

/-- The value of digits in a base. -/
def valueIn (base : Nat) (ds : List Char) : Nat :=
  ds.foldl (fun n c => base * n + hexValue c) 0

/-- Takes a fixed number of hexadecimal digits and gives their value. -/
def hexNumber (digits : Nat) : Reader Nat := do
  return valueIn 16 (← Scan.count digits (Scan.oneOf isHex))

/-- The bytes that pairs of hexadecimal digits stand for. -/
def bytesOf? : List Char → Option (List UInt8)
  | [] => some []
  | [_] => none
  | a :: b :: rest =>
    if isHex a && isHex b then
      (bytesOf? rest).map ((16 * hexValue a + hexValue b).toUInt8 :: ·)
    else none

end EnergyMeter.Text
