/-!
# Unsigned decimal numerals

A numeral is an optional plus sign and one or more ASCII digits; leading zeros
change nothing. Reading takes the bound below which the value has to stay, so
one rule serves sensor values (below `2^64`) and zone numbers (below `2^32`).
-/

namespace EnergyMeter.Text.Numeral

/-- The value of an ASCII digit. -/
def digitValue (c : Char) : Nat :=
  c.toNat - '0'.toNat

/-- The value of a row of digits, the most significant first. -/
def digitsValue (cs : List Char) : Nat :=
  cs.foldl (fun n c => 10 * n + digitValue c) 0

/-- A numeral's digits: the text without its optional plus sign. -/
def unsigned : List Char → List Char
  | '+' :: r => r
  | cs => cs

/-- Whether a text is one or more ASCII digits. -/
def isDigits (cs : List Char) : Bool :=
  !cs.isEmpty && cs.all Char.isDigit

/-- The value of a numeral below `bound`; nothing for any other text. -/
def value? (bound : Nat) (cs : List Char) : Option Nat :=
  let ds := unsigned cs
  if isDigits ds && digitsValue ds < bound then some (digitsValue ds) else none

/-- Reads a numeral below `2^64`. -/
def word64? (s : String) : Option UInt64 :=
  (value? UInt64.size s.toList).map UInt64.ofNat

/-- Reads a numeral below `2^32`. -/
def word32? (cs : List Char) : Option UInt32 :=
  (value? UInt32.size cs).map UInt32.ofNat

end EnergyMeter.Text.Numeral
