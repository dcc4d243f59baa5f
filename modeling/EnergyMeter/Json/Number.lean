import EnergyMeter.Json.Value
import EnergyMeter.Text.Numeral
import EnergyMeter.Text.Scan

/-!
# Reading JSON numbers

A number without a point and an exponent is whole if it fits 64 bits. Every
other number, and a zero with a sign, is a floating-point number: those of its
digits that fit 64 bits together make a whole number, and one multiplication or
division by a power of ten follows. Both steps round, so the result may lie next
to the nearest number instead.
-/

namespace EnergyMeter.Json

open Text Scan

/-- Appends digits to a number as long as it stays below `2^64`; gives the
number and the digits that are left. -/
def appendDigits (n : Nat) : List Char → Nat × List Char
  | [] => (n, [])
  | c :: rest =>
    let next := 10 * n + Numeral.digitValue c
    if next < UInt64.size then appendDigits next rest else (n, c :: rest)

/-- The largest power of ten that is a finite number. -/
def greatestPower : Nat := 308

/-- A power of ten. -/
def powerOfTen (n : Nat) : Float :=
  Float.ofScientific 1 false n

/-- A number divided by a power of ten, in steps that are powers themselves. -/
def divided (x : Float) (power : Nat) : Float :=
  if power ≤ greatestPower || x == 0 then x / powerOfTen (min power greatestPower)
  else divided (x / powerOfTen greatestPower) (power - greatestPower)
termination_by power
decreasing_by
  have h : 0 < greatestPower := by decide
  simp only [Bool.or_eq_true, decide_eq_true_eq, not_or] at *
  omega

/-- A number multiplied by a power of ten, if the product is finite. -/
def multiplied? (x : Float) (power : Nat) : Option Float :=
  if x == 0 then some x
  else if greatestPower < power then none
  else
    let product := x * powerOfTen power
    if product.isInf then none else some product

/-- The number `significand · 10 ^ exponent`, if it is finite. -/
def scaled? (significand : Nat) (exponent : Int) : Option Float :=
  let x := significand.toUInt64.toFloat
  if 0 ≤ exponent then multiplied? x exponent.toNat
  else some (divided x exponent.natAbs)

/-- Takes an exponent. -/
def exponent : Reader Int := do
  let _ ← oneOf fun c => c = 'e' || c = 'E'
  let negative ← (do char '-'; return true) <|> (do char '+'; return false) <|> pure false
  let n : Int := Numeral.digitsValue (← runSome Char.isDigit)
  return if negative then -n else n

/-- Takes the digits before the point; a zero stands alone. -/
def wholeDigits : Reader (List Char) := do
  let digits ← runSome Char.isDigit
  if digits.head? = some '0' && 1 < digits.length then failure
  return digits

/-- The least and the greatest whole number. -/
def isWhole (n : Int) : Bool :=
  Int64.minValue.toInt ≤ n && n < UInt64.size

/-- Takes a number. Digits before the point that do not fit count as powers of
ten, and those behind it not at all. -/
def number : Reader Value := do
  let negative := (← option (char '-')).isSome
  let (whole, surplus) := appendDigits 0 (← wholeDigits)
  let behind := (← option (do char '.'; runSome Char.isDigit)).getD []
  let e ← option exponent
  let signed : Int := if negative then -whole else whole
  if surplus.isEmpty && behind.isEmpty && e.isNone && isWhole signed &&
      !(negative && whole = 0) then
    return .integer signed
  else
    let (significand, unread) := appendDigits whole behind
    let places := behind.length - unread.length
    let power : Int := surplus.length - places + e.getD 0
    match scaled? significand power with
    | some x => return .float (if negative then -x else x)
    | none => failure

end EnergyMeter.Json
