import EnergyMeter.Toml.Strings
import EnergyMeter.Toml.Value

/-!
# TOML numbers

Whole numbers are decimal, or hexadecimal, octal or binary with a mark in front;
they have to fit 64 bits with a sign. Single underscores may stand between
digits. A number above the finite numbers of the binary64 format is refused.
-/

namespace EnergyMeter.Toml

open Text Scan

/-- Takes digits of a class with single underscores between them. -/
def digitRun (p : Char → Bool) : Reader (List Char) := do
  let first ← oneOf p
  let rest ← many (oneOf p <|> (do char '_'; oneOf p))
  return first :: rest

/-- Takes an optional sign; `true` is a minus. -/
def sign : Reader Bool :=
  (do char '-'; return true) <|> (do char '+'; return false) <|> pure false

/-- Takes decimal digits without a leading zero. -/
def wholeDigits : Reader (List Char) := do
  match ← peek? with
  | some '0' => return [← oneOf Char.isDigit]
  | _ => digitRun Char.isDigit

/-- A whole number, if it fits 64 bits with a sign. -/
def wordSized (n : Int) : Reader Value :=
  if Int64.minValue.toInt ≤ n && n ≤ Int64.maxValue.toInt then return .integer n else failure

/-- Takes a whole number in a base with its mark. -/
def marked (mark : Char) (base : Nat) (p : Char → Bool) : Reader Value := do
  chars ['0', mark]
  wordSized (valueIn base (← digitRun p))

/-- Takes a whole number. -/
def integer : Reader Value :=
  marked 'x' 16 isHex
    <|> marked 'o' 8 (fun c => '0' ≤ c && c ≤ '7')
    <|> marked 'b' 2 (fun c => c = '0' || c = '1')
    <|> (do
      let negative ← sign
      let n : Int := valueIn 10 (← wholeDigits)
      wordSized (if negative then -n else n))

/-- Takes the part behind a point. -/
def fraction : Reader (List Char) := do
  char '.'
  digitRun Char.isDigit

/-- Takes an exponent. -/
def exponent : Reader Int := do
  let _ ← oneOf fun c => c = 'e' || c = 'E'
  let negative ← sign
  let n : Int := valueIn 10 (← digitRun Char.isDigit)
  return if negative then -n else n

/-- The least number that rounds to infinity. -/
def infinityBound : Nat := (Nat.pow 2 54 - 1) * Nat.pow 2 970

/-- Whether `digits · 10 ^ exponent` rounds to infinity. -/
def overflows (digits : List Char) (exponent : Int) : Bool :=
  let significant := digits.dropWhile (· = '0')
  let magnitude := exponent + significant.length
  if significant.isEmpty || magnitude < 308 then false
  else if 310 < magnitude then true
  else
    infinityBound * Nat.pow 10 (-exponent).toNat
      ≤ valueIn 10 significant * Nat.pow 10 exponent.toNat

/-- Takes a number with a point or an exponent. -/
def finiteFloat : Reader Value := do
  let start ← get
  let negative ← sign
  let whole ← wholeDigits
  let (behind, e) ←
    (do let e ← exponent; return (([] : List Char), e))
      <|> (do
        let behind ← fraction
        return (behind, (← option exponent).getD 0))
  if !negative && overflows (whole ++ behind) (e - (behind.length : Int)) then failure
  let rest ← get
  return .float (String.ofList (start.take (start.length - rest.length)))

/-- Takes an infinity or the mark of no number. -/
def specialFloat : Reader Value := do
  let negative ← sign
  let word ← (do chars ['i', 'n', 'f']; return "inf") <|> (do chars ['n', 'a', 'n']; return "nan")
  return .float (if negative then "-" ++ word else word)

/-- Takes a number with a point or an exponent, or a special one. -/
def float : Reader Value := finiteFloat <|> specialFloat

end EnergyMeter.Toml
