import EnergyMeter.Json.Number
import EnergyMeter.Text.Hex

/-!
# Reading JSON

An object's keys are put into ascending order, and of equal keys the last one
counts.
-/

namespace EnergyMeter.Json

open Text Scan

/-- Takes blanks and line breaks. -/
def space : Reader Unit := do
  let _ ← run fun c => c = ' ' || c = '\t' || c = '\n' || c = '\r'

/-- Takes the second half of a pair of code units behind its first half. -/
def lowHalf (high : Nat) : Reader Char := do
  chars ['\\', 'u']
  let low ← hexNumber 4
  if 0xdc00 ≤ low && low < 0xe000 then
    return Char.ofNat (0x10000 + (high - 0xd800) * 0x400 + (low - 0xdc00))
  else failure

/-- Takes a character given by its code units. -/
def escapedUnit : Reader Char := do
  let n ← hexNumber 4
  if n.isValidChar then return Char.ofNat n
  else if n < 0xdc00 then lowHalf n
  else failure

/-- Takes an escape. -/
def escape : Reader Char := do
  char '\\'
  match ← oneOf fun _ => true with
  | 'b' => return '\x08'
  | 't' => return '\t'
  | 'n' => return '\n'
  | 'f' => return '\x0c'
  | 'r' => return '\r'
  | 'u' => escapedUnit
  | c => if c = '"' || c = '\\' || c = '/' then return c else failure

/-- Takes a text between quotes. -/
def text : Reader String := do
  char '"'
  let cs ← many (oneOf (fun c => c ≠ '"' && c ≠ '\\' && '\x20' ≤ c) <|> escape)
  char '"'
  return String.ofList cs

/-- Takes a value that holds no other. -/
def scalar : Reader Value := do
  match ← peek? with
  | some 'n' => chars "null".toList; return .null
  | some 't' => chars "true".toList; return .boolean true
  | some 'f' => chars "false".toList; return .boolean false
  | some '"' => return .string (← text)
  | _ => number

/-- Puts a value at a key, in ascending order of keys. -/
def putKey (key : String) (v : Value) : List (String × Value) → List (String × Value)
  | [] => [(key, v)]
  | p :: rest =>
    if key < p.1 then (key, v) :: p :: rest
    else if key = p.1 then (key, v) :: rest
    else p :: putKey key v rest

/-- Takes an item with the space around it. -/
def spaced {α : Type} (r : Reader α) : Reader α := do
  space
  let a ← r
  space
  return a

/-- Takes a value that holds others at most `depth` deep. -/
def value : Nat → Reader Value
  | 0 => scalar
  | depth + 1 => do
    match ← peek? with
    | some '[' =>
      char '['
      let items ← separated (spaced (value depth)) (char ',')
      space
      char ']'
      return .array items
    | some '\x7b' =>
      char '\x7b'
      let entry := do
        let key ← spaced text
        char ':'
        return (key, ← spaced (value depth))
      let entries ← separated entry (char ',')
      space
      char '\x7d'
      return .object (entries.foldl (fun ps p => putKey p.1 p.2 ps) [])
    | _ => scalar

/-- Reads a value that fills a text. -/
def parse? (s : String) : Option Value :=
  let cs := s.toList
  match (spaced (value cs.length)) cs with
  | some (v, []) => some v
  | _ => none

end EnergyMeter.Json
