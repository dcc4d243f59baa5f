import EnergyMeter.Json.Value

/-!
# Writing JSON

A value is written without blanks. In a text, quotes, backslashes and control
characters are escaped and all else stands as it is.
-/

namespace EnergyMeter.Json

/-- A control character by its code unit of four digits. -/
def controlCode (c : Char) : List Char :=
  let digits := Nat.toDigits 16 c.toNat
  ['\\', 'u'] ++ List.replicate (4 - digits.length) '0' ++ digits

/-- A character as it stands between quotes. -/
def writtenChar (c : Char) : List Char :=
  if c = '"' || c = '\\' then ['\\', c]
  else if c < '\x20' then controlCode c
  else [c]

/-- A text between quotes. -/
def writeText (s : String) : String :=
  String.ofList ('"' :: s.toList.flatMap writtenChar ++ ['"'])

/-- A number, or null for one that is not finite. -/
def writeFloat (x : Float) : String :=
  match Magnitude.ofFloat x with
  | .zero | .finite _ => numberText x
  | _ => "null"

mutual

/-- Writes a value. -/
def write : Value → String
  | .null => "null"
  | .boolean b => toString b
  | .integer n => toString n
  | .float x => writeFloat x
  | .string s => writeText s
  | .array items => "[" ++ ",".intercalate (writeItems items) ++ "]"
  | .object pairs => "\x7b" ++ ",".intercalate (writePairs pairs) ++ "\x7d"

/-- Writes the values of a row. -/
def writeItems : List Value → List String
  | [] => []
  | v :: rest => write v :: writeItems rest

/-- Writes the entries of an object. -/
def writePairs : List (String × Value) → List String
  | [] => []
  | (k, v) :: rest => (writeText k ++ ":" ++ write v) :: writePairs rest

end

end EnergyMeter.Json
