import EnergyMeter.Amount
import EnergyMeter.Text.Quoted

/-!
# JSON values

Breakdowns and kinds of meters are exchanged as JSON. A value of the wrong form
is described in an error by its type and, where it is a simple one, itself.
-/

namespace EnergyMeter.Json

/-- A JSON value. -/
inductive Value where
  /-- The null value. -/
  | null
  /-- A truth value. -/
  | boolean (b : Bool)
  /-- A whole number. -/
  | integer (n : Int)
  /-- A number with a point or an exponent. -/
  | float (x : Float)
  /-- A text. -/
  | string (s : String)
  /-- A row of values. -/
  | array (items : List Value)
  /-- An object; its keys are in ascending order. -/
  | object (pairs : List (String × Value))
  deriving Inhabited

/-- Whether a number whose first digit has this power of ten is written
positionally. -/
def isPositional (magnitude : Int) : Bool :=
  -5 ≤ magnitude && magnitude ≤ 15

/-- A decimal as a JSON number: with a digit behind the point, or with an
exponent if its positional text would be long. -/
def decimalText (d : Decimal) : String :=
  if isPositional d.magnitude then
    let s := d.positional
    if s.toList.contains '.' then s else s ++ ".0"
  else d.exponential

/-- A floating-point number with the fewest digits that read back; a tie goes to
the even last digit. -/
def numberText (x : Float) : String :=
  Amount.render "0.0" (fun b => decimalText (Decimal.shortest .even b)) x

/-- The description of a value in an error. -/
def Value.describe : Value → String
  | .null => "null"
  | .boolean b => s!"boolean \x60{b}\x60"
  | .integer n => s!"integer \x60{n}\x60"
  | .float x => s!"floating point \x60{numberText x}\x60"
  | .string s => s!"string {Text.quoted s}"
  | .array _ => "sequence"
  | .object _ => "map"

/-- Why a value could not be decoded. -/
inductive DecodeError where
  /-- The value has another type than is expected. -/
  | invalidType (found : Value) (expected : String)
  /-- The value has the type but not the form that is expected. -/
  | invalidValue (found : Value) (expected : String)
  /-- A row has the wrong number of values. -/
  | invalidLength (length : Nat) (expected : String)
  /-- An object lacks a key. -/
  | missingField (name : String)
  /-- A word is none of those that are expected. -/
  | unknownWord (word : String) (expected : List String)

/-- The text of an error. -/
def DecodeError.message : DecodeError → String
  | .invalidType found expected => s!"invalid type: {found.describe}, expected {expected}"
  | .invalidValue found expected => s!"invalid value: {found.describe}, expected {expected}"
  | .invalidLength length expected => s!"invalid length {length}, expected {expected}"
  | .missingField name => s!"missing field \x60{name}\x60"
  | .unknownWord word expected =>
    let choices := " or ".intercalate (expected.map fun w => s!"\x60{w}\x60")
    s!"unknown variant \x60{word}\x60, expected {choices}"

end EnergyMeter.Json
