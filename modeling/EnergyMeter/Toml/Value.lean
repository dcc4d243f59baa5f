/-!
# TOML values

A document is a table of values. Numbers with a point or an exponent and dates
keep the text that they are written as, since settings never compute with them.
-/

namespace EnergyMeter.Toml

/-- A TOML value. -/
inductive Value where
  /-- A text. -/
  | string (s : String)
  /-- A whole number. -/
  | integer (n : Int)
  /-- A number with a point or an exponent, an infinity, or no number. -/
  | float (literal : String)
  /-- A truth value. -/
  | boolean (b : Bool)
  /-- A date, a time, or both. -/
  | datetime (literal : String)
  /-- A row of values. -/
  | array (items : List Value)
  /-- A table of values, each key once. -/
  | table (pairs : List (String × Value))
  deriving Inhabited

end EnergyMeter.Toml
