import EnergyMeter.Breakdown
import EnergyMeter.Json.Value
import EnergyMeter.MeterKind

/-!
# Decoding breakdowns and kinds of meters

A breakdown is an object with its four amounts, other keys being passed over,
or a row of exactly the four amounts. A kind of meter is a word, or an object
whose single key is the word and whose value is null.
-/

namespace EnergyMeter.Json

/-- Decodes an amount. -/
def decodeAmount : Value → Except DecodeError Float
  | .integer n => .ok (Float.ofInt n)
  | .float x => .ok x
  | v => .error (.invalidType v "f64")

/-- The keys of the amounts in the order in which they are declared. -/
def amountKeys : List String := ["cpu", "cores", "graphic", "dram"]

/-- Checks the amounts among an object's values in the order of its keys. -/
def checkAmounts : List (String × Value) → Except DecodeError Unit
  | [] => .ok ()
  | (k, v) :: rest =>
    if amountKeys.contains k then
      match decodeAmount v with
      | .error e => .error e
      | .ok _ => checkAmounts rest
    else checkAmounts rest

/-- The amount at a key. -/
def amountAt (pairs : List (String × Value)) (key : String) : Except DecodeError Float :=
  match pairs.lookup key with
  | none => .error (.missingField key)
  | some v => decodeAmount v

/-- Decodes the amounts of a row, up to the fourth. -/
def decodeRow (items : List Value) : Except DecodeError (List Float) :=
  (items.take 4).mapM decodeAmount

/-- Decodes a breakdown. -/
def decodeBreakdown : Value → Except DecodeError Breakdown
  | .object pairs => do
    checkAmounts pairs
    return ⟨← amountAt pairs "cpu", ← amountAt pairs "cores", ← amountAt pairs "graphic",
      ← amountAt pairs "dram"⟩
  | .array items => do
    match ← decodeRow items with
    | [cpu, cores, graphic, dram] =>
      if items.length = 4 then return ⟨cpu, cores, graphic, dram⟩
      else .error (.invalidLength items.length "fewer elements in array")
    | _ => .error (.invalidLength items.length "struct JoulesCpu with 4 elements")
  | v => .error (.invalidType v "struct JoulesCpu")

/-- Decodes the word for a kind of meter. -/
def decodeWord (word : String) : Except DecodeError MeterKind :=
  match MeterKind.ofName? word with
  | some kind => .ok kind
  | none => .error (.unknownWord word (MeterKind.all.map MeterKind.name))

/-- Decodes a kind of meter. -/
def decodeMeterKind : Value → Except DecodeError MeterKind
  | .string word => decodeWord word
  | .object [(word, v)] =>
    match decodeWord word, v with
    | .error e, _ => .error e
    | .ok kind, .null => .ok kind
    | .ok _, v => .error (.invalidType v "unit")
  | .object pairs => .error (.invalidValue (.object pairs) "map with a single key")
  | v => .error (.invalidType v "string or map")

end EnergyMeter.Json
