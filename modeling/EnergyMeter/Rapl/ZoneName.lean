import EnergyMeter.Text.Numeral
import EnergyMeter.Text.Split

/-!
# Names of power zones

The kernel names the zone of a CPU package `intel-rapl:N` and a zone inside it
`intel-rapl:N:M`. Both numbers are numerals below `2^32`; every other name is
not a zone.
-/

namespace EnergyMeter.Rapl

/-- What a zone's name says. -/
inductive ZoneName where
  /-- A package's own zone. -/
  | package (id : UInt32)
  /-- A zone inside a package. -/
  | inner (id : UInt32) (zone : UInt32)
  deriving DecidableEq, Repr

namespace ZoneName

/-- What every zone's name starts with. -/
def head : List Char := "intel-rapl:".toList

/-- The text behind a given beginning. -/
def after? : List Char → List Char → Option (List Char)
  | [], cs => some cs
  | _ :: _, [] => none
  | h :: hs, c :: cs => if h = c then after? hs cs else none

/-- The zone that numerals between colons name. -/
def ofParts? : List (List Char) → Option ZoneName
  | [n] => (Text.Numeral.word32? n).map .package
  | [n, m] =>
    match Text.Numeral.word32? n, Text.Numeral.word32? m with
    | some id, some zone => some (.inner id zone)
    | _, _ => none
  | _ => none

/-- Reads a zone's name. -/
def parse? (s : String) : Option ZoneName :=
  match after? head s.toList with
  | some rest => ofParts? (Text.splitAt ':' rest)
  | none => none

/-- The name that the kernel gives a zone. -/
def format : ZoneName → String
  | .package id => s!"intel-rapl:{id.toNat}"
  | .inner id zone => s!"intel-rapl:{id.toNat}:{zone.toNat}"

/-- Whether a name is that of a package's own zone. -/
def isPackageOf (id : UInt32) (s : String) : Bool :=
  parse? s == some (.package id)

/-- Whether a name is that of a zone inside a package. -/
def isInsideOf (id : UInt32) (s : String) : Bool :=
  match parse? s with
  | some (.inner n _) => n == id
  | _ => false

/-- Whether a name is that of a zone inside any package. -/
def isInside (s : String) : Bool :=
  match parse? s with
  | some (.inner _ _) => true
  | _ => false

end ZoneName

end EnergyMeter.Rapl
