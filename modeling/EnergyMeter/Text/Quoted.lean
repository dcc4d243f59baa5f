import EnergyMeter.Text.Extending
import EnergyMeter.Text.Unprintable

/-!
# Quoted text

Messages show a text between double quotes. Double quotes, backslashes and the
common control characters have short escapes, an apostrophe stands as it is; a
character that has no printed form, or that would change the shape of the one
before it, is written by its code point.
-/

namespace EnergyMeter.Text

/-- A character written by its code point, in hexadecimal without padding. -/
def codePoint (c : Char) : List Char :=
  ['\\', 'u', '\x7b'] ++ Nat.toDigits 16 c.toNat ++ ['\x7d']

/-- A character as it stands between the quotes. -/
def quotedChar (c : Char) : List Char :=
  if c = '\x00' then ['\\', '0']
  else if c = '\t' then ['\\', 't']
  else if c = '\r' then ['\\', 'r']
  else if c = '\n' then ['\\', 'n']
  else if c = '\\' || c = '"' then ['\\', c]
  else if isExtending c || isUnprintable c then codePoint c
  else [c]

/-- A text between double quotes. -/
def quoted (s : String) : String :=
  String.ofList ('"' :: s.toList.flatMap quotedChar ++ ['"'])

end EnergyMeter.Text
