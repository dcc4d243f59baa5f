import EnergyMeter.Text.Hex
import EnergyMeter.Toml.Layout

/-!
# TOML strings and keys

A string stands between quotes, in which a backslash starts an escape, or
between apostrophes, in which it does not. Three of them open a string that may
span lines; up to two more may stand before the three that close it. A key is a
bare word or a string on one line, and dots join keys into a path.
-/

namespace EnergyMeter.Toml

open Text Scan

/-- The characters other than line breaks that a string may hold as they are. -/
def isTextChar (c : Char) : Bool :=
  c = '\t' || ('\x20' ≤ c && c ≠ '\x7f')

/-- Takes a character given by a fixed number of hexadecimal digits. -/
def codePoint (digits : Nat) : Reader Char := do
  let n ← hexNumber digits
  if n.isValidChar then return Char.ofNat n else failure

/-- Takes an escape. -/
def escape : Reader Char := do
  char '\\'
  match ← oneOf fun _ => true with
  | 'b' => return '\x08'
  | 't' => return '\t'
  | 'n' => return '\n'
  | 'f' => return '\x0c'
  | 'r' => return '\r'
  | '"' => return '"'
  | '\\' => return '\\'
  | 'u' => codePoint 4
  | 'U' => codePoint 8
  | _ => failure

/-- Takes a string between quotes on one line. -/
def basicString : Reader (List Char) := do
  char '"'
  let cs ← many (oneOf (fun c => isTextChar c && c ≠ '"' && c ≠ '\\') <|> escape)
  char '"'
  return cs

/-- Takes a string between apostrophes on one line. -/
def literalString : Reader (List Char) := do
  char '\''
  let cs ← run fun c => isTextChar c && c ≠ '\''
  char '\''
  return cs

/-- Takes a backslash at the end of a line and all blanks and breaks behind it. -/
def continuation : Reader Unit := do
  char '\\'
  blanks
  newline
  let _ ← many ((do let _ ← oneOf fun c => c = ' ' || c = '\t') <|> newline)

/-- Takes one piece of a string between three quotes. -/
def longBasicPiece : Reader (List Char) :=
  (do return [← oneOf fun c => isTextChar c && c ≠ '"' && c ≠ '\\'])
    <|> (do continuation; return [])
    <|> (do return [← escape])
    <|> (do newline; return ['\n'])

/-- Takes one piece of a string between three apostrophes. -/
def longLiteralPiece : Reader (List Char) :=
  (do return [← oneOf fun c => isTextChar c && c ≠ '\''])
    <|> (do newline; return ['\n'])

/-- Takes one or two quotes with something given behind them. -/
def looseQuotes {α : Type} (quote : Char) (behind : Reader α) : Reader (List Char) :=
  (do chars [quote, quote]; ahead behind; return [quote, quote])
    <|> (do char quote; ahead behind; return [quote])

/-- Takes a string that may span lines, given its quote and its pieces. A line
break right behind the opening quotes is left out. -/
def longString (quote : Char) (piece : Reader (List Char)) : Reader (List Char) := do
  let fence := chars [quote, quote, quote]
  fence
  let _ ← option newline
  let body ← many (piece <|> looseQuotes quote piece)
  let last ← option (looseQuotes quote fence)
  fence
  return body.flatten ++ last.getD []

/-- Takes a string of any form. -/
def string : Reader String := do
  let cs ← longString '"' longBasicPiece <|> basicString
    <|> longString '\'' longLiteralPiece <|> literalString
  return String.ofList cs

/-- The characters of a bare key. -/
def isBareChar (c : Char) : Bool :=
  c.isAlphanum || c = '-' || c = '_'

/-- Takes one key. -/
def simpleKey : Reader String := do
  let cs ← basicString <|> literalString <|> runSome isBareChar
  return String.ofList cs

/-- How many keys a path may have at most. -/
def pathLimit : Nat := 79

/-- Takes a path of keys with dots between them. -/
def keyPath : Reader (List String) := do
  let part := do blanks; let k ← simpleKey; blanks; return k
  let ks ← separated part (char '.')
  if ks.isEmpty || pathLimit < ks.length then failure else return ks

end EnergyMeter.Toml
