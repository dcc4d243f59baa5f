import EnergyMeter.Pattern.Cursor
import EnergyMeter.Pattern.Form
import EnergyMeter.Text.Hex

/-!
# Escapes

A backslash takes the meaning from a character that has one and gives one to a
letter: a control character, a code point, a named set or an edge. Digits are
refused, since they would name an earlier group.
-/

namespace EnergyMeter.Pattern

open Reader

/-- The characters with a meaning of their own. -/
def metaChars : List Char := "\\.+*?()|[]\x7b\x7d^$#&-~".toList

/-- Whether a backslash before a character gives the character. -/
def standsForItself (c : Char) : Bool :=
  metaChars.contains c || (c.toNat < 0x80 && !c.isAlphanum && c ≠ '<' && c ≠ '>')

/-- The control characters with a one-letter escape. -/
def controlChar? : Char → Option Char
  | 'a' => some '\x07'
  | 'f' => some '\x0c'
  | 't' => some '\t'
  | 'n' => some '\n'
  | 'r' => some '\r'
  | 'v' => some '\x0b'
  | _ => none

/-- The edges with a one-letter escape. -/
def edge? : Char → Option Edge
  | 'A' => some .textStart
  | 'z' => some .textStop
  | 'b' => some (.word .boundary)
  | 'B' => some (.word .none)
  | '<' => some (.word .start)
  | '>' => some (.word .stop)
  | _ => none

/-- The sets with a one-letter escape; a capital letter means the others. -/
def shortSet? : Char → Option (ShortSet × Bool)
  | 'd' => some (.digit, false)
  | 'D' => some (.digit, true)
  | 's' => some (.space, false)
  | 'S' => some (.space, true)
  | 'w' => some (.word, false)
  | 'W' => some (.word, true)
  | _ => none

/-- The edges of words with a name in braces. -/
def wordEdge? (name : List Char) : Option WordEdge :=
  [("start", WordEdge.start), ("end", .stop), ("start-half", .startHalf),
    ("end-half", .stopHalf)].lookup (String.ofList name)

/-- The character of a code point given by digits. -/
def charOfHex? (digits : List Char) : Option Char :=
  let n := Text.valueIn 16 digits
  if n.isValidChar then some (Char.ofNat n) else none

/-- Reads a number of hexadecimal digits. -/
def hexDigits : Nat → Reader (List Char)
  | 0 => return []
  | n + 1 => do
    match ← peek? with
    | none => stop .escapeUnfinished (← emptySpan)
    | some c =>
      if !Text.isHex c then stop .hexDigit (.ofChar (← here))
      step
      return c :: (← hexDigits n)

/-- Reads a code point given by a fixed number of digits. -/
def fixedCode (digits : Nat) : Reader Char := do
  let start ← here
  let ds ← hexDigits digits
  match charOfHex? ds with
  | some c => return c
  | none => stop .hexInvalid (← spanFrom start)

/-- Reads a code point in braces. -/
def bracedCode : Reader Char := do
  let brace ← here
  step
  let ds ← run Text.isHex
  match ← peek? with
  | none => stop .escapeUnfinished (← spanFrom brace)
  | some '\x7d' =>
    let digits : Span := ⟨brace + 1, ← here⟩
    step
    if ds.isEmpty then stop .hexEmpty (← spanFrom brace)
    match charOfHex? ds with
    | some c => return c
    | none => stop .hexInvalid digits
  | some _ => stop .hexDigit (.ofChar (← here))

/-- Reads a code point behind its letter, `start` being the backslash. -/
def code (start digits : Nat) : Reader Atom := do
  step
  more .escapeUnfinished emptySpan
  let braced := (← peek?) = some '\x7b'
  let c ← if braced then bracedCode else fixedCode digits
  return .literal ⟨← spanFrom start, c, !braced && digits = 2⟩

/-- Reads a property behind its letter, `start` being the backslash. -/
def property (start : Nat) : Reader Atom := do
  step
  more .escapeUnfinished emptySpan
  match ← peek? with
  | some '\x7b' =>
    step
    let name ← run (· ≠ '\x7d')
    more .escapeUnfinished emptySpan
    bump
    let valued := name.contains ':' || name.contains '='
    return .named (.property (← spanFrom start) name valued)
  | some '\\' => stop .propertyInvalid (.ofChar (← here))
  | c =>
    step
    return .named (.property (← spanFrom start) c.toList false)

/-- Reads the name in braces that the edge of a word may have. What is no name is
left for a repetition. -/
def namedEdge (start : Nat) : Reader (Option WordEdge) := do
  let before ← get
  let isNameChar (c : Char) : Bool := c.isAlpha || c = '-'
  step
  more .edgeUnfinished (spanFrom start)
  let first ← here
  let name ← run isNameChar
  if name.isEmpty then
    set before
    return none
  else if (← peek?) ≠ some '\x7d' then stop .edgeUnclosed (← spanFrom before.offset)
  else
    let named ← spanFrom first
    bump
    match wordEdge? name with
    | some edge => return some edge
    | none => stop .edgeUnknown named

/-- Reads an escape with one letter behind it. -/
def letterEscape (start : Nat) (c : Char) : Reader Atom := do
  bump
  let span ← spanFrom start
  if standsForItself c then return .literal ⟨span, c, false⟩
  else
    match controlChar? c, edge? c with
    | some d, _ => return .literal ⟨span, d, false⟩
    | none, some edge =>
      let named ←
        if c = 'b' && (← peek?) = some '\x7b' then namedEdge start else pure none
      match named with
      | some word => return .edge (← spanFrom start) (.word word)
      | none => return .edge span edge
    | none, none => stop .escapeUnknown span

/-- Reads an escape. -/
def escape : Reader Atom := do
  let start ← here
  bump
  match ← peek? with
  | none => stop .escapeUnfinished (← spanFrom start)
  | some 'x' => code start 2
  | some 'u' => code start 4
  | some 'U' => code start 8
  | some 'p' | some 'P' => property start
  | some c =>
    if c.isDigit then
      stop .backreference ⟨start, (← here) + 1⟩
    else
      match shortSet? c with
      | some (kind, negated) =>
        bump
        return .named (.short (← spanFrom start) kind negated)
      | none => letterEscape start c

end EnergyMeter.Pattern
