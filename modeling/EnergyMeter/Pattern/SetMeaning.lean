import EnergyMeter.Pattern.CharSet
import EnergyMeter.Pattern.Form

/-!
# The meaning of sets

Flags decide what a set means. Where characters are meant, properties and
changes of case would need tables beyond ASCII, which there are none of; where
bytes are meant, a set may hold ASCII characters alone, since other bytes are no
text.
-/

namespace EnergyMeter.Pattern

/-- The flags that change what a form means. -/
structure Mode where
  /-- Capital and small letters are alike. -/
  caseless : Bool
  /-- Lines have edges. -/
  lines : Bool
  /-- The dot stands for a line break as well. -/
  dotAll : Bool
  /-- Repetitions are lazy unless they are marked as lazy. -/
  lazy : Bool
  /-- Characters are meant, not bytes. -/
  unicode : Bool
  /-- A line also ends with a carriage return. -/
  returns : Bool
  deriving DecidableEq, Repr

namespace Mode

/-- The flags at the start of a pattern. -/
def standard : Mode := ⟨false, false, false, false, true, false⟩

/-- The flags after one is turned on or off. -/
def set (m : Mode) (flag : Flag) (value : Bool) : Mode :=
  match flag with
  | .caseless => { m with caseless := value }
  | .lines => { m with lines := value }
  | .dotAll => { m with dotAll := value }
  | .unicode => { m with unicode := value }
  | .returns => { m with returns := value }
  | .lazy => { m with lazy := value }
  | .spaced => m

/-- The flags after several are turned on or off. -/
def change (m : Mode) (flags : Flags) : Mode :=
  flags.foldl (fun m f => m.set f.1 f.2) m

end Mode

/-- What stops a form from having a meaning. -/
def refuse {α : Type} (cause : Cause) (span : Span) : Except Problem α :=
  .error ⟨cause, span, none⟩

/-- The character that a literal stands for. -/
def Literal.meaning (m : Mode) (l : Literal) : Except Problem Char :=
  if !m.unicode && l.isByte && 0x80 ≤ l.char.toNat then refuse .invalidText l.span
  else .ok l.char

/-- The character that a literal in a set stands for. -/
def Literal.memberMeaning (m : Mode) (l : Literal) : Except Problem Char := do
  let c ← l.meaning m
  if !m.unicode && 0x80 ≤ c.toNat then refuse .unicodeNotAllowed l.span
  else return c

/-- The code points of the sets with a name in brackets and colons. -/
def AsciiSet.ranges : AsciiSet → Text.Ranges
  | .alnum => [(0x30, 0x39), (0x41, 0x5a), (0x61, 0x7a)]
  | .alpha => [(0x41, 0x5a), (0x61, 0x7a)]
  | .ascii => [(0, 0x7f)]
  | .blank => [(0x9, 0x9), (0x20, 0x20)]
  | .cntrl => [(0, 0x1f), (0x7f, 0x7f)]
  | .digit => [(0x30, 0x39)]
  | .graph => [(0x21, 0x7e)]
  | .lower => [(0x61, 0x7a)]
  | .print => [(0x20, 0x7e)]
  | .punct => [(0x21, 0x2f), (0x3a, 0x40), (0x5b, 0x60), (0x7b, 0x7e)]
  | .space => [(0x9, 0xd), (0x20, 0x20)]
  | .upper => [(0x41, 0x5a)]
  | .word => [(0x30, 0x39), (0x41, 0x5a), (0x5f, 0x5f), (0x61, 0x7a)]
  | .xdigit => [(0x30, 0x39), (0x41, 0x46), (0x61, 0x66)]

/-- The ASCII characters of the sets with a one-letter escape. -/
def ShortSet.ascii : ShortSet → AsciiSet
  | .digit => .digit
  | .space => .space
  | .word => .word

/-- A set after its case is folded, if letters are alike in both cases. -/
def folded (m : Mode) (span : Span) (s : CharSet) : Except Problem CharSet :=
  if !m.caseless then .ok s
  else if !m.unicode then .ok s.foldAscii
  else if s.caseless || s.ranges.isEmpty then .ok { s with caseless := true }
  else refuse .caseUnavailable span

/-- A set, or the characters outside it; bytes outside a set are no text. -/
def signed (m : Mode) (span : Span) (negated : Bool) (s : CharSet) : Except Problem CharSet :=
  if !negated then .ok s
  else if m.unicode then .ok s.compl
  else refuse .invalidText span

/-- A property's name without its case and its marks, and without "is" in front. -/
def plainName (name : List Char) : List Char :=
  let bare := match name with
    | i :: s :: rest => if i.toLower = 'i' && s.toLower = 's' then rest else name
    | _ => name
  let plain := (bare.filter fun c => c ≠ ' ' && c ≠ '_' && c ≠ '-' && c.toNat < 0x80).map
    Char.toLower
  if bare.length < name.length && plain = ['c'] then "isc".toList else plain

/-- The names that are those of a kind of character and never of a property. -/
def kindNames : List (List Char) := ["cf".toList, "sc".toList, "lc".toList]

/-- The set that a name stands for. -/
def NamedSet.meaning (m : Mode) : NamedSet → Except Problem CharSet
  | .short span set negated =>
    if m.unicode then refuse .shortSetUnavailable span
    else signed m span negated (.ofRanges set.ascii.ranges)
  | .property span name valued =>
    if !m.unicode then refuse .unicodeNotAllowed span
    else if !valued && kindNames.contains (plainName name) then
      refuse .propertyValueUnknown span
    else refuse .propertyUnknown span

/-- What an operation makes of two sets. -/
def SetOperation.apply : SetOperation → CharSet → CharSet → CharSet
  | .intersection => CharSet.inter
  | .difference => CharSet.diff
  | .symmetricDifference => CharSet.symmDiff

mutual

/-- The set that a form stands for, put together with a set before it. -/
def SetForm.join (m : Mode) (before : CharSet) : SetForm → Except Problem CharSet
  | .empty _ => .ok before
  | .literal l => do
    let c ← l.memberMeaning m
    return before.add c c
  | .range _ first last => do
    let low ← first.memberMeaning m
    let high ← last.memberMeaning m
    return before.add low high
  | .ascii span set negated => do
    let s ← folded m span (.ofRanges set.ranges)
    return before.union (← signed m span negated s)
  | .named n => do return before.union (← n.meaning m)
  | .bracket span negated inner => do
    let s ← folded m span (← inner.join m .empty)
    return before.union (← signed m span negated s)
  | .union _ parts => SetForm.joinAll m before parts
  | .operation _ o left right => do
    let a ← left.join m .empty
    let b ← right.join m .empty
    let b ← folded m right.span b
    let a ← folded m left.span a
    return before.union (o.apply a b)

/-- The set that several forms stand for together, and with a set before them. -/
def SetForm.joinAll (m : Mode) (before : CharSet) : List SetForm → Except Problem CharSet
  | [] => .ok before
  | part :: parts => do SetForm.joinAll m (← part.join m before) parts

end

/-- The set that a form stands for. -/
def SetForm.meaning (m : Mode) : SetForm → Except Problem CharSet
  | .bracket span negated inner => do
    signed m span negated (← folded m span (← inner.join m .empty))
  | s => s.join m .empty

end EnergyMeter.Pattern
