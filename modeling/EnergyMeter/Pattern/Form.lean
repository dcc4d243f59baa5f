import EnergyMeter.Pattern.Problem

/-!
# The form of a pattern

A pattern as it is written: characters, the dot, sets, edges, groups,
repetitions and flags. Forms keep their places as far as a later check may have
to name them.
-/

namespace EnergyMeter.Pattern

/-- A character that stands for itself. -/
structure Literal where
  /-- Where it is written. -/
  span : Span
  /-- The character. -/
  char : Char
  /-- Whether it is written as a byte of two hexadecimal digits. -/
  isByte : Bool
  deriving DecidableEq, Repr

/-- The sets with a one-letter escape. -/
inductive ShortSet where
  /-- Digits. -/
  | digit
  /-- Blanks. -/
  | space
  /-- Letters, digits and the low line. -/
  | word
  deriving DecidableEq, Repr

/-- A set with a name. -/
inductive NamedSet where
  /-- A set with a one-letter escape, or the characters outside it. -/
  | short (span : Span) (set : ShortSet) (negated : Bool)
  /-- A property of characters, by name alone or by name and value. -/
  | property (span : Span) (name : List Char) (valued : Bool)
  deriving DecidableEq, Repr

/-- The place of a named set. -/
def NamedSet.span : NamedSet → Span
  | .short span .. | .property span .. => span

/-- An edge of a word. -/
inductive WordEdge where
  /-- A word starts or ends. -/
  | boundary
  /-- No word starts or ends. -/
  | none
  /-- A word starts. -/
  | start
  /-- A word ends. -/
  | stop
  /-- No word character stands before. -/
  | startHalf
  /-- No word character stands behind. -/
  | stopHalf
  deriving DecidableEq, Repr

/-- A condition on a place. -/
inductive Edge where
  /-- A line starts, or the text. -/
  | lineStart
  /-- A line ends, or the text. -/
  | lineStop
  /-- The text starts. -/
  | textStart
  /-- The text ends. -/
  | textStop
  /-- An edge of a word. -/
  | word (edge : WordEdge)
  deriving DecidableEq, Repr

/-- A form without parts. -/
inductive Atom where
  /-- A character. -/
  | literal (l : Literal)
  /-- The dot. -/
  | dot (span : Span)
  /-- A condition on a place. -/
  | edge (span : Span) (edge : Edge)
  /-- A set with a name. -/
  | named (n : NamedSet)
  deriving DecidableEq, Repr

/-- The place of an atom. -/
def Atom.span : Atom → Span
  | .literal l => l.span
  | .dot span | .edge span _ => span
  | .named n => n.span

/-- The sets of ASCII characters that have a name in brackets and colons. -/
inductive AsciiSet where
  /-- Letters and digits. -/
  | alnum
  /-- Letters. -/
  | alpha
  /-- All of ASCII. -/
  | ascii
  /-- The space and the tab. -/
  | blank
  /-- Control characters. -/
  | cntrl
  /-- Digits. -/
  | digit
  /-- Visible characters. -/
  | graph
  /-- Small letters. -/
  | lower
  /-- Visible characters and the space. -/
  | print
  /-- Marks that are no letters and no digits. -/
  | punct
  /-- Blanks and line breaks. -/
  | space
  /-- Capital letters. -/
  | upper
  /-- Letters, digits and the low line. -/
  | word
  /-- Hexadecimal digits. -/
  | xdigit
  deriving DecidableEq, Repr

/-- The operations between sets. -/
inductive SetOperation where
  /-- The characters in both sets. -/
  | intersection
  /-- The characters in the first set alone. -/
  | difference
  /-- The characters in one of the sets alone. -/
  | symmetricDifference
  deriving DecidableEq, Repr

/-- What stands in a set. -/
inductive SetForm where
  /-- Nothing. -/
  | empty (span : Span)
  /-- A character. -/
  | literal (l : Literal)
  /-- The characters from one to another. -/
  | range (span : Span) (first last : Literal)
  /-- A set of ASCII characters, or the characters outside it. -/
  | ascii (span : Span) (set : AsciiSet) (negated : Bool)
  /-- A set with a name. -/
  | named (n : NamedSet)
  /-- A set in brackets, or the characters outside it. -/
  | bracket (span : Span) (negated : Bool) (inner : SetForm)
  /-- Several parts together. -/
  | union (span : Span) (parts : List SetForm)
  /-- An operation between two sets. -/
  | operation (span : Span) (operation : SetOperation) (left right : SetForm)
  deriving Repr

/-- The place of what stands in a set. -/
def SetForm.span : SetForm → Span
  | .literal l => l.span
  | .named n => n.span
  | .empty span | .range span .. | .ascii span .. | .bracket span .. | .union span _
  | .operation span .. => span

/-- A way of reading what follows. -/
inductive Flag where
  /-- Capital and small letters are alike. -/
  | caseless
  /-- Lines have edges. -/
  | lines
  /-- The dot stands for a line break as well. -/
  | dotAll
  /-- Repetitions are lazy. -/
  | lazy
  /-- Characters are meant, not bytes. -/
  | unicode
  /-- A line also ends with a carriage return. -/
  | returns
  /-- Blanks and comments are passed over. -/
  | spaced
  deriving DecidableEq, Repr

/-- Flags that are turned on or off. -/
abbrev Flags := List (Flag × Bool)

/-- A pattern or a part of one. -/
inductive Form where
  /-- Nothing. -/
  | empty
  /-- Flags for what follows in the group. -/
  | flags (change : Flags)
  /-- A form without parts. -/
  | atom (a : Atom)
  /-- A set in brackets. -/
  | set (s : SetForm)
  /-- A form from `least` up to `most` times, and whether it is marked as lazy. -/
  | repeated (span : Span) (form : Form) (least : Nat) (most : Option Nat) (isLazy : Bool)
  /-- A group with its own flags; its text may be kept. -/
  | group (span : Span) (kept : Bool) (change : Flags) (form : Form)
  /-- One of several forms. -/
  | alternation (span : Span) (branches : List Form)
  /-- Forms one behind the other. -/
  | sequence (span : Span) (forms : List Form)
  deriving Repr

/-- Where a form starts that may be repeated. -/
def Form.start : Form → Nat
  | .empty | .flags _ => 0
  | .atom a => a.span.start
  | .set s => s.span.start
  | .repeated span .. | .group span .. | .alternation span _ | .sequence span _ => span.start

end EnergyMeter.Pattern
