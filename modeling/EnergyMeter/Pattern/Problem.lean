/-!
# What can be wrong with a pattern

A problem has a cause with one wording and a place in the pattern. A thing that
may stand once only and is repeated has a second place, that of its first use.
-/

namespace EnergyMeter.Pattern

/-- A part of a pattern, given by how many characters stand before its ends. -/
structure Span where
  /-- The characters before the part. -/
  start : Nat
  /-- The characters before the end of the part. -/
  stop : Nat
  deriving DecidableEq, Repr

/-- The span of one character. -/
def Span.ofChar (offset : Nat) : Span :=
  ⟨offset, offset + 1⟩

/-- Why a pattern is refused. -/
inductive Cause where
  /-- A group is not closed. -/
  | groupUnclosed
  /-- A closing parenthesis closes nothing. -/
  | groupUnopened
  /-- A group looks ahead or behind. -/
  | lookAround
  /-- A group's name is empty. -/
  | nameEmpty
  /-- A group's name has a character that names do not have. -/
  | nameInvalid
  /-- A group's name does not end. -/
  | nameUnclosed
  /-- Two groups have one name. -/
  | nameRepeated
  /-- A letter is no flag. -/
  | flagUnknown
  /-- A flag stands twice. -/
  | flagRepeated
  /-- The sign that turns flags off stands twice. -/
  | negationRepeated
  /-- The sign that turns flags off has no flag behind it. -/
  | negationDangling
  /-- The flags do not end. -/
  | flagsUnclosed
  /-- There is nothing to repeat. -/
  | repetitionMissing
  /-- A repetition has no number. -/
  | countEmpty
  /-- A repetition's numbers do not end. -/
  | countUnclosed
  /-- A repetition's first number is the larger one. -/
  | countReversed
  /-- A number is too large. -/
  | numberInvalid
  /-- The pattern ends inside an escape. -/
  | escapeUnfinished
  /-- An escape has no meaning. -/
  | escapeUnknown
  /-- An escape names an earlier group. -/
  | backreference
  /-- A code point has no digits. -/
  | hexEmpty
  /-- A code point is that of no character. -/
  | hexInvalid
  /-- A character is no hexadecimal digit. -/
  | hexDigit
  /-- A word edge has another name than the known ones. -/
  | edgeUnknown
  /-- A word edge's name does not end. -/
  | edgeUnclosed
  /-- The pattern ends where a word edge's name or a number is expected. -/
  | edgeUnfinished
  /-- A property has no name. -/
  | propertyInvalid
  /-- A set is not closed. -/
  | setUnclosed
  /-- An escape stands for no characters of a set. -/
  | setEscape
  /-- A range's first character is the larger one. -/
  | rangeReversed
  /-- A range has an end that is no character. -/
  | rangeEnd
  /-- Groups, sets and repetitions are nested too deep. -/
  | nestedTooDeep
  /-- A character outside ASCII stands where bytes are meant. -/
  | unicodeNotAllowed
  /-- Bytes that are no text would be accepted. -/
  | invalidText
  /-- There is no property of that name. -/
  | propertyUnknown
  /-- There is no value of that name. -/
  | propertyValueUnknown
  /-- There are no digits, blanks and word characters beyond ASCII. -/
  | shortSetUnavailable
  /-- There is no change of case beyond ASCII. -/
  | caseUnavailable
  deriving DecidableEq, Repr

/-- How deep groups, sets and repetitions may be nested. -/
def nestingLimit : Nat := 250

/-- The wording of a cause. -/
def Cause.message : Cause → String
  | .groupUnclosed => "unclosed group"
  | .groupUnopened => "unopened group"
  | .lookAround => "look-around, including look-ahead and look-behind, is not supported"
  | .nameEmpty => "empty capture group name"
  | .nameInvalid => "invalid capture group character"
  | .nameUnclosed => "unclosed capture group name"
  | .nameRepeated => "duplicate capture group name"
  | .flagUnknown => "unrecognized flag"
  | .flagRepeated => "duplicate flag"
  | .negationRepeated => "flag negation operator repeated"
  | .negationDangling => "dangling flag negation operator"
  | .flagsUnclosed => "expected flag but got end of regex"
  | .repetitionMissing => "repetition operator missing expression"
  | .countEmpty => "repetition quantifier expects a valid decimal"
  | .countUnclosed => "unclosed counted repetition"
  | .countReversed => "invalid repetition count range, the start must be <= the end"
  | .numberInvalid => "decimal literal invalid"
  | .escapeUnfinished => "incomplete escape sequence, reached end of pattern prematurely"
  | .escapeUnknown => "unrecognized escape sequence"
  | .backreference => "backreferences are not supported"
  | .hexEmpty => "hexadecimal literal empty"
  | .hexInvalid => "hexadecimal literal is not a Unicode scalar value"
  | .hexDigit => "invalid hexadecimal digit"
  | .edgeUnknown =>
    "unrecognized special word boundary assertion, " ++
      "valid choices are: start, end, start-half or end-half"
  | .edgeUnclosed =>
    "special word boundary assertion is either unclosed or contains an invalid character"
  | .edgeUnfinished =>
    "found either the beginning of a special word boundary or a bounded repetition " ++
      "on a \\b with an opening brace, but no closing brace"
  | .propertyInvalid => "invalid Unicode character class"
  | .setUnclosed => "unclosed character class"
  | .setEscape => "invalid escape sequence found in character class"
  | .rangeReversed => "invalid character class range, the start must be <= the end"
  | .rangeEnd => "invalid range boundary, must be a literal"
  | .nestedTooDeep => s!"exceed the maximum number of nested parentheses/brackets ({nestingLimit})"
  | .unicodeNotAllowed => "Unicode not allowed here"
  | .invalidText => "pattern can match invalid UTF-8"
  | .propertyUnknown => "Unicode property not found"
  | .propertyValueUnknown => "Unicode property value not found"
  | .shortSetUnavailable =>
    "Unicode-aware Perl class not found (make sure the unicode-perl feature is enabled)"
  | .caseUnavailable =>
    "Unicode-aware case insensitivity matching is not available " ++
      "(make sure the unicode-case feature is enabled)"

/-- A cause at a place. -/
structure Problem where
  /-- What is wrong. -/
  cause : Cause
  /-- Where it is. -/
  span : Span
  /-- Where a repeated thing stands first. -/
  first : Option Span
  deriving DecidableEq, Repr

end EnergyMeter.Pattern
