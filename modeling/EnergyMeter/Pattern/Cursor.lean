import EnergyMeter.Pattern.Problem
import EnergyMeter.Text.Blank

/-!
# Going through a pattern

A cursor stands between the characters of a pattern. It knows how many there are
and how many are before it, whether blanks and comments are passed over, and the names that
groups have been given. Readers move it and stop at the first problem.
-/

namespace EnergyMeter.Pattern

/-- A place in a pattern that is being read. -/
structure Cursor where
  /-- The characters of the pattern. -/
  size : Nat
  /-- The characters before the place. -/
  offset : Nat
  /-- The characters behind the place. -/
  rest : List Char
  /-- Whether blanks and comments are passed over. -/
  spaced : Bool
  /-- The names of groups with their places. -/
  names : List (List Char × Span)
  deriving DecidableEq, Repr

namespace Cursor

/-- The place in front of a pattern. -/
def ofText (pattern : List Char) : Cursor :=
  ⟨pattern.length, 0, pattern, false, []⟩

/-- How many characters are behind the place. -/
def left (c : Cursor) : Nat :=
  c.size - c.offset

/-- The place some characters later. -/
def drop (n : Nat) (c : Cursor) : Cursor :=
  { c with offset := c.offset + (c.rest.take n).length, rest := c.rest.drop n }

/-- How many blanks and characters of comments come first. A comment goes from a
number sign to the end of the line. -/
def blankCount (inComment : Bool) : List Char → Nat
  | [] => 0
  | c :: cs =>
    if inComment then 1 + blankCount (c ≠ '\n') cs
    else if Text.isBlank c then 1 + blankCount false cs
    else if c = '#' then 1 + blankCount true cs
    else 0

/-- The place behind the blanks and comments, if they are passed over. -/
def skip (c : Cursor) : Cursor :=
  if c.spaced then c.drop (blankCount false c.rest) else c

/-- The place behind the next character and what is passed over behind it. -/
def step (c : Cursor) : Cursor :=
  (c.drop 1).skip

/-- Takes at most `fuel` characters of a class. -/
def runOn (p : Char → Bool) : Nat → Cursor → List Char × Cursor
  | 0, c => ([], c)
  | n + 1, c =>
    match c.rest with
    | [] => ([], c)
    | d :: _ =>
      if p d then
        let more := runOn p n c.step
        (d :: more.1, more.2)
      else ([], c)

/-- The character behind the next one, where blanks and one number sign count as
nothing if blanks are passed over and something follows them. -/
def peekPast? (c : Cursor) : Option Char :=
  let behind := c.rest.drop 1
  if c.spaced then
    let visible :=
      match behind.dropWhile Text.isBlank with
      | '#' :: comment => comment.dropWhile Text.isBlank
      | cs => cs
    visible.head?.orElse fun _ => behind.head?
  else behind.head?

end Cursor

/-- Reads a part of a pattern. -/
abbrev Reader := StateT Cursor (Except Problem)

namespace Reader

/-- Stops with a problem. -/
def stop {α : Type} (cause : Cause) (span : Span) : Reader α :=
  throw ⟨cause, span, none⟩

/-- Stops with a problem about a repeated thing. -/
def stopRepeated {α : Type} (cause : Cause) (span first : Span) : Reader α :=
  throw ⟨cause, span, some first⟩

/-- The number of characters before the cursor. -/
def here : Reader Nat := return (← get).offset

/-- The number of characters behind the cursor. -/
def left : Reader Nat := return (← get).left

/-- The next character. -/
def peek? : Reader (Option Char) := return (← get).rest.head?

/-- Whether the pattern ends. -/
def atEnd : Reader Bool := return (← get).rest.isEmpty

/-- Goes behind the next character. -/
def bump : Reader Unit := modify (·.drop 1)

/-- Goes behind blanks and comments, if they are passed over. -/
def skip : Reader Unit := modify Cursor.skip

/-- Goes behind the next character, blanks and comments. -/
def step : Reader Unit := modify Cursor.step

/-- The span from an earlier place up to the cursor. -/
def spanFrom (start : Nat) : Reader Span := return ⟨start, ← here⟩

/-- The empty span at the cursor. -/
def emptySpan : Reader Span := do spanFrom (← here)

/-- Takes the longest run of characters of a class. -/
def run (p : Char → Bool) : Reader (List Char) :=
  modifyGet fun c => c.runOn p c.left

/-- Takes given characters, if they come next. -/
def taken (text : String) : Reader Bool := do
  if text.toList.isPrefixOf (← get).rest then
    modify (·.drop text.length)
    return true
  else return false

/-- Stops with a problem where the pattern ends. -/
def more (cause : Cause) (span : Reader Span) : Reader Unit := do
  if ← atEnd then stop cause (← span)

end Reader

end EnergyMeter.Pattern
