import EnergyMeter.Pattern.Escape

/-!
# Sets in brackets

A set holds characters, ranges, named sets and sets of its own, put together or
joined by operations from left to right. A closing bracket at its front and
hyphens at its ends stand for themselves.
-/

namespace EnergyMeter.Pattern

open Reader

/-- The sets of ASCII characters by their names. -/
def asciiSets : List (String × AsciiSet) :=
  [("alnum", .alnum), ("alpha", .alpha), ("ascii", .ascii), ("blank", .blank),
    ("cntrl", .cntrl), ("digit", .digit), ("graph", .graph), ("lower", .lower),
    ("print", .print), ("punct", .punct), ("space", .space), ("upper", .upper),
    ("word", .word), ("xdigit", .xdigit)]

/-- The name that stands between colons at the front of a text. -/
def colonName? (cs : List Char) : Option (List Char) :=
  let name := cs.takeWhile (· ≠ ':')
  if [':', ']'].isPrefixOf (cs.drop name.length) then some name else none

/-- A set of ASCII characters at the front of a text, with its sign and with the
number of characters it is written with. -/
def asciiAhead? : List Char → Option (AsciiSet × Bool × Nat)
  | '[' :: ':' :: cs =>
    let negated := cs.head? = some '^'
    let named := if negated then cs.drop 1 else cs
    match colonName? named with
    | none => none
    | some name =>
      (asciiSets.lookup (String.ofList name)).map fun set =>
        (set, negated, name.length + (if negated then 5 else 4))
  | _ => none

/-- The beginning of a set. -/
structure Opening where
  /-- The place of the beginning. -/
  span : Span
  /-- Whether the characters outside the set are meant. -/
  negated : Bool
  /-- Where the parts start. -/
  inside : Nat
  /-- The characters at the front that stand for themselves. -/
  parts : List SetForm
  deriving Repr

/-- Reads the hyphens at the front of a set that starts at `start`. -/
def hyphens (start : Nat) : Nat → Reader (List SetForm)
  | 0 => return []
  | n + 1 => do
    if (← peek?) = some '-' then
      let place ← here
      step
      more .setUnclosed (return ⟨start, start⟩)
      return .literal ⟨.ofChar place, '-', false⟩ :: (← hyphens start n)
    else return []

/-- Reads the beginning of a set. -/
def opening : Reader Opening := do
  let start ← here
  step
  more .setUnclosed (spanFrom start)
  let negated := (← peek?) = some '^'
  if negated then
    step
    more .setUnclosed (spanFrom start)
  let inside ← here
  let front ← hyphens start (← left)
  if front.isEmpty && (← peek?) = some ']' then
    step
    more .setUnclosed (spanFrom start)
    return ⟨← spanFrom start, negated, inside, [.literal ⟨.ofChar inside, ']', false⟩]⟩
  else return ⟨← spanFrom start, negated, inside, front⟩

/-- Parts put together. -/
def unionOf (inside : Nat) : List SetForm → SetForm
  | [] => .empty ⟨inside, inside⟩
  | [part] => part
  | first :: parts =>
    let stop := ((first :: parts).getLast?.getD first).span.stop
    .union ⟨first.span.start, stop⟩ (first :: parts)

/-- An operation with what stands behind it. -/
def joined (pending : Option (SetOperation × SetForm)) (right : SetForm) : SetForm :=
  match pending with
  | none => right
  | some (operation, left) =>
    .operation ⟨left.span.start, right.span.stop⟩ operation left right

/-- Reads a character or an escape. -/
def setAtom : Reader Atom := do
  match ← peek? with
  | none => stop .setUnclosed (← emptySpan)
  | some '\\' => escape
  | some c =>
    let span := Span.ofChar (← here)
    bump
    return .literal ⟨span, c, false⟩

/-- An atom as a part of a set. -/
def memberOf : Atom → Reader SetForm
  | .literal l => return .literal l
  | .named n => return .named n
  | a => stop .setEscape a.span

/-- An atom as an end of a range. -/
def rangeEndOf : Atom → Reader Literal
  | .literal l => return l
  | a => stop .rangeEnd a.span

/-- Reads a part of a set that starts at `openSpan`: a range, or one atom. -/
def setPart (openSpan : Span) : Reader SetForm := do
  let first ← setAtom
  skip
  more .setUnclosed (return openSpan)
  let behind := (← get).peekPast?
  if (← peek?) ≠ some '-' || behind = some ']' || behind = some '-' then memberOf first
  else
    step
    more .setUnclosed (return openSpan)
    let last ← setAtom
    let span : Span := ⟨first.span.start, last.span.stop⟩
    let low ← rangeEndOf first
    let high ← rangeEndOf last
    if high.char < low.char then stop .rangeReversed span
    return .range span low high

/-- The operation that two equal characters stand for. -/
def operation? : List Char → Option SetOperation
  | '&' :: '&' :: _ => some .intersection
  | '-' :: '-' :: _ => some .difference
  | '~' :: '~' :: _ => some .symmetricDifference
  | _ => none

/-- Reads a set behind its beginning. The parts come with the last one first. The
fuel is at least the number of characters that are left. -/
def setBody (o : Opening) : Nat → Option (SetOperation × SetForm) → Nat → List SetForm →
    Reader SetForm
  | 0, _, _, _ => stop .setUnclosed o.span
  | n + 1, pending, inside, parts => do
    skip
    more .setUnclosed (return o.span)
    let cs := (← get).rest
    if cs.head? = some ']' then
      bump
      let inner := joined pending (unionOf inside parts.reverse)
      return .bracket (← spanFrom o.span.start) o.negated inner
    else if cs.head? = some '[' then
      match asciiAhead? cs with
      | some (set, negated, length) =>
        let start ← here
        modify (·.drop length)
        setBody o n pending inside (.ascii (← spanFrom start) set negated :: parts)
      | none =>
        let inner ← opening
        let nested ← setBody inner n none inner.inside inner.parts.reverse
        setBody o n pending inside (nested :: parts)
    else
      match operation? cs with
      | some operation =>
        modify (·.drop 2)
        let left := joined pending (unionOf inside parts.reverse)
        setBody o n (some (operation, left)) (← here) []
      | none => setBody o n pending inside ((← setPart o.span) :: parts)

/-- Reads a set. -/
def bracket : Reader SetForm := do
  let o ← opening
  setBody o ((← left) + 1) none o.inside o.parts.reverse

end EnergyMeter.Pattern
