import EnergyMeter.Pattern.Problem
import EnergyMeter.Text.Split

/-!
# Showing where a problem is

A notice shows the pattern, with carets under the places of the problem, and
then the wording of its cause. The lines of a pattern of several lines are
numbered, and a place that reaches over a line break is told in words.
-/

namespace EnergyMeter.Pattern

/-- The line and the column of a place, both counted from zero. -/
structure Place where
  /-- The line breaks before the place. -/
  line : Nat
  /-- The characters before the place in its line. -/
  column : Nat
  deriving DecidableEq, Repr

/-- The place behind a number of characters. -/
def Place.ofOffset (pattern : List Char) (offset : Nat) : Place :=
  let before := pattern.take offset
  ⟨before.count '\n', (before.reverse.takeWhile (· ≠ '\n')).length⟩

/-- A line without the carriage return that may end it. -/
def dropReturn (line : List Char) : List Char :=
  if line.getLast? = some '\r' then line.dropLast else line

/-- The lines as they are shown; an empty one at the end is not. -/
def shownLines (pattern : List Char) : List (List Char) :=
  let parts := Text.splitAt '\n' pattern
  parts.dropLast.map dropReturn ++ (parts.drop (parts.length - 1)).filter (· ≠ [])

/-- Carets from `column` on under the given columns. An empty span has one. -/
def carets (column : Nat) : List (Nat × Nat) → List Char
  | [] => []
  | (start, stop) :: rest =>
    let gap := start - column
    let width := max 1 (stop - start)
    List.replicate gap ' ' ++ List.replicate width '^' ++ carets (column + gap + width) rest

/-- What stands in front of a line, `width` being that of the line numbers. -/
def margin (width line : Nat) : List Char :=
  let number := (toString (line + 1)).toList
  if width = 0 then List.replicate 4 ' '
  else List.replicate (width - number.length) ' ' ++ number ++ [':', ' ']

/-- The places of a problem, in order. -/
def Problem.spans (p : Problem) : List Span :=
  match p.first with
  | none => [p.span]
  | some s => if s.start ≤ p.span.start then [s, p.span] else [p.span, s]

/-- The lines of a notice. -/
def Problem.noticeLines (pattern : List Char) (p : Problem) : List (List Char) :=
  let count := (Text.splitAt '\n' pattern).length
  let width := if count ≤ 1 then 0 else (toString count).length
  let spans := p.spans.map fun s =>
    (Place.ofOffset pattern s.start, Place.ofOffset pattern s.stop)
  let inLine := spans.filter fun s => s.1.line = s.2.line
  let across := spans.filter fun s => s.1.line ≠ s.2.line
  let shown := (shownLines pattern).zipIdx.flatMap fun (line, n) =>
    let columns := (inLine.filter (·.1.line = n)).map fun s => (s.1.column, s.2.column)
    let under := List.replicate (if width = 0 then 4 else width + 2) ' ' ++ carets 0 columns
    (margin width n ++ line) :: (if columns.isEmpty then [] else [under])
  let divider := if count ≤ 1 then [] else [List.replicate 79 '~']
  let told := across.map fun s =>
    (s!"on line {s.1.line + 1} (column {s.1.column + 1}) " ++
      s!"through line {s.2.line + 1} (column {s.2.column})").toList
  ["regex parse error:".toList] ++ divider ++ shown ++ divider ++ told ++
    [s!"error: {p.cause.message}".toList]

/-- The text of a notice. -/
def Problem.notice (pattern : String) (p : Problem) : String :=
  String.ofList (Text.joinWith '\n' (p.noticeLines pattern.toList))

end EnergyMeter.Pattern
