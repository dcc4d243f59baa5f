import EnergyMeter.Pattern.Bracket
import EnergyMeter.Pattern.Group
import EnergyMeter.Pattern.Repetition

/-!
# Reading a pattern

A pattern is read from left to right and up to the first problem. A vertical bar
separates the branches of a group or of the whole pattern, and flags without a
group hold up to the end of the group that they stand in.
-/

namespace EnergyMeter.Pattern

open Reader

/-- Forms one behind the other. -/
def sequenceOf (span : Span) : List Form → Form
  | [] => .empty
  | [form] => form
  | forms => .sequence span forms

/-- A branch with the branches before it. -/
def alternationOf (span : Span) (earlier : List Form) (branch : Form) : Form :=
  if earlier.isEmpty then branch else .alternation span (earlier ++ [branch])

/-- Passes over blanks and comments from here on, if flags say so. -/
def follow (change : Flags) : Reader Unit := do
  match change.lookup .spaced with
  | some spaced => modify fun c => { c with spaced := spaced }
  | none => return ()

/-- Reads a form without parts that is no escape. -/
def plainAtom (c : Char) : Reader Atom := do
  let span := Span.ofChar (← here)
  bump
  match c with
  | '.' => return .dot span
  | '^' => return .edge span .lineStart
  | '$' => return .edge span .lineStop
  | c => return .literal ⟨span, c, false⟩

/-- Where the form starts that is being read, and what of it is read. -/
structure Progress where
  /-- The start of the first branch. -/
  start : Nat
  /-- The branches that are complete, the last one first. -/
  branches : List Form
  /-- The start of the last branch. -/
  branchStart : Nat
  /-- The forms of the last branch, the last one first. -/
  forms : List Form
  deriving Repr

namespace Progress

/-- Nothing read yet. -/
def starting (offset : Nat) : Progress :=
  ⟨offset, [], offset, []⟩

/-- One more form. -/
def add (p : Progress) (form : Form) : Progress :=
  { p with forms := form :: p.forms }

/-- The last branch, which ends at an offset. -/
def branch (p : Progress) (stop : Nat) : Form :=
  sequenceOf ⟨p.branchStart, stop⟩ p.forms.reverse

/-- The form that is read, which ends at an offset. -/
def form (p : Progress) (stop : Nat) : Form :=
  alternationOf ⟨p.start, stop⟩ p.branches.reverse (p.branch stop)

end Progress

/-- Reads a form up to a closing parenthesis or the end. The fuel is more than
the number of characters that are left. -/
def formOn : Nat → Progress → Reader Form
  | 0, p => return p.form (← here)
  | n + 1, p => do
    skip
    match ← peek? with
    | none | some ')' => return p.form (← here)
    | some '|' =>
      let branch := p.branch (← here)
      bump
      formOn n ⟨p.start, branch :: p.branches, ← here, []⟩
    | some '(' =>
      match ← groupStart with
      | .flags change =>
        follow change
        formOn n (p.add (.flags change))
      | .group span kept change =>
        let spaced := (← get).spaced
        follow change
        let inner ← formOn n (.starting (← here))
        more .groupUnclosed (return span)
        modify fun c => { c with spaced := spaced }
        bump
        formOn n (p.add (.group (← spanFrom span.start) kept change inner))
    | some '[' => formOn n (p.add (.set (← bracket)))
    | some '\x7b' =>
      let forms ← repeatLast p.forms bracedCount
      formOn n { p with forms := forms }
    | some '\\' => formOn n (p.add (.atom (← escape)))
    | some c =>
      match Count.ofSign? c with
      | some count =>
        let forms ← repeatLast p.forms (signCount count)
        formOn n { p with forms := forms }
      | none => formOn n (p.add (.atom (← plainAtom c)))

/-- Reads a whole pattern. -/
def wholeForm : Reader Form := do
  let form ← formOn ((← left) + 1) (.starting 0)
  if ← atEnd then return form
  else stop .groupUnopened (.ofChar (← here))

/-- The form of a pattern. -/
def Form.ofText (pattern : List Char) : Except Problem Form :=
  (StateT.run wholeForm (.ofText pattern)).map (·.1)

end EnergyMeter.Pattern
