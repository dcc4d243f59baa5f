import EnergyMeter.Pattern.Form

/-!
# The depth of a pattern

Groups, repetitions, branches, sequences and sets inside each other make a
pattern deep. The outermost, leftmost part below the limit is told.
-/

namespace EnergyMeter.Pattern

mutual

/-- The first part of a set with no room left for it. -/
def SetForm.tooDeep? (room : Nat) : SetForm → Option Span
  | .empty _ | .literal _ | .range .. | .ascii .. | .named _ => none
  | .bracket span _ inner =>
    match room with
    | 0 => some span
    | n + 1 => inner.tooDeep? n
  | .union span parts =>
    match room with
    | 0 => some span
    | n + 1 => SetForm.anyTooDeep? n parts
  | .operation span _ left right =>
    match room with
    | 0 => some span
    | n + 1 => (left.tooDeep? n).orElse fun _ => right.tooDeep? n

/-- The first of several parts of a set with no room left for it. -/
def SetForm.anyTooDeep? (room : Nat) : List SetForm → Option Span
  | [] => none
  | part :: parts => (part.tooDeep? room).orElse fun _ => SetForm.anyTooDeep? room parts

end

mutual

/-- The first part with no room left for it. -/
def Form.tooDeep? (room : Nat) : Form → Option Span
  | .empty | .flags _ | .atom _ => none
  | .set s => s.tooDeep? room
  | .repeated span form .. | .group span _ _ form =>
    match room with
    | 0 => some span
    | n + 1 => form.tooDeep? n
  | .alternation span forms | .sequence span forms =>
    match room with
    | 0 => some span
    | n + 1 => Form.anyTooDeep? n forms

/-- The first of several parts with no room left for it. -/
def Form.anyTooDeep? (room : Nat) : List Form → Option Span
  | [] => none
  | form :: forms => (form.tooDeep? room).orElse fun _ => Form.anyTooDeep? room forms

end

/-- A pattern that is not nested too deep. -/
def Form.checked (form : Form) : Except Problem Form :=
  match form.tooDeep? nestingLimit with
  | some span => .error ⟨.nestedTooDeep, span, none⟩
  | none => .ok form

end EnergyMeter.Pattern
