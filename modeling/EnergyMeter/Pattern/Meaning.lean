import EnergyMeter.Pattern.Joining
import EnergyMeter.Pattern.SetMeaning

/-!
# The meaning of a form

A form is given its expression from left to right, since flags without a group
change what stands behind them, the later branches of the same group included.
The end of a group restores the flags.
-/

namespace EnergyMeter.Pattern

/-- The expression of a literal. -/
def Literal.expression (m : Mode) (l : Literal) : Except Problem Expression := do
  let c ← l.meaning m
  if m.caseless && m.unicode then refuse .caseUnavailable l.span
  else if m.caseless then return .ofSet (CharSet.single c).foldAscii.ranges true
  else return .text [c]

/-- The characters that the dot stands for. -/
def dotSet (m : Mode) : CharSet :=
  if m.dotAll then .all
  else if m.returns then ((CharSet.single '\n').add '\r' '\r').compl
  else (CharSet.single '\n').compl

/-- The expression of an edge. -/
def Edge.expression (m : Mode) : Edge → Expression
  | .lineStart =>
    .look (if !m.lines then .textStart else if m.returns then .returnStart else .lineStart)
  | .lineStop =>
    .look (if !m.lines then .textStop else if m.returns then .returnStop else .lineStop)
  | .textStart => .look .textStart
  | .textStop => .look .textStop
  | .word e => .look (if m.unicode then .anyWord e else .word e)

/-- The expression of a form without parts. -/
def Atom.expression (m : Mode) : Atom → Except Problem Expression
  | .literal l => l.expression m
  | .dot span =>
    if m.unicode then .ok (.ofSet (dotSet m).ranges false) else refuse .invalidText span
  | .edge _ e => .ok (e.expression m)
  | .named n => do return .ofSet (← n.meaning m).ranges (!m.unicode)

mutual

/-- The expression of a form, and the flags behind it. -/
def Form.expression (m : Mode) : Form → Except Problem (Expression × Mode)
  | .empty => .ok (.text [], m)
  | .flags change => .ok (.text [], m.change change)
  | .atom a => do return (← a.expression m, m)
  | .set s => do return (.ofSet (← s.meaning m).ranges (!m.unicode), m)
  | .repeated _ form least most isLazy => do
    let (e, m') ← form.expression m
    return (e.repetition least most (isLazy != m.lazy), m')
  | .group span kept change form => do
    let (e, _) ← form.expression (m.change change)
    return (if kept then .kept span.start e else e, m)
  | .alternation _ forms => do
    let (es, m') ← Form.expressions m forms
    return (.choice es, m')
  | .sequence _ forms => do
    let (es, m') ← Form.expressions m forms
    return (.sequence es, m')

/-- The expressions of several forms, and the flags behind them. -/
def Form.expressions (m : Mode) : List Form → Except Problem (List Expression × Mode)
  | [] => .ok ([], m)
  | form :: forms => do
    let (e, m') ← form.expression m
    let (rest, m'') ← Form.expressions m' forms
    return (e :: rest, m'')

end

/-- The expression of a whole pattern. -/
def Form.meaning (form : Form) : Except Problem Expression := do
  return (← form.expression .standard).1

end EnergyMeter.Pattern
