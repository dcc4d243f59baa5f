import EnergyMeter.Pattern.Meaning
import EnergyMeter.Pattern.Nesting
import EnergyMeter.Pattern.Notice
import EnergyMeter.Pattern.Reading
import EnergyMeter.Pattern.Building

/-!
# Patterns

A pattern is a regular expression that is looked for in a text. A text that is
no pattern is refused with a notice of what is wrong with it.
-/

namespace EnergyMeter

/-- A regular expression. -/
structure Pattern where
  /-- What it means. -/
  expression : Pattern.Expression
  deriving DecidableEq, Repr

namespace Pattern

/-- Why a text is no pattern. -/
inductive Refusal where
  /-- It is not well formed, or has a part without a meaning. -/
  | problem (p : Problem)
  /-- It cannot be built. -/
  | obstacle (o : Obstacle)
  deriving DecidableEq, Repr

/-- The text of a refusal. -/
def Refusal.message (pattern : String) : Refusal → String
  | .problem p => p.notice pattern
  | .obstacle .wordEdge => "error building NFA"
  | .obstacle .tooLarge => s!"Compiled regex exceeds size limit of {sizeLimit} bytes."

/-- Reads a pattern. -/
def ofText (text : String) : Except Refusal Pattern := do
  let meaning := do (← (← Form.ofText text.toList).checked).meaning
  let e ← meaning.mapError .problem
  match e.obstacle? with
  | some o => throw (.obstacle o)
  | none => return ⟨e⟩

/-- Whether a text holds a match. -/
def occursIn (p : Pattern) (text : String) : Bool :=
  p.expression.occursIn text.toList

end Pattern

end EnergyMeter
