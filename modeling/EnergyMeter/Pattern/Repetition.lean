import EnergyMeter.Pattern.Cursor
import EnergyMeter.Pattern.Form
import EnergyMeter.Text.Numeral

/-!
# Repetitions

A question mark, a star, a plus sign or numbers in braces repeat the form before
them. A question mark behind them marks the repetition as lazy, which changes
what a match is but not whether there is one.
-/

namespace EnergyMeter.Pattern

open Reader

/-- How often a form is repeated. -/
structure Count where
  /-- The least number of times. -/
  least : Nat
  /-- The greatest number of times, if there is one. -/
  most : Option Nat
  /-- Whether it is marked as lazy. -/
  isLazy : Bool
  deriving DecidableEq, Repr

/-- The signs for a repetition. -/
def Count.ofSign? : Char → Option Count
  | '?' => some ⟨0, some 1, false⟩
  | '*' => some ⟨0, none, false⟩
  | '+' => some ⟨1, none, false⟩
  | _ => none

/-- Whether a form may be repeated. -/
def Form.repeatable : Form → Bool
  | .empty | .flags _ => false
  | _ => true

/-- Takes the question mark of a lazy repetition, if there is one. -/
def lazyMark (c : Count) : Reader Count := do
  if (← peek?) = some '?' then
    bump
    return { c with isLazy := true }
  else return c

/-- Goes behind as many blanks as there are, up to a number. -/
def blanks : Nat → Reader Unit
  | 0 => return ()
  | n + 1 => do
    if (← peek?).any Text.isBlank then
      bump
      blanks n

/-- Goes behind as many blanks as there are, up to a number, with the comments
behind each of them if these are passed over. -/
def blanksAndComments : Nat → Reader Unit
  | 0 => return ()
  | n + 1 => do
    if (← peek?).any Text.isBlank then
      step
      blanksAndComments n

/-- Reads a number with blanks around it. What is wrong with it may be told
later. -/
def number : Reader (Except Problem Nat) := do
  blanks (← left)
  let start ← here
  let digits ← run Char.isDigit
  let span ← spanFrom start
  blanksAndComments (← left)
  if digits.isEmpty then return .error ⟨.countEmpty, span, none⟩
  else
    match Text.Numeral.value? UInt32.size digits with
    | some n => return .ok n
    | none => return .error ⟨.numberInvalid, span, none⟩

/-- Reads the numbers in braces, which start at `start`. -/
def numbers (start : Nat) : Reader Count := do
  step
  more .countUnclosed (spanFrom start)
  let least ← number
  more .countUnclosed (spanFrom start)
  if (← peek?) = some ',' then
    step
    more .countUnclosed (spanFrom start)
    if (← peek?) = some '\x7d' then return ⟨← least, none, false⟩
    else
      let low ← least
      let high ← (← number)
      return ⟨low, some high, false⟩
  else
    let n ← least
    return ⟨n, some n, false⟩

/-- Reads a repetition in braces. -/
def bracedCount : Reader Count := do
  let start ← here
  let count ← numbers start
  if (← peek?) ≠ some '\x7d' then stop .countUnclosed (← spanFrom start)
  step
  let count ← lazyMark count
  if count.most.any (· < count.least) then stop .countReversed (← spanFrom start)
  return count

/-- Reads a repetition of the last of some forms, which comes first in the row. -/
def repeatLast (forms : List Form) (count : Reader Count) : Reader (List Form) := do
  match forms.head?.filter Form.repeatable with
  | none => stop .repetitionMissing (← emptySpan)
  | some form =>
    let c ← count
    let span ← spanFrom form.start
    return .repeated span form c.least c.most c.isLazy :: forms.tail

/-- Reads a repetition that is given by a sign. -/
def signCount (c : Count) : Reader Count := do
  bump
  lazyMark c

end EnergyMeter.Pattern
