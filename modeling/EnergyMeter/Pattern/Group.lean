import EnergyMeter.Pattern.Cursor
import EnergyMeter.Pattern.Form
import EnergyMeter.Text.Letter

/-!
# The beginning of a group

Behind its parenthesis a group may have a name, or a question mark and flags.
Flags that are closed at once are no group but hold for what follows.
-/

namespace EnergyMeter.Pattern

open Reader

/-- The flags by their letters. -/
def flag? : Char → Option Flag
  | 'i' => some .caseless
  | 'm' => some .lines
  | 's' => some .dotAll
  | 'U' => some .lazy
  | 'u' => some .unicode
  | 'R' => some .returns
  | 'x' => some .spaced
  | _ => none

/-- Flags as they are written, with the sign that turns off those behind it. -/
abbrev WrittenFlags := List (Option Flag × Span)

/-- The flags that are turned on and off. -/
def WrittenFlags.change (items : WrittenFlags) : Flags :=
  let on := items.takeWhile (·.1.isSome)
  let off := items.drop on.length
  let valued (value : Bool) (items : WrittenFlags) : Flags :=
    items.filterMap fun (flag, _) => flag.map (·, value)
  valued true on ++ valued false off

/-- Reads one flag, or the sign that turns flags off. -/
def flagItem (c : Char) : Reader (Option Flag) := do
  if c = '-' then return none
  else
    match flag? c with
    | some flag => return some flag
    | none => stop .flagUnknown (.ofChar (← here))

/-- Reads flags up to a colon or a closing parenthesis. -/
def flagsOn : Nat → WrittenFlags → Reader WrittenFlags
  | 0, items => return items
  | n + 1, items => do
    match ← peek? with
    | none | some ':' | some ')' =>
      match items.getLast? with
      | some (none, span) => stop .negationDangling span
      | _ => return items
    | some c =>
      let span := Span.ofChar (← here)
      let item ← flagItem c
      match items.lookup item with
      | some first =>
        stopRepeated (if item.isNone then .negationRepeated else .flagRepeated) span first
      | none =>
        bump
        more .flagsUnclosed emptySpan
        flagsOn n (items ++ [(item, span)])

/-- Whether a character may stand in a name, and at its front. -/
def isNameChar (atFront : Bool) (c : Char) : Bool :=
  c = '_' || Text.isAlphabetic c ||
    (!atFront && (c = '.' || c = '[' || c = ']' || Text.isNumeric c))

/-- Reads a group's name and the bracket behind it. -/
def groupName : Reader Unit := do
  let start ← here
  more .nameUnclosed emptySpan
  let cs := (← get).rest
  let name := cs.takeWhile (· ≠ '>')
  match name.zipIdx.find? fun (c, i) => !isNameChar (i = 0) c with
  | some (_, i) => stop .nameInvalid (.ofChar (start + i))
  | none =>
    modify (·.drop name.length)
    let span ← spanFrom start
    more .nameUnclosed emptySpan
    bump
    if name.isEmpty then stop .nameEmpty span
    let names := (← get).names
    match names.lookup name with
    | some first => stopRepeated .nameRepeated span first
    | none => modify fun c => { c with names := (name, span) :: names }

/-- What starts with a parenthesis. -/
inductive GroupStart where
  /-- Flags for what follows. -/
  | flags (change : Flags)
  /-- A group, and whether its text is kept. -/
  | group (span : Span) (kept : Bool) (change : Flags)
  deriving DecidableEq, Repr

/-- Takes the first of some texts that comes next, if one does. -/
def oneTaken (texts : List String) : Reader Bool :=
  texts.anyM taken

/-- Reads what starts with a parenthesis. -/
def groupStart : Reader GroupStart := do
  let openSpan := Span.ofChar (← here)
  bump
  skip
  if ← oneTaken ["?=", "?!", "?<=", "?<!"] then
    stop .lookAround (← spanFrom openSpan.start)
  let inner ← emptySpan
  if ← oneTaken ["?P<", "?<"] then
    groupName
    return .group openSpan true []
  else if ← taken "?" then
    more .groupUnclosed (return openSpan)
    let items ← flagsOn (← left) []
    let closing ← peek?
    bump
    if closing = some ')' then
      if items.isEmpty then stop .repetitionMissing inner
      return .flags items.change
    else return .group openSpan false items.change
  else return .group openSpan true []

end EnergyMeter.Pattern
