import EnergyMeter.Log.Event
import EnergyMeter.Pattern
import EnergyMeter.Text.Blank
import EnergyMeter.Text.Split

/-!
# Log filters

A filter is a row of directives between commas. A directive is a level, or the
beginning of source names, or both with an equals sign between them; the
directive with the longest matching beginning decides. Behind a slash stands a
pattern that has to occur in a message. A part that is not understood is passed
over with a warning.
-/

namespace EnergyMeter.Log

/-- How much a filter lets through. -/
structure Directive where
  /-- The beginning of the names of the sources it is about; without one it is
  about all of them. -/
  source : Option (List Char)
  /-- The rank up to which events pass; zero lets none pass. -/
  level : Nat
  deriving DecidableEq, Repr

namespace Directive

/-- Whether a directive is about a source. -/
def covers (d : Directive) (source : Source) : Bool :=
  d.source.all (·.isPrefixOf source.name.toList)

/-- The length of the beginning. -/
def length (d : Directive) : Nat :=
  (d.source.getD []).length

end Directive

/-- Decides which events are shown. -/
structure Filter where
  /-- The directives, one for each beginning. -/
  directives : List Directive
  /-- What has to occur in every message. -/
  pattern : Option Pattern
  /-- What was not understood, line by line. -/
  warnings : List String
  deriving DecidableEq, Repr

/-- The words for levels, in order of rank. -/
def levelWords : List String := ["OFF", "ERROR", "WARN", "INFO", "DEBUG", "TRACE"]

/-- The rank that a word stands for, in any case of its letters. -/
def level? (word : List Char) : Option Nat :=
  levelWords.findIdx? fun w => w.toList = word.map Char.toUpper

/-- The rank that lets everything pass. -/
def everything : Nat := 5

namespace Filter

/-- The filter without directives. -/
def empty : Filter := ⟨[], none, []⟩

/-- Lets errors pass where nothing else is said. -/
def completed (f : Filter) : Filter :=
  if f.directives.isEmpty then { f with directives := [⟨none, 1⟩] } else f

/-- Warns of something that is passed over. -/
def warn (f : Filter) (text : String) : Filter :=
  let lines := Text.splitAt '\n' s!"warning: {text}, ignoring it".toList
  { f with warnings := f.warnings ++ lines.map String.ofList }

/-- Adds a directive in place of one about the same sources. -/
def add (d : Directive) (ds : List Directive) : List Directive :=
  if ds.any (·.source = d.source) then ds.map fun e => if e.source = d.source then d else e
  else ds ++ [d]

/-- Reads a directive, or gives what is not understood. -/
def directive? (part : List Char) : Except (List Char) Directive :=
  match Text.splitAt '=' part with
  | [word] =>
    match level? word with
    | some n => .ok ⟨none, n⟩
    | none => .ok ⟨some word, everything⟩
  | [source, word] =>
    let word := Text.trim word
    if word = [] then .ok ⟨some source, everything⟩
    else
      match level? word with
      | some n => .ok ⟨some source, n⟩
      | none => .error word
  | _ => .error part

/-- Adds a part between commas. -/
def addPart (f : Filter) (part : List Char) : Filter :=
  let part := Text.trim part
  if part = [] then f
  else
    match directive? part with
    | .ok d => { f with directives := add d f.directives }
    | .error text => f.warn s!"invalid logging spec '{String.ofList text}'"

/-- Adds the parts between commas. -/
def addParts (f : Filter) (parts : List Char) : Filter :=
  (Text.splitAt ',' parts).foldl addPart f

/-- Adds what has to occur in messages. -/
def addPattern (f : Filter) (text : String) : Filter :=
  match Pattern.ofText text with
  | .ok p => { f with pattern := some p }
  | .error refusal => f.warn s!"invalid regex filter - {refusal.message text}"

/-- Reads a filter. -/
def parse (text : String) : Filter :=
  let filter :=
    match Text.splitAt '/' text.toList with
    | [parts] => empty.addParts parts
    | [parts, pattern] => (empty.addParts parts).addPattern (String.ofList pattern)
    | _ => empty.warn s!"invalid logging spec '{text}' (too many '/'s)"
  filter.completed

/-- The longer of two directives that match; of equal ones the later. -/
def longer (best : Option Directive) (d : Directive) : Option Directive :=
  match best with
  | some b => if d.length < b.length then best else some d
  | none => some d

/-- The rank up to which events of a source pass. -/
def levelFor (f : Filter) (source : Source) : Nat :=
  match (f.directives.filter (·.covers source)).foldl longer none with
  | some d => d.level
  | none => 0

/-- Whether an event passes. -/
def passes (f : Filter) (e : Event) : Bool :=
  e.severity.rank ≤ f.levelFor e.source && f.pattern.all (·.occursIn e.message)

/-- The lines that an event is shown as; those behind the first are indented. -/
def linesOf (e : Event) : List String :=
  match Text.splitAt '\n' e.line.toList with
  | [] => []
  | first :: rest => String.ofList first :: rest.map fun l => "    " ++ String.ofList l

/-- The lines of the events that pass. -/
def lines (f : Filter) (es : List Event) : List String :=
  (es.filter f.passes).flatMap linesOf

end Filter

end EnergyMeter.Log
