import EnergyMeter.Pattern.CharSet
import EnergyMeter.Pattern.Form

/-!
# Expressions

An expression is what a pattern means. It has one form only: a sequence holds no
sequence but at its end, no empty text and no two texts in a row, and a choice
holds no choice but at its end. The functions that put expressions together keep
to that form.

Matching an expression against a text goes from the places where a match may
start to those where it may end: each place is marked or not, an expression takes
marks to marks, and a text holds a match if some place is marked at the end when
all are at the beginning.
-/

namespace EnergyMeter.Pattern

/-- A condition on a place in a text. -/
inductive Look where
  /-- The text starts. -/
  | textStart
  /-- The text ends. -/
  | textStop
  /-- A line starts. -/
  | lineStart
  /-- A line ends. -/
  | lineStop
  /-- A line starts, where carriage returns end lines too. -/
  | returnStart
  /-- A line ends, where carriage returns end lines too. -/
  | returnStop
  /-- An edge of a word of ASCII letters, digits and low lines. -/
  | word (edge : WordEdge)
  /-- An edge of a word in any script; no expression that is accepted has one. -/
  | anyWord (edge : WordEdge)
  deriving DecidableEq, Repr

/-- What a pattern means. -/
inductive Expression where
  /-- A text, which may be empty. -/
  | text (cs : List Char)
  /-- One character of a set, and whether the set is one of bytes. -/
  | one (set : Text.Ranges) (bytes : Bool)
  /-- The empty text at certain places. -/
  | look (l : Look)
  /-- One expression behind another. -/
  | both (first second : Expression)
  /-- One of two expressions. -/
  | either (first second : Expression)
  /-- An expression whose text is kept, and where its group starts. -/
  | kept (group : Nat) (e : Expression)
  /-- An expression from `least` up to `most` times, and whether few times are
  preferred. -/
  | repeated (e : Expression) (least : Nat) (most : Option Nat) (fewest : Bool)
  deriving DecidableEq, Repr

/-- The characters on both sides of a place. -/
structure Sides where
  /-- The character before the place. -/
  before : Option Char
  /-- The character behind the place. -/
  behind : Option Char
  deriving DecidableEq, Repr

/-- The places of a text, from its start to its end. -/
def sidesOf (text : List Char) : List Sides :=
  List.zipWith Sides.mk (none :: text.map some) (text.map some ++ [none])

/-- Whether a character is part of a word of ASCII characters. -/
def isWordChar (c : Char) : Bool :=
  c.isAlphanum || c = '_'

/-- Whether there is an edge of a word of ASCII characters. -/
def WordEdge.holds (e : WordEdge) (s : Sides) : Bool :=
  let before := s.before.any isWordChar
  let behind := s.behind.any isWordChar
  match e with
  | .boundary => before != behind
  | .none => before == behind
  | .start => !before && behind
  | .stop => before && !behind
  | .startHalf => !before
  | .stopHalf => !behind

/-- Whether a place meets a condition. -/
def Look.holds (l : Look) (s : Sides) : Bool :=
  match l with
  | .textStart => s.before.isNone
  | .textStop => s.behind.isNone
  | .lineStart => s.before.all (· = '\n')
  | .lineStop => s.behind.all (· = '\n')
  | .returnStart => s.before.all fun c => c = '\n' || (c = '\r' && s.behind ≠ some '\n')
  | .returnStop => s.behind.all fun c => c = '\r' || (c = '\n' && s.before ≠ some '\r')
  | .word e => e.holds s
  | .anyWord _ => false

/-- A mark for every place of a text. -/
abbrev Marks := List Bool

/-- The places that are marked in one of two ways. -/
def Marks.or (a b : Marks) : Marks :=
  List.zipWith (· || ·) a b

/-- Applies a step a number of times, or until it changes nothing. -/
def settle (step : Marks → Marks) : Nat → Marks → Marks
  | 0, marks => marks
  | n + 1, marks =>
    let next := step marks
    if next = marks then marks else settle step n next

/-- The places behind a character of a class that stands at a marked place. -/
def oneOn (text : List Char) (p : Char → Bool) (marks : Marks) : Marks :=
  false :: List.zipWith (fun c m => m && p c) text marks

/-- The places where matches of an expression end that start at marked places. A
match of a repetition never needs more rounds than there are places. -/
def Expression.reach (text : List Char) : Expression → Marks → Marks
  | .text cs, marks => cs.foldl (fun m c => oneOn text (· = c) m) marks
  | .one set _, marks => oneOn text (fun c => set.holds c.toNat) marks
  | .look l, marks => List.zipWith (fun s m => m && l.holds s) (sidesOf text) marks
  | .both a b, marks => b.reach text (a.reach text marks)
  | .either a b, marks => (a.reach text marks).or (b.reach text marks)
  | .kept _ e, marks => e.reach text marks
  | .repeated e least most _, marks =>
    let rounds := text.length + 1
    let optional :=
      match most with
      | some n => min (n - least) rounds
      | none => rounds
    settle (fun m => m.or (e.reach text m)) optional
      (settle (fun m => e.reach text m) (min least rounds) marks)

/-- Whether a text holds a match. -/
def Expression.occursIn (e : Expression) (text : List Char) : Bool :=
  (e.reach text (List.replicate (text.length + 1) true)).any id

end EnergyMeter.Pattern
