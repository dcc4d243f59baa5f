import EnergyMeter.Pattern.Expression

/-!
# Putting expressions together

Sequences, choices and repetitions get their one form as they are put together.
Texts in a row become one text, a choice between characters or between sets
becomes a set, and what all branches of a choice begin with stands in front of
the choice.
-/

namespace EnergyMeter.Pattern.Expression

open Text

/-- The expression without a match. -/
def never : Expression := .one [] true

/-- One character of a set; a set of one character is a text. -/
def ofSet (set : Ranges) (bytes : Bool) : Expression :=
  match set with
  | [] => never
  | [(first, last)] => if first = last then .text [Char.ofNat first] else .one set bytes
  | _ => .one set bytes

/-- One expression behind another. -/
def before : Expression → Expression → Expression
  | .text [], e => e
  | .both a b, e => .both a (b.before e)
  | a, .text [] => a
  | .text cs, .text ds => .text (cs ++ ds)
  | .text cs, .both (.text ds) e => .both (.text (cs ++ ds)) e
  | a, e => .both a e

/-- Expressions one behind the other. -/
def sequence (es : List Expression) : Expression :=
  es.foldr before (.text [])

/-- The expressions that a sequence is made of. -/
def factors : Expression → List Expression
  | .text [] => []
  | .both a b => a :: b.factors
  | e => [e]

/-- The expressions that a choice is between. -/
def branches : Expression → List Expression
  | .either a b => a :: b.branches
  | e => [e]

/-- The number of expressions inside an expression, itself included. -/
def parts : Expression → Nat
  | .both a b | .either a b => a.parts + b.parts + 1
  | .kept _ e | .repeated e .. => e.parts + 1
  | .text _ | .one .. | .look _ => 1

/-- The character that a text of one character is. -/
def letter? : Expression → Option Char
  | .text [c] => some c
  | _ => none

/-- The set that one character is taken from. -/
def set? : Expression → Option Ranges
  | .one set _ => some set
  | _ => none

/-- What two rows begin with. -/
def sharedFront : List Expression → List Expression → List Expression
  | a :: as, b :: bs => if a = b then a :: sharedFront as bs else []
  | _, _ => []

/-- What all rows begin with. -/
def commonFront : List (List Expression) → List Expression
  | [] => []
  | row :: rows => rows.foldl sharedFront row

/-- A choice between at least one expression. -/
def eitherOf : List Expression → Expression
  | [] => never
  | [e] => e
  | e :: es => .either e (eitherOf es)

/-- One of several expressions, where at most `fuel` times something is taken
out in front. -/
def choiceOn (fuel : Nat) (es : List Expression) : Expression :=
  let es := es.flatMap branches
  let rows := es.map factors
  let front := commonFront rows
  if es.length ≤ 1 then eitherOf es
  else
    match es.mapM letter?, es.mapM set?, fuel with
    | some cs, _, _ => ofSet (cs.foldl (fun set c => set.insert c.toNat c.toNat) []) false
    | _, some sets, _ => ofSet (sets.foldl Ranges.union []) false
    | _, _, n + 1 =>
      if front.isEmpty || rows.any (·.length ≤ 1) then eitherOf es
      else
        let behind := rows.map fun row => sequence (row.drop front.length)
        sequence (front ++ [choiceOn n behind])
    | _, _, 0 => eitherOf es

/-- One of several expressions, the preferred ones first. What is taken out in
front is part of the first of them. -/
def choice (es : List Expression) : Expression :=
  choiceOn ((es.map parts).foldl (· + ·) 0) es

/-- Whether an expression takes no character. -/
def takesNothing : Expression → Bool
  | .text cs => cs.isEmpty
  | .look _ => true
  | .one .. => false
  | .both a b | .either a b => a.takesNothing && b.takesNothing
  | .kept _ e | .repeated e .. => e.takesNothing

/-- A repetition. What takes no character need not be repeated; what is repeated
no time is the empty text, and once is itself. -/
def repetition (e : Expression) (least : Nat) (most : Option Nat) (fewest : Bool) :
    Expression :=
  let least := if e.takesNothing then min least 1 else least
  let most := if e.takesNothing then some (min (most.getD 1) 1) else most
  if most = some 0 then .text []
  else if least = 1 && most = some 1 then e
  else .repeated e least most fewest

end EnergyMeter.Pattern.Expression
