import EnergyMeter.Pattern.Joining
import EnergyMeter.Pattern.Beginning
import EnergyMeter.Pattern.SetMachine
import EnergyMeter.Pattern.WordMachine

/-!
# Building an expression

An expression is built twice, into a machine that reads matches from their start
and into one that reads them from their end, unless it stands for a few texts.
Counted repetitions are written out, so they are what makes a machine large.
Edges of words in any script cannot be built.
-/

namespace EnergyMeter.Pattern

/-- The direction in which a machine reads a text. -/
inductive Direction where
  /-- From its start. -/
  | forward
  /-- From its end. -/
  | backward
  deriving DecidableEq, Repr

/-- Where an expression stands in a choice. -/
inductive Standing where
  /-- In no choice. -/
  | alone
  /-- It is the second branch, or what is behind the first one. -/
  | second
  /-- It is a later branch, or what is behind one. -/
  | later
  deriving DecidableEq, Repr

/-- Joins a branch to its choice, the fork of which is added behind the second
branch. -/
def Standing.join (s : Standing) (m : Machine) : Machine :=
  match s with
  | .alone => m
  | .second => ((m.addExits 1).addFork 0).add 1
  | .later => m.addExits 1

namespace Expression

/-- The word that a text is; the empty text is none. -/
def word? : Expression → Option Word
  | .text (c :: cs) => some ((c :: cs).flatMap fun c => bytesOf c.toNat)
  | _ => none

/-- The words that a choice is between, if it is between words only. -/
def words? (e : Expression) : Option (List Word) :=
  e.branches.mapM word?

/-- The length of the shortest match, where every part has a match. -/
def shortest? : Expression → Option Nat
  | .text cs => some cs.length
  | .one set _ => if set.isEmpty then none else some 1
  | .look _ => some 0
  | .both a b => do return (← a.shortest?) + (← b.shortest?)
  | .either a b => do return min (← a.shortest?) (← b.shortest?)
  | .kept _ e => e.shortest?
  | .repeated e least .. => do return least * (← e.shortest?)

/-- Whether a match is known to take a character. -/
def takesSomething (e : Expression) : Bool :=
  e.shortest?.any (0 < ·)

/-- Adds states that read an expression. -/
def build (d : Direction) : Expression → Standing → Machine → Machine
  | .text cs, s, m => s.join (m.add (max 1 ((cs.map Char.utf8Size).foldl (· + ·) 0)))
  | .one set _, s, m =>
    s.join (match d with | .forward => m.addSet set | .backward => m.addSetBack set)
  | .look _, s, m => s.join (m.add 1)
  | .both a b, s, m =>
    s.join (match d with
      | .forward => b.build d .alone (a.build d .alone m)
      | .backward => a.build d .alone (b.build d .alone m))
  | .either a b, .alone, m =>
    match words? (.either a b) with
    | some words =>
      m.addWords (match d with | .forward => words | .backward => words.map List.reverse)
    | none => b.build d .second (a.build d .later m)
  | .either a b, s, m => b.build d .later (a.build d s m)
  | .kept _ e, s, m =>
    s.join (match d with
      | .forward => (e.build d .alone (m.add 1)).add 1
      | .backward => e.build d .alone m)
  | .repeated e least most _, s, m =>
    let once := e.build d .alone
    s.join (match most with
      | none =>
        if least = 0 && e.takesSomething then once (m.addFork 2)
        else if least = 0 then (((once m).addFork 2).addFork 2).add 1
        else (Machine.times once least m).addFork 2
      | some most =>
        if least = 0 && most = 1 then (once (m.addFork 2)).add 1
        else if least = most then Machine.times once least m
        else
          let start := if least = 0 then m.add 1 else Machine.times once least m
          Machine.times (fun m => once (m.addFork 2)) (most - least) (start.add 1))

/-- Whether every match starts at the start of the text. -/
def startsText : Expression → Bool
  | .text _ | .one .. => false
  | .look l => l = .textStart
  | .both a b => a.startsText || (a.takesNothing && b.startsText)
  | .either a b => a.startsText && b.startsText
  | .kept _ e => e.startsText
  | .repeated e least .. => 0 < least && e.startsText

/-- Whether every match ends at the end of the text. -/
def stopsText : Expression → Bool
  | .text _ | .one .. => false
  | .look l => l = .textStop
  | .both a b => b.stopsText || (a.stopsText && b.takesNothing)
  | .either a b => a.stopsText && b.stopsText
  | .kept _ e => e.stopsText
  | .repeated e least .. => 0 < least && e.stopsText

/-- The states in front of an expression: one only, if a match cannot start
anywhere else, or states that go to any place of the text. -/
def lead (anchored : Bool) : Machine :=
  if anchored then Machine.empty.add 1 else ((Machine.empty.addFork 2).add 1).addRanges 1

/-- The machine that reads a match from its start and keeps it. -/
def forwardMachine (e : Expression) : Machine :=
  ((e.build .forward .alone ((lead e.startsText).add 1)).add 1).add 1

/-- The machine that reads a match from its end. -/
def backwardMachine (e : Expression) : Machine :=
  (e.build .backward .alone (lead e.stopsText)).add 1

/-- Whether an expression has an edge of a word in any script. -/
def hasAnyWord : Expression → Bool
  | .look (.anyWord _) => true
  | .text _ | .one .. | .look _ => false
  | .both a b | .either a b => a.hasAnyWord || b.hasAnyWord
  | .kept _ e | .repeated e .. => e.hasAnyWord

end Expression

/-- Why an expression cannot be built. -/
inductive Obstacle where
  /-- It has an edge of a word in any script. -/
  | wordEdge
  /-- It takes up too much memory. -/
  | tooLarge
  deriving DecidableEq, Repr

/-- What keeps the machines of an expression from being built. The one that reads
backward is built last. -/
def Expression.machineObstacle? (e : Expression) : Option Obstacle :=
  if e.forwardMachine.isTooLarge then some .tooLarge
  else if e.hasAnyWord then some .wordEdge
  else if e.backwardMachine.isTooLarge then some .tooLarge
  else none

/-- What keeps an expression from being looked for. No machine is needed for one
that stands for a few texts. -/
def Expression.obstacle? (e : Expression) : Option Obstacle :=
  e.machineObstacle?.filter fun o => o = .wordEdge || !e.isFewTexts

end EnergyMeter.Pattern
