/-!
# Scanning

A reader takes characters from the front of a text and gives a result and the
rest, or fails. Alternatives start again at the same place. Repetition stops
where the repeated reader fails, and after as many rounds as there are
characters: a reader that is repeated takes one at least.
-/

namespace EnergyMeter.Text

/-- Takes a result from the front of a text. -/
abbrev Reader := StateT (List Char) Option

namespace Scan

/-- Takes one character of a class. -/
def oneOf (p : Char → Bool) : Reader Char := fun
  | [] => none
  | c :: cs => if p c then some (c, cs) else none

/-- Takes a given character. -/
def char (c : Char) : Reader Unit := fun
  | [] => none
  | d :: cs => if c = d then some ((), cs) else none

/-- Takes given characters. -/
def chars : List Char → Reader Unit
  | [] => pure ()
  | c :: cs => do char c; chars cs

/-- Looks at the next character. -/
def peek? : Reader (Option Char) := fun cs => some (cs.head?, cs)

/-- Takes the longest run of characters of a class. -/
def run (p : Char → Bool) : Reader (List Char) := fun cs =>
  some (cs.takeWhile p, cs.dropWhile p)

/-- Takes the longest run of characters of a class; it has one at least. -/
def runSome (p : Char → Bool) : Reader (List Char) := do
  let c ← oneOf p
  return c :: (← run p)

/-- Takes as many results as there are, but no more than one for each character
of a text that counts the rounds. -/
def rounds {α : Type} (r : Reader α) : List Char → Reader (List α)
  | [] => pure []
  | _ :: left => fun cs =>
    match r cs with
    | none => some ([], cs)
    | some (a, rest) => (rounds r left rest).map fun behind => (a :: behind.1, behind.2)

/-- Takes as many results as there are. -/
def many {α : Type} (r : Reader α) : Reader (List α) := fun cs => rounds r cs cs

/-- Takes results with separators between them, perhaps none. -/
def separated {α : Type} (r : Reader α) (separator : Reader Unit) : Reader (List α) :=
  (do
    let a ← r
    return a :: (← many (do separator; r))) <|> pure []

/-- Takes a result, if there is one. -/
def option {α : Type} (r : Reader α) : Reader (Option α) :=
  (some <$> r) <|> pure none

/-- Succeeds where a reader would, taking nothing. -/
def ahead {α : Type} (r : Reader α) : Reader Unit := fun cs =>
  match r cs with
  | some _ => some ((), cs)
  | none => none

/-- Succeeds at the end of the text. -/
def finish : Reader Unit := fun
  | [] => some ((), [])
  | _ :: _ => none

/-- Takes a given number of results. -/
def count {α : Type} : Nat → Reader α → Reader (List α)
  | 0, _ => pure []
  | n + 1, r => do
    let a ← r
    return a :: (← count n r)

end Scan

end EnergyMeter.Text
