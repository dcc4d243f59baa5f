import EnergyMeter.Text.Scan

/-!
# Blanks, comments and line breaks

Spaces and tabs may stand between the parts of a line, a comment runs from a
hash sign to the end of its line, and a line ends in a line feed, perhaps with a
carriage return in front.
-/

namespace EnergyMeter.Toml

open Text Scan

/-- Takes spaces and tabs. -/
def blanks : Reader Unit := do
  let _ ← run fun c => c = ' ' || c = '\t'

/-- Takes a line break. -/
def newline : Reader Unit :=
  char '\n' <|> chars ['\r', '\n']

/-- The characters that may stand in a comment. -/
def isCommentChar (c : Char) : Bool :=
  c = '\t' || ('\x20' ≤ c && c ≠ '\x7f')

/-- Takes a comment up to the end of its line. -/
def comment : Reader Unit := do
  char '#'
  let _ ← run isCommentChar

/-- Takes a line break or stands at the end of the text. -/
def lineEnd : Reader Unit := newline <|> finish

/-- Takes what may follow on a line: blanks, a comment, the line break. -/
def lineRest : Reader Unit := do
  blanks
  let _ ← option comment
  lineEnd

/-- Takes blanks, line breaks and comments. -/
def padding : Reader Unit := do
  let _ ← many ((do let _ ← oneOf fun c => c = ' ' || c = '\t') <|> newline <|> comment)

end EnergyMeter.Toml
