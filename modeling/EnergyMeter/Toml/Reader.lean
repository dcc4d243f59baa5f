import EnergyMeter.Toml.Document
import EnergyMeter.Toml.Moment
import EnergyMeter.Toml.Number

/-!
# Reading TOML

A document is a sequence of lines: comments, headers, and keys with values.
Arrays may span lines and end in a comma, inline tables may not. Arrays and
inline tables nest up to a limit, on which the reading of values recurs.
-/

namespace EnergyMeter.Toml

open Text Scan

/-- How deep arrays and inline tables may nest. -/
def nestingLimit : Nat := 79

/-- Takes an array, given how to take its items. -/
def arrayOf (item : Reader Value) : Reader Value := do
  char '['
  let items ← separated (do padding; let v ← item; padding; return v) (char ',')
  if !items.isEmpty then
    let _ ← option (char ',')
  padding
  char ']'
  return .array items

/-- Takes an inline table, given how to take its values. -/
def inlineTableOf (item : Reader Value) : Reader Value := do
  char '\x7b'
  let entry := do
    let path ← keyPath
    char '='
    blanks
    let v ← item
    blanks
    return (path, v)
  let entries ← separated entry (char ',')
  blanks
  char '\x7d'
  match inlineTable? entries with
  | some v => return v
  | none => failure

/-- Takes a value that holds no other. -/
def scalar : Reader Value := do
  match ← peek? with
  | some '"' | some '\'' => return .string (← string)
  | some 't' => chars "true".toList; return .boolean true
  | some 'f' => chars "false".toList; return .boolean false
  | some _ => moment <|> float <|> integer
  | none => failure

/-- Takes a value that holds others at most `depth` deep. -/
def value : Nat → Reader Value
  | 0 => scalar
  | depth + 1 => do
    match ← peek? with
    | some '[' => arrayOf (value depth)
    | some '\x7b' => inlineTableOf (value depth)
    | _ => scalar

/-- A line of a document. -/
inductive Line where
  /-- A line that says nothing. -/
  | blank
  /-- The header of a table, or of a row of an array of tables. -/
  | header (row : Bool) (path : List String)
  /-- A key with its value. -/
  | entry (path : List String) (v : Value)

/-- Takes a header. -/
def headerLine : Reader Line :=
  (do
    chars ['[', '[']
    let path ← keyPath
    chars [']', ']']
    lineRest
    return .header true path)
  <|> (do
    char '['
    let path ← keyPath
    char ']'
    lineRest
    return .header false path)

/-- Takes a key with its value. -/
def entryLine : Reader Line := do
  let path ← keyPath
  char '='
  blanks
  let v ← value nestingLimit
  lineRest
  return .entry path v

/-- Takes one line. -/
def line : Reader Line := do
  blanks
  match ← peek? with
  | some '#' => comment; lineEnd; return .blank
  | some '[' => headerLine
  | some '\n' | some '\r' => newline; return .blank
  | _ => entryLine

/-- Adds a line to a document. -/
def addLine (d : Option Draft) (l : Line) : Option Draft :=
  match d, l with
  | none, _ => none
  | some d, .blank => some d
  | some d, .header row path => d.header? row path
  | some d, .entry path v => d.add? path v

/-- The text behind a byte order mark, if it starts with one. -/
def dropMark : List Char → List Char
  | '\ufeff' :: cs => cs
  | cs => cs

/-- Takes the lines of a document. -/
def lines : Reader (List Line) := do
  let found ← many line
  blanks
  return found

/-- Reads a document. -/
def parse? (text : String) : Option (List (String × Value)) :=
  match lines (dropMark text.toList) with
  | some (found, []) =>
    (found.foldl addLine (some Draft.empty)).map fun d => Node.finishPairs d.root
  | _ => none

end EnergyMeter.Toml
