import EnergyMeter.Toml.Value

/-!
# Building a TOML document

A document grows by headers and by keys with values. Each table remembers how it
came about, since that decides who may still add to it: a table that a header
opened is closed to dotted keys and to a second header, one that only stands on
the way to a header may be opened by its own header, and one made by dotted keys
is open to dotted keys alone. The last row of an array of tables stands for the
array wherever a path goes through it.
-/

namespace EnergyMeter.Toml

/-- How a table came about. -/
inductive Origin where
  /-- A header opened it. -/
  | header
  /-- It stands on the way to a header. -/
  | implied
  /-- Dotted keys made it. -/
  | dotted
  deriving DecidableEq, Repr

/-- A part of a document that is being built. -/
inductive Node where
  /-- A value, closed to additions. -/
  | value (v : Value)
  /-- A table. -/
  | table (origin : Origin) (pairs : List (String × Node))
  /-- An array of tables opened by headers. -/
  | rows (tables : List (List (String × Node)))
  deriving Inhabited

/-- The keys of a table that is being built. -/
abbrev Pairs := List (String × Node)

namespace Node

/-- Puts a node at a key, in place of one that is there. -/
def putKey (key : String) (n : Node) (pairs : Pairs) : Pairs :=
  if (pairs.lookup key).isSome then pairs.map fun p => if p.1 = key then (key, n) else p
  else pairs ++ [(key, n)]

/-- Replaces the last row of an array of tables. -/
def putLast (row : Pairs) (rows : List Pairs) : List Pairs :=
  rows.dropLast ++ [row]

/-- Adds a value below a path of dotted keys. Behind the first key the value has
to land in a table made by dotted keys. -/
def insert (mayEnd : Bool) (path : List String) (key : String) (v : Value) (pairs : Pairs) :
    Option Pairs :=
  match path with
  | [] =>
    if mayEnd && (pairs.lookup key).isNone then some (putKey key (.value v) pairs) else none
  | k :: rest =>
    match pairs.lookup k with
    | none => (insert true rest key v []).map fun ps => putKey k (.table .dotted ps) pairs
    | some (.value _) => none
    | some (.table origin ps) =>
      if origin = .header then none
      else
        (insert (origin = .dotted) rest key v ps).map fun ps' =>
          putKey k (.table origin ps') pairs
    | some (.rows tables) =>
      (insert false rest key v (tables.getLast?.getD [])).map fun ps' =>
        putKey k (.rows (putLast ps' tables)) pairs

/-- Changes the table at the end of a path of headers. Tables missing on the
way are made. -/
def update (path : List String) (change : Pairs → Option Pairs) (pairs : Pairs) :
    Option Pairs :=
  match path with
  | [] => change pairs
  | k :: rest =>
    match pairs.lookup k with
    | none => (update rest change []).map fun ps => putKey k (.table .implied ps) pairs
    | some (.value _) => none
    | some (.table origin ps) =>
      (update rest change ps).map fun ps' => putKey k (.table origin ps') pairs
    | some (.rows tables) =>
      (update rest change (tables.getLast?.getD [])).map fun ps' =>
        putKey k (.rows (putLast ps' tables)) pairs

/-- Opens the table of a header. -/
def openTable (key : String) (pairs : Pairs) : Option Pairs :=
  match pairs.lookup key with
  | none => some (putKey key (.table .header []) pairs)
  | some (.table .implied ps) => some (putKey key (.table .header ps) pairs)
  | some _ => none

/-- Opens a row of an array of tables. -/
def openRow (key : String) (pairs : Pairs) : Option Pairs :=
  match pairs.lookup key with
  | none => some (putKey key (.rows [[]]) pairs)
  | some (.rows tables) => some (putKey key (.rows (tables ++ [[]])) pairs)
  | some _ => none

mutual

/-- The value that a finished node is. -/
def finish : Node → Value
  | .value v => v
  | .table _ pairs => .table (finishPairs pairs)
  | .rows tables => .array (finishRows tables)

/-- The values of a finished table. -/
def finishPairs : List (String × Node) → List (String × Value)
  | [] => []
  | (k, n) :: rest => (k, finish n) :: finishPairs rest

/-- The tables of a finished array of tables. -/
def finishRows : List (List (String × Node)) → List Value
  | [] => []
  | row :: rest => .table (finishPairs row) :: finishRows rest

end

end Node

/-- The table of an inline table's pairs: paths of keys and values. -/
def inlineTable? (entries : List (List String × Value)) : Option Value :=
  let step (pairs : Option Pairs) (entry : List String × Value) : Option Pairs :=
    match pairs, entry.1.getLast? with
    | some ps, some key => Node.insert true entry.1.dropLast key entry.2 ps
    | _, _ => none
  (entries.foldl step (some [])).map fun ps => .table (Node.finishPairs ps)

/-- A document that is being built. -/
structure Draft where
  /-- The document's table. -/
  root : Pairs
  /-- The path of the table that keys are added to. -/
  current : List String

namespace Draft

/-- The document without a line. -/
def empty : Draft := ⟨[], []⟩

/-- Adds a value at a path of keys to the current table. -/
def add? (d : Draft) (path : List String) (v : Value) : Option Draft :=
  match path.getLast? with
  | none => none
  | some key =>
    (Node.update d.current (Node.insert true path.dropLast key v) d.root).map fun root =>
      { d with root := root }

/-- Opens the table of a header, or a row for a header of an array of tables. -/
def header? (d : Draft) (row : Bool) (path : List String) : Option Draft :=
  match path.getLast? with
  | none => none
  | some key =>
    let change := if row then Node.openRow key else Node.openTable key
    (Node.update path.dropLast change d.root).map fun root => ⟨root, path⟩

end Draft

end EnergyMeter.Toml
