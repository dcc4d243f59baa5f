import EnergyMeter.Pattern.Machine

/-!
# Machines for words

A choice between words only is built as a tree, in which words share their
beginning. A word that ends inside the tree divides the words before it from
those behind it, since the ones before are preferred.
-/

namespace EnergyMeter.Pattern

/-- A word as bytes. -/
abbrev Word := List Nat

/-- The words of a node between those that end in it. Words that end in it
before any other goes on are one. -/
def chunks (words : List Word) : List (List Word) :=
  let first := words.takeWhile (· = [])
  let rest := words.drop first.length
  let close (done : List (List Word) × List Word) (word : Word) :=
    if word = [] then (done.2.reverse :: done.1, [])
    else (done.1, word :: done.2)
  let (done, last) := rest.foldl close ([], [])
  let parts := (last.reverse :: done).reverse
  if first.isEmpty then parts else [] :: parts

/-- The words of a chunk by their first byte, each without it. -/
def children (chunk : List Word) : List (List Word) :=
  (chunk.filterMap List.head?).eraseDups.map fun b =>
    (chunk.filter (·.head? = some b)).map List.tail

/-- Whether no word of a node goes on. -/
def isLeaf (words : List Word) : Bool :=
  words.all (· = [])

/-- The states of a node: one for each chunk that has words, and a fork to them
and to the end. -/
def Machine.addNode (chunks : List (List Word)) (m : Machine) : Machine :=
  let filled := chunks.filter (· ≠ [])
  let addChunk (m : Machine) (chunk : List Word) : Machine :=
    match (children chunk).length with
    | 0 | 1 => m.add 1
    | n => m.addRanges n
  (filled.foldl addChunk m).addFork (filled.length + (chunks.length - 1))

/-- Adds nodes and those below them. The fuel is more than their number. -/
def Machine.addNodes : Nat → List (List Word) → Machine → Machine
  | 0, _, m => m
  | _ + 1, [], m => m
  | fuel + 1, words :: nodes, m =>
    let parts := chunks words
    let below := (parts.flatMap children).filter fun words => !isLeaf words
    addNodes fuel (below ++ nodes) (m.addNode parts)

/-- A machine with states that read one of several words. -/
def Machine.addWords (words : List Word) (m : Machine) : Machine :=
  addNodes ((words.map List.length).foldl (· + ·) 1) [words] (m.add 1)

end EnergyMeter.Pattern
