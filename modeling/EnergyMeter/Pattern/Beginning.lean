import EnergyMeter.Pattern.Joining
import EnergyMeter.Pattern.ByteRange

/-!
# How matches begin

Every match of an expression begins with one of its beginnings. An expression
with a few beginnings that are matches themselves is looked for as such, and no
machine is built for it. Beginnings are followed up to limits of their length and
of their number.
-/

namespace EnergyMeter.Pattern

open Text

/-- The bytes that a match begins with. -/
structure Beginning where
  /-- The bytes. -/
  bytes : List Nat
  /-- Whether they are all of the match. -/
  whole : Bool
  deriving DecidableEq, Repr

/-- The longest beginning. -/
def beginningLength : Nat := 100

/-- The largest number of beginnings. -/
def beginningCount : Nat := 250

/-- The largest set of characters that is taken apart. -/
def beginningSet : Nat := 10

/-- How often a repetition is followed. -/
def beginningRounds : Nat := 10

/-- An beginning cut to a number of bytes. -/
def Beginning.cut (n : Nat) (o : Beginning) : Beginning :=
  if n < o.bytes.length then ⟨o.bytes.take n, false⟩ else o

/-- An beginning that matches go on behind. -/
def Beginning.goesOn (o : Beginning) : Beginning := ⟨o.bytes, false⟩

/-- The beginnings of an expression, those of preferred matches first; none are
given if there are too many. -/
abbrev Beginnings := Option (List Beginning)

namespace Beginnings

/-- The beginnings of the empty text. -/
def nothing : Beginnings := some [⟨[], true⟩]

/-- Beginnings in a row that have the same bytes are one. -/
def merge : List Beginning → List Beginning
  | [] => []
  | o :: os =>
    match merge os with
    | [] => [o]
    | p :: ps =>
      if o.bytes = p.bytes then ⟨o.bytes, o.whole && p.whole⟩ :: ps else o :: p :: ps

/-- Whether no beginning can be followed. -/
def areDone (a : Beginnings) : Bool :=
  a.all (·.all (!·.whole))

/-- The beginnings of what goes on behind them. -/
def goOn (a : Beginnings) : Beginnings :=
  a.map (·.map Beginning.goesOn)

/-- The beginnings of one expression or of another. -/
def or (a b : Beginnings) : Beginnings := do
  let os ← a
  let ps ← b
  if os.length + ps.length ≤ beginningCount then return merge (os ++ ps)
  else
    let os := merge (os.map (·.cut 4))
    let ps := merge (ps.map (·.cut 4))
    if os.length + ps.length ≤ beginningCount then return merge (os ++ ps) else none

/-- The beginnings of one expression behind another. -/
def andThen (a b : Beginnings) : Beginnings :=
  if areDone a then a
  else
    let b := b.filter fun ps => a.all fun os => os.length * ps.length ≤ beginningCount
    match a, b with
    | none, _ => none
    | some os, none => if os.any (·.bytes.isEmpty) then none else goOn a
    | some os, some ps =>
      let follow (o : Beginning) : List Beginning :=
        if o.whole then ps.map fun p => ⟨o.bytes ++ p.bytes, p.whole⟩ else [o]
      some ((merge (os.flatMap follow)).map (·.cut beginningLength))

/-- The beginnings of an expression some times behind itself. -/
def rounds (a : Beginnings) (n : Nat) : Beginnings :=
  (List.replicate (min n beginningRounds) a).foldl andThen nothing

/-- The beginnings of a repetition. -/
def repeated (a : Beginnings) (least : Nat) (most : Option Nat) (fewest : Bool) : Beginnings :=
  if least = 0 then
    let some? := if most = some 1 then a else goOn a
    if fewest then nothing.or some? else some?.or nothing
  else if most = some least && least ≤ beginningRounds then a.rounds least
  else goOn (a.rounds least)

/-- The beginnings of one character of a set. -/
def ofSet (set : Ranges) : Beginnings :=
  if beginningSet < (set.map fun r => r.2 + 1 - r.1).foldl (· + ·) 0 then none
  else
    let codes := set.flatMap fun r => (List.range (r.2 + 1 - r.1)).map (r.1 + ·)
    some (codes.map fun code => ⟨bytesOf code, true⟩)

end Beginnings

/-- Where the beginnings of an expression go: behind others, or beside them. -/
inductive Placement where
  /-- The expression comes behind another. -/
  | behind
  /-- The expression is another branch of a choice. -/
  | beside
  deriving DecidableEq, Repr

/-- Puts beginnings behind others or beside them. -/
def Placement.put (p : Placement) (before beginnings : Beginnings) : Beginnings :=
  match p with
  | .behind => before.andThen beginnings
  | .beside => before.or beginnings

namespace Expression

/-- The beginnings of an expression, put behind others or beside them. -/
def beginningsOn (p : Placement) (before : Beginnings) : Expression → Beginnings
  | .text cs =>
    let o := Beginning.mk (cs.flatMap fun c => bytesOf c.toNat) true
    p.put before (some [o.cut beginningLength])
  | .one set _ => p.put before (Beginnings.ofSet set)
  | .look _ => p.put before .nothing
  | .both a b =>
    match p with
    | .behind => b.beginningsOn .behind (a.beginningsOn .behind before)
    | .beside => before.or (b.beginningsOn .behind (a.beginningsOn .behind .nothing))
  | .either a b =>
    match p with
    | .behind => before.andThen (b.beginningsOn .beside (a.beginningsOn .beside (some [])))
    | .beside => b.beginningsOn .beside (a.beginningsOn .beside before)
  | .kept _ e => p.put before (e.beginningsOn .behind .nothing)
  | .repeated e least most fewest =>
    p.put before ((e.beginningsOn .behind .nothing).repeated least most fewest)

/-- The beginnings of an expression. -/
def beginnings (e : Expression) : Beginnings :=
  e.beginningsOn .behind .nothing

/-- Whether an expression holds no group that is kept and no condition on a
place. -/
def isPlain : Expression → Bool
  | .text _ | .one .. => true
  | .look _ | .kept .. => false
  | .both a b | .either a b => a.isPlain && b.isPlain
  | .repeated e .. => e.isPlain

end Expression

/-- The beginnings without those that begin with an earlier one. -/
def leading (os : List Beginning) : List Beginning :=
  os.foldl (fun found o =>
    if found.any (·.bytes.isPrefixOf o.bytes) then found else found ++ [o]) []

/-- What two rows of bytes begin with. -/
def sharedBytes : List Nat → List Nat → List Nat
  | a :: as, b :: bs => if a = b then a :: sharedBytes as bs else []
  | _, _ => []

/-- The ASCII characters that texts are full of. -/
def frequentChars : List Char :=
  "\n\r (),-./0129:_abcdefghilmnoprstuvxy|".toList

/-- Whether texts are full of a byte. -/
def isFrequent (byte : Nat) : Bool :=
  0xc0 ≤ byte || frequentChars.any (·.toNat = byte)

/-- Whether the first byte that beginnings share is looked for instead of them,
since it is rare. -/
def prefersByte (count : Nat) (shared : List Nat) : Bool :=
  1 < count && shared.length ≤ 3 && shared.head?.any (!isFrequent ·)

/-- Whether the bytes that beginnings share are looked for instead of them, since
they are long or the beginnings are many. -/
def prefersShared (os : List Beginning) (shared : List Nat) : Bool :=
  4 < shared.length || (1 < shared.length && 16 < os.length)

/-- Lengths that beginnings are cut to one after the other, each as long as there
are more beginnings than a number. -/
def shorterLengths : List (Nat × Nat) := [(5, 10), (4, 10), (3, 64), (2, 64), (1, 10)]

/-- The beginnings that are looked for instead of many. -/
def shortened (os : List Beginning) : List (Nat × Nat) → List Beginning
  | [] => os
  | (length, count) :: rest =>
    if os.length ≤ count then os else shortened (leading (os.map (·.cut length))) rest

/-- Whether shortened beginnings are worth less than the whole matches: some are
short, or there are many of them. -/
def areWorthless (os : List Beginning) : Bool :=
  os.any (·.bytes.length ≤ 2) || 64 < os.length

/-- What all beginnings begin with. -/
def sharedOf : List Beginning → List Nat
  | [] => []
  | o :: os => os.foldl (fun shared p => sharedBytes shared p.bytes) o.bytes

/-- Whether beginnings are looked for themselves, being whole matches. Those that
begin with an earlier one need not be, since the earlier one is found first. -/
def areSought (os : List Beginning) : Bool :=
  let first := leading os
  let shared := sharedOf first
  let short := shortened first shorterLengths
  if os.isEmpty || os.any (·.bytes.isEmpty) || !first.all (·.whole) then false
  else if prefersByte os.length shared then first.all (·.bytes.length = 1)
  else if prefersShared first shared then first.length = 1
  else areWorthless short || short.all (·.whole)

/-- Whether an expression is looked for as the texts that it stands for. -/
def Expression.isFewTexts (e : Expression) : Bool :=
  e.isPlain && e.beginnings.any areSought

end EnergyMeter.Pattern
