import EnergyMeter.Toml.Reader
import Mathlib.Data.List.Basic

/-!
# Each key once

A TOML table has each key once. A document that is read keeps to this in all its tables, at the
top, below headers, in inline tables and in the rows of arrays: a key is put in place of one that
is there or behind those that are, and everything else is built from tables that keep to it.
-/

namespace EnergyMeter.Toml

open Text Scan

/-- That in every table of a value each key stands once. -/
inductive Value.Once : Value → Prop
  /-- A text. -/
  | string (s : String) : Once (.string s)
  /-- A whole number. -/
  | integer (n : Int) : Once (.integer n)
  /-- Any other number. -/
  | float (literal : String) : Once (.float literal)
  /-- A truth value. -/
  | boolean (b : Bool) : Once (.boolean b)
  /-- A date or a time. -/
  | datetime (literal : String) : Once (.datetime literal)
  /-- A row of such values. -/
  | array {items : List Value} (h : ∀ v ∈ items, v.Once) : Once (.array items)
  /-- A table of such values, its keys all different. -/
  | table {pairs : List (String × Value)} (keys : (pairs.map Prod.fst).Nodup)
      (h : ∀ x ∈ pairs, x.2.Once) : Once (.table pairs)

/-- The same for a part of a document that is being built. -/
inductive Node.Once : Node → Prop
  /-- A value. -/
  | value {v : Value} (h : v.Once) : Once (.value v)
  /-- A table. -/
  | table {origin : Origin} {pairs : Pairs} (keys : (pairs.map Prod.fst).Nodup)
      (h : ∀ x ∈ pairs, x.2.Once) : Once (.table origin pairs)
  /-- An array of tables. -/
  | rows {tables : List Pairs} (keys : ∀ row ∈ tables, (row.map Prod.fst).Nodup)
      (h : ∀ row ∈ tables, ∀ x ∈ row, x.2.Once) : Once (.rows tables)

/-- The same for the keys of a table that is being built. -/
structure Pairs.Once (pairs : Pairs) : Prop where
  /-- The keys are all different. -/
  keys : (pairs.map Prod.fst).Nodup
  /-- So they are further inside. -/
  inside : ∀ x ∈ pairs, x.2.Once

namespace Node

variable {key : String} {path : List String} {n : Node} {v : Value} {pairs pairs' : Pairs}
  {tables : List Pairs}

/-- The rows of an array of tables keep their keys apart. -/
theorem once_rows_iff : (Node.rows tables).Once ↔ ∀ row ∈ tables, Pairs.Once row := by
  constructor
  · intro h
    cases h with
    | rows keys h => exact fun row hrow => ⟨keys row hrow, h row hrow⟩
  · intro h
    exact .rows (fun row hrow => (h row hrow).keys) fun row hrow => (h row hrow).inside

/-- So do the keys of a table. -/
theorem once_table_iff {origin : Origin} : (Node.table origin pairs).Once ↔ pairs.Once := by
  constructor
  · intro h
    cases h with
    | table keys h => exact ⟨keys, h⟩
  · intro h
    exact .table h.keys h.inside

/-- No keys are all different. -/
theorem once_nil : Pairs.Once [] := ⟨.nil, by simp⟩

/-- A node that is looked up keeps its keys apart. -/
theorem once_of_lookup (h : pairs.Once) (hn : pairs.lookup key = some n) : n.Once := by
  obtain ⟨before, after, rfl, -⟩ := List.lookup_eq_some_iff.1 hn
  exact h.inside (key, n) (by simp)

/-- To put a node at a key keeps the keys apart. -/
theorem once_putKey (h : pairs.Once) (hn : n.Once) : (putKey key n pairs).Once := by
  unfold putKey
  split
  · rename_i hthere
    have hkeys : (pairs.map fun p => if p.1 = key then (key, n) else p).map Prod.fst =
        pairs.map Prod.fst := by
      rw [List.map_map]
      refine List.map_congr_left fun p _ => ?_
      by_cases hp : p.1 = key
      · simp [hp]
      · simp [hp]
    refine ⟨hkeys ▸ h.keys, fun x hx => ?_⟩
    obtain ⟨p, hp, rfl⟩ := List.mem_map.1 hx
    split
    · exact hn
    · exact h.inside p hp
  · rename_i hmissing
    have hnone : pairs.lookup key = none := Option.not_isSome_iff_eq_none.1 hmissing
    have hnew : key ∉ pairs.map Prod.fst := by
      intro hmem
      obtain ⟨p, hp, hkey⟩ := List.mem_map.1 hmem
      have hne := List.lookup_eq_none_iff.1 hnone p hp
      simp [hkey] at hne
    constructor
    · rw [List.map_append, List.nodup_append]
      refine ⟨h.keys, by simp, fun a ha b hb => ?_⟩
      have hb' : b = key := by simpa using hb
      exact fun hab => hnew (hb' ▸ hab ▸ ha)
    · intro x hx
      rcases List.mem_append.1 hx with hx | hx
      · exact h.inside x hx
      · exact List.mem_singleton.1 hx ▸ hn

/-- The last row of an array of tables keeps its keys apart. -/
theorem once_last (h : ∀ row ∈ tables, Pairs.Once row) :
    Pairs.Once (tables.getLast?.getD []) := by
  cases hlast : tables.getLast? with
  | none => exact once_nil
  | some row => exact h row (List.mem_of_getLast? hlast)

/-- To replace the last row keeps the keys apart. -/
theorem once_putLast (h : ∀ row ∈ tables, Pairs.Once row) (hrow : pairs.Once) :
    ∀ row ∈ putLast pairs tables, Pairs.Once row := by
  intro row hmem
  rcases List.mem_append.1 hmem with hmem | hmem
  · exact h row (List.dropLast_subset tables hmem)
  · exact List.mem_singleton.1 hmem ▸ hrow

/-- To add a value below a path keeps the keys apart. -/
theorem once_insert {mayEnd : Bool} (hv : v.Once) (h : pairs.Once)
    (hinsert : insert mayEnd path key v pairs = some pairs') : pairs'.Once := by
  induction path generalizing mayEnd pairs pairs' with
  | nil =>
    rw [insert] at hinsert
    split at hinsert
    · exact Option.some.inj hinsert ▸ once_putKey h (.value hv)
    · cases hinsert
  | cons k rest ih =>
    rw [insert] at hinsert
    split at hinsert
    · obtain ⟨ps, hps, rfl⟩ := Option.map_eq_some_iff.1 hinsert
      exact once_putKey h (once_table_iff.2 (ih once_nil hps))
    · cases hinsert
    · rename_i origin ps hfound
      split at hinsert
      · cases hinsert
      · obtain ⟨ps', hps', rfl⟩ := Option.map_eq_some_iff.1 hinsert
        have hinner := once_table_iff.1 (once_of_lookup h hfound)
        exact once_putKey h (once_table_iff.2 (ih hinner hps'))
    · rename_i tables hfound
      obtain ⟨ps', hps', rfl⟩ := Option.map_eq_some_iff.1 hinsert
      have hrows := once_rows_iff.1 (once_of_lookup h hfound)
      have hlast := ih (once_last hrows) hps'
      exact once_putKey h (once_rows_iff.2 (once_putLast hrows hlast))

/-- To change the table at the end of a path keeps the keys apart if the change does. -/
theorem once_update {change : Pairs → Option Pairs}
    (hchange : ∀ ps ps', change ps = some ps' → ps.Once → ps'.Once) (h : pairs.Once)
    (hupdate : update path change pairs = some pairs') : pairs'.Once := by
  induction path generalizing pairs pairs' with
  | nil => exact hchange pairs pairs' hupdate h
  | cons k rest ih =>
    rw [update] at hupdate
    split at hupdate
    · obtain ⟨ps, hps, rfl⟩ := Option.map_eq_some_iff.1 hupdate
      exact once_putKey h (once_table_iff.2 (ih once_nil hps))
    · cases hupdate
    · rename_i origin ps hfound
      obtain ⟨ps', hps', rfl⟩ := Option.map_eq_some_iff.1 hupdate
      have hinner := once_table_iff.1 (once_of_lookup h hfound)
      exact once_putKey h (once_table_iff.2 (ih hinner hps'))
    · rename_i tables hfound
      obtain ⟨ps', hps', rfl⟩ := Option.map_eq_some_iff.1 hupdate
      have hrows := once_rows_iff.1 (once_of_lookup h hfound)
      have hlast := ih (once_last hrows) hps'
      exact once_putKey h (once_rows_iff.2 (once_putLast hrows hlast))

/-- To open a table keeps the keys apart. -/
theorem once_openTable (h : pairs.Once) (hopen : openTable key pairs = some pairs') :
    pairs'.Once := by
  unfold openTable at hopen
  split at hopen
  · exact Option.some.inj hopen ▸ once_putKey h (once_table_iff.2 once_nil)
  · rename_i ps hfound
    have hinner := once_table_iff.1 (once_of_lookup h hfound)
    exact Option.some.inj hopen ▸ once_putKey h (once_table_iff.2 hinner)
  · cases hopen

/-- To open a row keeps the keys apart. -/
theorem once_openRow (h : pairs.Once) (hopen : openRow key pairs = some pairs') :
    pairs'.Once := by
  unfold openRow at hopen
  split at hopen
  · have hrow : ∀ row ∈ ([[]] : List Pairs), Pairs.Once row := by
      intro row hrow
      exact List.mem_singleton.1 hrow ▸ once_nil
    exact Option.some.inj hopen ▸ once_putKey h (once_rows_iff.2 hrow)
  · rename_i tables hfound
    have hrows := once_rows_iff.1 (once_of_lookup h hfound)
    have hmore : ∀ row ∈ tables ++ [[]], Pairs.Once row := by
      intro row hrow
      rcases List.mem_append.1 hrow with hrow | hrow
      · exact hrows row hrow
      · exact List.mem_singleton.1 hrow ▸ once_nil
    exact Option.some.inj hopen ▸ once_putKey h (once_rows_iff.2 hmore)
  · cases hopen

/-- A finished table has the keys of the table that was built. -/
theorem finishPairs_eq_map (pairs : Pairs) :
    finishPairs pairs = pairs.map fun x => (x.1, x.2.finish) := by
  induction pairs with
  | nil => rfl
  | cons x rest ih =>
    rw [finishPairs, ih]
    rfl

/-- The rows of a finished array are the finished tables. -/
theorem finishRows_eq_map (tables : List Pairs) :
    finishRows tables = tables.map fun row => .table (finishPairs row) := by
  induction tables with
  | nil => rfl
  | cons row rest ih =>
    rw [finishRows, ih]
    rfl

/-- A finished table keeps its keys apart if what it holds does. -/
theorem once_table_of_map (hkeys : (pairs.map Prod.fst).Nodup)
    (h : ∀ x ∈ pairs, x.2.finish.Once) : (Value.table (finishPairs pairs)).Once := by
  rw [finishPairs_eq_map]
  constructor
  · rw [List.map_map]
    exact hkeys
  · intro x hx
    obtain ⟨y, hy, rfl⟩ := List.mem_map.1 hx
    exact h y hy

/-- A finished part of a document keeps its keys apart. -/
theorem once_finish (h : n.Once) : n.finish.Once := by
  induction h with
  | value h => exact h
  | table keys _ ih => exact once_table_of_map keys ih
  | @rows tables keys _ ih =>
    rw [finish, finishRows_eq_map]
    refine .array fun v hv => ?_
    obtain ⟨row, hrow, rfl⟩ := List.mem_map.1 hv
    exact once_table_of_map (keys row hrow) (ih row hrow)

/-- So does a finished table. -/
theorem once_finishPairs (h : pairs.Once) : (Value.table (finishPairs pairs)).Once :=
  once_table_of_map h.keys fun x hx => once_finish (h.inside x hx)

end Node

/-- An inline table keeps its keys apart if its values do. -/
theorem once_inlineTable {entries : List (List String × Value)} {v : Value}
    (h : ∀ entry ∈ entries, entry.2.Once) (hv : inlineTable? entries = some v) : v.Once := by
  unfold inlineTable? at hv
  obtain ⟨ps, hps, rfl⟩ := Option.map_eq_some_iff.1 hv
  refine Node.once_finishPairs ?_
  -- A table with its keys apart is built on at each entry.
  refine List.foldlRecOn (motive := fun built => ∀ ps, built = some ps → Pairs.Once ps) entries _
    (fun ps hps => Option.some.inj hps ▸ Node.once_nil) ?_ ps hps
  intro built hbuilt entry hentry ps hps
  split at hps
  · exact Node.once_insert (h entry hentry) (hbuilt _ rfl) hps
  · cases hps

/-! ## Readers -/

/-- That all the results of a reader have a property. -/
def Yields {α : Type} (r : Reader α) (P : α → Prop) : Prop :=
  ∀ cs a rest, r cs = some (a, rest) → P a

namespace Yields

variable {α β : Type} {r r' : Reader α} {f : α → Reader β} {P : α → Prop} {Q : β → Prop}

/-- A reader that takes nothing yields its result. -/
theorem pure {a : α} (h : P a) : Yields (Pure.pure a) P := by
  intro cs b rest hb
  cases hb
  exact h

/-- A reader that fails yields nothing. -/
theorem failure : Yields (Alternative.failure : Reader α) P := by
  intro cs a rest ha
  cases ha

/-- A reader that another one follows yields what the other one does. -/
theorem bind (hr : Yields r P) (hf : ∀ a, P a → Yields (f a) Q) : Yields (r >>= f) Q := by
  intro cs b rest hb
  obtain ⟨⟨a, between⟩, ha, hfa⟩ := Option.bind_eq_some_iff.1 hb
  exact hf a (hr cs a between ha) between b rest hfa

/-- The same where nothing is asked of the first. -/
theorem step (hf : ∀ a, Yields (f a) Q) : Yields (r >>= f) Q :=
  bind (P := fun _ => True) (fun _ _ _ _ => trivial) fun a _ => hf a

/-- Alternatives yield what either does. -/
theorem orElse (hr : Yields r P) (hr' : Yields r' P) : Yields (r <|> r') P := by
  intro cs a rest ha
  cases hfirst : r cs with
  | some x =>
    have hx : (r <|> r') cs = some x := by
      change (r cs <|> r' cs) = some x
      rw [hfirst]
      rfl
    exact hr cs a rest (hfirst.trans (hx.symm.trans ha))
  | none =>
    have hx : (r <|> r') cs = r' cs := by
      change (r cs <|> r' cs) = r' cs
      rw [hfirst]
      rfl
    exact hr' cs a rest (hx.symm.trans ha)

/-- Rounds of a reader yield what it does. -/
theorem rounds (hr : Yields r P) (left : List Char) :
    Yields (Scan.rounds r left) fun row => ∀ a ∈ row, P a := by
  induction left with
  | nil => exact pure (by simp)
  | cons c left ih =>
    intro cs row rest hrow
    simp only [Scan.rounds] at hrow
    split at hrow
    · cases hrow
      simp
    · rename_i a between ha
      obtain ⟨⟨behind, left'⟩, hbehind, hsame⟩ := Option.map_eq_some_iff.1 hrow
      cases hsame
      exact List.forall_mem_cons.2 ⟨hr cs a between ha, ih between behind left' hbehind⟩

/-- So does a reader that is repeated. -/
theorem many (hr : Yields r P) : Yields (Scan.many r) fun row => ∀ a ∈ row, P a :=
  fun cs => rounds hr cs cs

/-- So does one that is repeated behind separators. -/
theorem separated {separator : Reader Unit} (hr : Yields r P) :
    Yields (Scan.separated r separator) fun row => ∀ a ∈ row, P a := by
  refine orElse (bind hr fun a ha => ?_) (pure (by simp))
  refine bind (many (step fun _ => hr)) fun row hrow => ?_
  exact pure (List.forall_mem_cons.2 ⟨ha, hrow⟩)

end Yields

/-- A whole number keeps keys apart: it has none. -/
theorem once_integer : Yields integer Value.Once := by
  have hword : ∀ n, Yields (wordSized n) Value.Once := by
    intro n
    unfold wordSized
    split
    · exact .pure (.integer n)
    · exact .failure
  have hmarked : ∀ mark base p, Yields (marked mark base p) Value.Once := fun mark base p =>
    .step fun _ => .step fun digits => hword _
  refine .orElse (hmarked _ _ _) (.orElse (hmarked _ _ _) (.orElse (hmarked _ _ _) ?_))
  exact .step fun negative => .step fun digits => hword _

/-- So does any other number. -/
theorem once_float : Yields float Value.Once := by
  refine .orElse ?_ ?_
  · refine .step fun start => .step fun negative => .step fun whole => .step fun parts => ?_
    dsimp only
    split
    · exact .bind .failure fun _ h => h
    · exact .step fun left => .pure (.float _)
  · exact .step fun negative => .step fun word => .pure (.float _)

/-- So does a date or a time. -/
theorem once_moment : Yields moment Value.Once :=
  .step fun _ => .step fun _ => .step fun _ => .pure (.datetime _)

/-- A value that holds no other keeps keys apart. -/
theorem once_scalar : Yields scalar Value.Once := by
  refine .step fun next => ?_
  split
  · exact .step fun s => .pure (.string s)
  · exact .step fun s => .pure (.string s)
  · exact .step fun _ => .pure (.boolean true)
  · exact .step fun _ => .pure (.boolean false)
  · exact .orElse once_moment (.orElse once_float once_integer)
  · exact .failure

section Containers

variable {item : Reader Value}

/-- An array keeps keys apart if its items do. -/
theorem once_arrayOf (hitem : Yields item Value.Once) : Yields (arrayOf item) Value.Once := by
  refine .step fun _ => .bind (.separated (P := Value.Once) ?_) fun items hitems => ?_
  · exact .step fun _ => .bind hitem fun v hv => .step fun _ => .pure hv
  · split
    · exact .step fun _ => .step fun _ => .step fun _ => .pure (.array hitems)
    · exact .step fun _ => .step fun _ => .pure (.array hitems)

/-- So does an inline table. -/
theorem once_inlineTableOf (hitem : Yields item Value.Once) :
    Yields (inlineTableOf item) Value.Once := by
  refine .step fun _ => .bind (.separated (P := fun entry => entry.2.Once) ?_) fun entries h => ?_
  · exact .step fun path => .step fun _ => .step fun _ => .bind hitem fun v hv =>
      .step fun _ => .pure hv
  · refine .step fun _ => .step fun _ => ?_
    split
    · rename_i v hv
      exact .pure (once_inlineTable h hv)
    · exact .failure

end Containers

/-- A value that is read keeps its keys apart. The induction is on how deep it may nest. -/
theorem once_value (depth : Nat) : Yields (value depth) Value.Once := by
  induction depth with
  | zero => exact once_scalar
  | succ depth ih =>
    refine .step fun next => ?_
    split
    · exact once_arrayOf ih
    · exact once_inlineTableOf ih
    · exact once_scalar

/-- That the value on a line keeps its keys apart. -/
def Line.Once (l : Line) : Prop := ∀ path v, l = .entry path v → v.Once

/-- A line that is read keeps the keys of its value apart. -/
theorem once_line : Yields line Line.Once := by
  have hblank : Line.Once .blank := fun _ _ h => nomatch h
  have hheader : ∀ row path, Line.Once (.header row path) := fun _ _ _ _ h => nomatch h
  refine .step fun _ => .step fun next => ?_
  split
  · exact .step fun _ => .step fun _ => .pure hblank
  · refine .orElse ?_ ?_
    · exact .step fun _ => .step fun path => .step fun _ => .step fun _ => .pure (hheader true path)
    · exact .step fun _ => .step fun path => .step fun _ => .step fun _ => .pure (hheader false path)
  · exact .step fun _ => .pure hblank
  · exact .step fun _ => .pure hblank
  · refine .step fun path => .step fun _ => .step fun _ => .bind (once_value nestingLimit) ?_
    refine fun v hv => .step fun _ => .pure fun path' v' h => ?_
    cases h
    exact hv

/-- A line added to a document leaves its keys apart. -/
theorem once_addLine {d d' : Draft} {l : Line} (h : d.root.Once) (hl : l.Once)
    (hadd : addLine (some d) l = some d') : d'.root.Once := by
  cases l with
  | blank => exact Option.some.inj hadd ▸ h
  | header row path =>
    change d.header? row path = some d' at hadd
    unfold Draft.header? at hadd
    split at hadd
    · cases hadd
    · rename_i key _
      obtain ⟨root, hroot, rfl⟩ := Option.map_eq_some_iff.1 hadd
      refine Node.once_update (fun ps ps' hchange hps => ?_) h hroot
      split at hchange
      · exact Node.once_openRow hps hchange
      · exact Node.once_openTable hps hchange
  | entry path v =>
    change d.add? path v = some d' at hadd
    unfold Draft.add? at hadd
    split at hadd
    · cases hadd
    · obtain ⟨root, hroot, rfl⟩ := Option.map_eq_some_iff.1 hadd
      have hv := hl path v rfl
      exact Node.once_update (fun ps ps' hchange hps => Node.once_insert hv hps hchange) h hroot

/-- So do all its lines. -/
theorem once_addLines {found : List Line} {d d' : Draft} (h : d.root.Once)
    (hfound : ∀ l ∈ found, l.Once) (hadd : found.foldl addLine (some d) = some d') :
    d'.root.Once := by
  induction found generalizing d with
  | nil => exact Option.some.inj hadd ▸ h
  | cons l rest ih =>
    rw [List.foldl_cons] at hadd
    cases hl : addLine (some d) l with
    | none =>
      rw [hl, List.foldl_fixed' (fun _ => rfl)] at hadd
      cases hadd
    | some between =>
      rw [hl] at hadd
      have hbetween := once_addLine h (hfound l (.head _)) hl
      exact ih hbetween (fun l' hl' => hfound l' (.tail _ hl')) hadd

/-- **Each key stands once in a document that is read**: in its own table and in every table
inside, whether headers, dotted keys or braces made it. -/
theorem once_of_parse? {text : String} {document : List (String × Value)}
    (h : parse? text = some document) : (Value.table document).Once := by
  unfold parse? at h
  split at h
  · rename_i found hfound
    obtain ⟨d, hd, rfl⟩ := Option.map_eq_some_iff.1 h
    have hlines : Yields lines fun row => ∀ l ∈ row, Line.Once l :=
      .bind (.many once_line) fun row hrow => .step fun _ => .pure hrow
    have hrow := hlines _ _ _ hfound
    exact Node.once_finishPairs (once_addLines Node.once_nil hrow hd)
  · cases h

end EnergyMeter.Toml
