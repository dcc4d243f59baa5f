import EnergyMeter.Proofs.DocumentKeys
import EnergyMeter.Settings
import Mathlib.Logic.Relation

/-!
# What a document says about the directories

The table `sysfs` of a document gives the directories of the sensors: a table names them, an
array lists them, and a date stands for a table without them. Each directory is filled on its
own, by the text that is given for it or by its standard. Nothing else in the document counts:
other keys may come, go or change, and keys may stand in any order.
-/

namespace EnergyMeter.Settings

open Files Log Toml

/-- One of the directories that settings name. -/
inductive RootName where
  /-- The directory of the processors' counters. -/
  | powercap
  /-- The directory of the other sensors. -/
  | hwmon

namespace RootName

/-- The key that a table gives it by. -/
def key : RootName → String
  | powercap => "powercap_root"
  | hwmon => "hwmon_root"

/-- Its place in an array. -/
def place : RootName → Nat
  | powercap => 0
  | hwmon => 1

/-- What it is if nothing is given. -/
def standard : RootName → Path
  | powercap => SensorRoots.standard.powercap
  | hwmon => SensorRoots.standard.hwmon

/-- What it is in settings. -/
def of (s : Settings) : RootName → Path
  | powercap => s.roots.powercap
  | hwmon => s.roots.hwmon

end RootName

/-- That a value of `sysfs` gives a value for a directory. -/
inductive Gives : Value → RootName → Value → Prop
  /-- A table gives it by its key. -/
  | named {pairs : List (String × Value)} {root : RootName} {v : Value}
      (h : (root.key, v) ∈ pairs) : Gives (.table pairs) root v
  /-- An array gives it at its place. -/
  | placed {items : List Value} {root : RootName} {v : Value}
      (h : items[root.place]? = some v) : Gives (.array items) root v

/-- That all that a value gives for a directory is text. -/
def GivesTexts (sysfs : Value) : Prop := ∀ root v, Gives sysfs root v → ∃ text, v = .string text

/-- That a document can be read as settings. -/
inductive Readable (document : List (String × Value)) : Prop
  /-- It has no `sysfs`. -/
  | absent (h : ∀ v, ("sysfs", v) ∉ document)
  /-- A table names the directories by texts. -/
  | table {pairs : List (String × Value)} (h : ("sysfs", .table pairs) ∈ document)
      (htexts : GivesTexts (.table pairs))
  /-- A date or a time stands for a table. -/
  | datetime {literal : String} (h : ("sysfs", .datetime literal) ∈ document)
  /-- An array lists the directories by texts. -/
  | array {items : List Value} (h : ("sysfs", .array items) ∈ document)
      (htexts : GivesTexts (.array items))

/-- That settings are those of a document, one directory like the other. -/
structure Stated (document : List (String × Value)) (s : Settings) : Prop where
  /-- A directory that is given is the path that its text is. -/
  given : ∀ sysfs root text, ("sysfs", sysfs) ∈ document → Gives sysfs root (.string text) →
    root.of s = ⟨text⟩
  /-- One that is not given is the standard one. -/
  standard : ∀ root, (∀ sysfs v, ("sysfs", sysfs) ∈ document → ¬ Gives sysfs root v) →
    root.of s = root.standard

/-- That a value is another one with the keys of a table in another order, at any depth. -/
inductive Reordered : Value → Value → Prop
  /-- The keys of the table itself. -/
  | keys {pairs pairs' : List (String × Value)} (hkeys : (pairs.map Prod.fst).Nodup)
      (h : pairs.Perm pairs') : Reordered (.table pairs) (.table pairs')
  /-- Those further inside a table. -/
  | inTable {before after : List (String × Value)} {key : String} {v v' : Value}
      (h : Reordered v v') :
      Reordered (.table (before ++ (key, v) :: after)) (.table (before ++ (key, v') :: after))
  /-- Those further inside an array. -/
  | inArray {before after : List Value} {v v' : Value} (h : Reordered v v') :
      Reordered (.array (before ++ v :: after)) (.array (before ++ v' :: after))

/-- A change of a document that should not matter. -/
inductive Idle : List (String × Value) → List (String × Value) → Prop
  /-- Other keys than `sysfs` come in place of others. -/
  | outside {before after others others' : List (String × Value)}
      (h : ∀ x ∈ others ++ others', x.1 ≠ "sysfs") :
      Idle (before ++ others ++ after) (before ++ others' ++ after)
  /-- Inside its table keys without a meaning come in place of others. -/
  | inside {top bottom before after others others' : List (String × Value)}
      (h : ∀ x ∈ others ++ others', ∀ root : RootName, x.1 ≠ root.key) :
      Idle (top ++ ("sysfs", .table (before ++ others ++ after)) :: bottom)
        (top ++ ("sysfs", .table (before ++ others' ++ after)) :: bottom)
  /-- Keys change places. -/
  | reordered {document document' : List (String × Value)}
      (h : Reordered (.table document) (.table document')) : Idle document document'

section Lookups

variable {α : Type} {pairs pairs' : List (String × α)} {key : String} {a : α}

/-- Where each key stands once, a look-up finds what stands at the key. -/
theorem lookup_eq_some_iff_mem (hkeys : (pairs.map Prod.fst).Nodup) :
    pairs.lookup key = some a ↔ (key, a) ∈ pairs := by
  induction pairs with
  | nil => simp
  | cons x rest ih =>
    obtain ⟨k, b⟩ := x
    rw [List.map_cons, List.nodup_cons] at hkeys
    rw [List.lookup_cons]
    by_cases hk : key = k
    · subst hk
      have hrest : (key, a) ∉ rest := fun h => hkeys.1 (List.mem_map.2 ⟨_, h, rfl⟩)
      simp [hrest, eq_comm]
    · simp [show (key == k) = false by simpa using hk, hk, ih hkeys.2]

/-- A look-up finds nothing exactly if nothing stands at the key. -/
theorem lookup_eq_none_iff_forall : pairs.lookup key = none ↔ ∀ a, (key, a) ∉ pairs := by
  rw [List.lookup_eq_none_iff]
  constructor
  · intro h a ha
    simpa using h (key, a) ha
  · intro h x hx
    have hne : key ≠ x.1 := fun hkey => h x.2 (hkey ▸ hx)
    simpa using hne

/-- Where each key stands once, a look-up does not depend on the order. -/
theorem lookup_eq_of_perm (hkeys : (pairs.map Prod.fst).Nodup) (h : pairs.Perm pairs') :
    pairs.lookup key = pairs'.lookup key := by
  have hkeys' : (pairs'.map Prod.fst).Nodup := ((h.map Prod.fst).nodup_iff).1 hkeys
  refine Option.ext fun a => ?_
  rw [lookup_eq_some_iff_mem hkeys, lookup_eq_some_iff_mem hkeys', h.mem_iff]

/-- A look-up passes over other keys. -/
theorem lookup_others {before others after : List (String × α)}
    (h : ∀ x ∈ others, x.1 ≠ key) :
    (before ++ others ++ after).lookup key = (before ++ after).lookup key := by
  have hnone : others.lookup key = none :=
    lookup_eq_none_iff_forall.2 fun a ha => h (key, a) ha rfl
  simp [List.lookup_append, hnone]

/-- A look-up of what stands at a key behind others. -/
theorem lookup_place {before after : List (String × α)} {k : String} :
    (before ++ (k, a) :: after).lookup key =
      (before.lookup key).or (if key = k then some a else after.lookup key) := by
  rw [List.lookup_append, List.lookup_cons]
  by_cases hk : key = k
  · simp [hk]
  · simp [hk, show (key == k) = false by simpa using hk]

end Lookups

section Roots

variable {document document' : List (String × Value)} {v v' : Value} {standard : Path}
  {root : RootName} {s : Settings}

/-- What a value of `sysfs` gives for a directory, if anything. -/
def given? : Value → RootName → Option Value
  | .table pairs, root => pairs.lookup root.key
  | .array items, root => items[root.place]?
  | _, _ => none

/-- That a value may stand for `sysfs`. -/
def holds : Value → Bool
  | .table _ | .array _ | .datetime _ => true
  | _ => false

/-- The settings of a document are those of the two directories that `sysfs` gives. -/
theorem decodeRoots?_some (v : Value) :
    decodeRoots? (some v) =
      if holds v then rootsOf? (given? v .powercap) (given? v .hwmon) else none := by
  cases v <;> rfl

/-- In a table with its keys apart, what is given for a directory is what is looked up. -/
theorem given?_eq_some (hv : v.Once) : given? v root = some v' ↔ Gives v root v' := by
  constructor
  · intro h
    cases hv with
    | table keys _ => exact .named ((lookup_eq_some_iff_mem keys).1 h)
    | array _ => exact .placed h
    | string | integer | float | boolean | datetime => cases h
  · intro h
    cases hv with
    | table keys _ =>
      cases h with
      | named h => exact (lookup_eq_some_iff_mem keys).2 h
    | array _ =>
      cases h with
      | placed h => exact h
    | string | integer | float | boolean | datetime => cases h

/-- A directory is the path of the text that is given, or else the standard one. -/
theorem root?_eq_some {given : Option Value} {p : Path} :
    root? given standard = some p ↔
      (∀ v, given = some v → v = .string p.text) ∧ (given = none → p = standard) := by
  cases given with
  | none => simp [root?, eq_comm]
  | some v =>
    cases v <;> simp [root?]
    case string text =>
      obtain ⟨t⟩ := p
      simp

/-- There is one exactly if nothing but text is given. -/
theorem exists_root? {given : Option Value} :
    (∃ p, root? given standard = some p) ↔ ∀ v, given = some v → ∃ text, v = .string text := by
  cases given with
  | none => simp [root?]
  | some v => cases v <;> simp [root?]

/-- Both directories are found exactly if each is. -/
theorem rootsOf?_eq_some {powercap hwmon : Option Value} {roots : SensorRoots} :
    rootsOf? powercap hwmon = some roots ↔
      root? powercap SensorRoots.standard.powercap = some roots.powercap ∧
        root? hwmon SensorRoots.standard.hwmon = some roots.hwmon := by
  unfold rootsOf?
  split
  · rename_i p h hp hh
    rw [hp, hh]
    obtain ⟨p', h'⟩ := roots
    simp
  · rename_i hnot
    constructor
    · intro h
      cases h
    · exact fun h => absurd h.2 (hnot _ _ h.1)

/-- The directories that a value of `sysfs` gives, each on its own. -/
theorem rootsOf?_given {roots : SensorRoots} :
    rootsOf? (given? v .powercap) (given? v .hwmon) = some roots ↔
      ∀ root : RootName, root? (given? v root) root.standard = some (root.of ⟨roots⟩) := by
  rw [rootsOf?_eq_some]
  constructor
  · intro h root
    cases root with
    | powercap => exact h.1
    | hwmon => exact h.2
  · exact fun h => ⟨h .powercap, h .hwmon⟩

/-- Settings are read off the value of `sysfs`, or are the standard ones without it. -/
theorem decode?_eq_some (hkeys : (document.map Prod.fst).Nodup) :
    decode? document = some s ↔
      ((∀ v, ("sysfs", v) ∉ document) ∧ s = .standard) ∨
        ∃ sysfs, ("sysfs", sysfs) ∈ document ∧ holds sysfs = true ∧
          ∀ root : RootName, root? (given? sysfs root) root.standard = some (root.of s) := by
  unfold decode?
  cases hlookup : document.lookup "sysfs" with
  | none =>
    have habsent := lookup_eq_none_iff_forall.1 hlookup
    have hstandard : (decodeRoots? none).map mk = some Settings.standard := rfl
    rw [hstandard, Option.some.injEq]
    simpa [habsent] using eq_comm
  | some sysfs =>
    have hmem := (lookup_eq_some_iff_mem hkeys).1 hlookup
    have honly : ∀ v, ("sysfs", v) ∈ document ↔ v = sysfs := by
      intro v
      rw [← lookup_eq_some_iff_mem hkeys, hlookup, Option.some.injEq, eq_comm]
    obtain ⟨roots⟩ := s
    simp only [honly, decodeRoots?_some, exists_eq_left, Option.map_eq_some_iff, mk.injEq,
      exists_eq_right, ← rootsOf?_given]
    cases holds sysfs <;> simp

/-- The only value that stands for `sysfs`. -/
theorem sysfs_unique (hkeys : (document.map Prod.fst).Nodup) (h : ("sysfs", v) ∈ document)
    (h' : ("sysfs", v') ∈ document) : v = v' := by
  rw [← lookup_eq_some_iff_mem hkeys] at h h'
  exact Option.some.inj (h.symm.trans h')

/-- A value gives texts exactly if there is a path for each directory. -/
theorem givesTexts_iff (hv : v.Once) :
    GivesTexts v ↔ ∀ root : RootName, ∃ p, root? (given? v root) root.standard = some p := by
  simp only [exists_root?, given?_eq_some hv, GivesTexts]

/-- There are settings exactly if the document can be read as settings. -/
theorem exists_decode? (hkeys : (document.map Prod.fst).Nodup)
    (hvalues : ∀ x ∈ document, x.2.Once) :
    (∃ s, decode? document = some s) ↔ Readable document := by
  constructor
  · intro h
    obtain ⟨s, hs⟩ := h
    rcases (decode?_eq_some hkeys).1 hs with ⟨habsent, -⟩ | ⟨sysfs, hmem, hholds, hroots⟩
    · exact .absent habsent
    · have htexts := (givesTexts_iff (hvalues _ hmem)).2 fun root => ⟨_, hroots root⟩
      cases sysfs with
      | table pairs => exact .table hmem htexts
      | array items => exact .array hmem htexts
      | datetime literal => exact .datetime hmem
      | string | integer | float | boolean => cases hholds
  · intro h
    have hfound : ∀ sysfs, ("sysfs", sysfs) ∈ document → holds sysfs = true →
        GivesTexts sysfs → ∃ s, decode? document = some s := by
      intro sysfs hmem hholds htexts
      have hroots := (givesTexts_iff (hvalues _ hmem)).1 htexts
      obtain ⟨powercap, hpowercap⟩ := hroots .powercap
      obtain ⟨hwmon, hhwmon⟩ := hroots .hwmon
      refine ⟨⟨powercap, hwmon⟩, (decode?_eq_some hkeys).2 (Or.inr ⟨sysfs, hmem, hholds, ?_⟩)⟩
      intro root
      cases root with
      | powercap => exact hpowercap
      | hwmon => exact hhwmon
    cases h with
    | absent h => exact ⟨.standard, (decode?_eq_some hkeys).2 (Or.inl ⟨h, rfl⟩)⟩
    | table hmem htexts => exact hfound _ hmem rfl htexts
    | datetime hmem => exact hfound _ hmem rfl fun root v h => by cases h
    | array hmem htexts => exact hfound _ hmem rfl htexts

/-- They are the ones that the document states. -/
theorem stated_of_decode? (hkeys : (document.map Prod.fst).Nodup)
    (hvalues : ∀ x ∈ document, x.2.Once) (h : decode? document = some s) :
    Stated document s := by
  rcases (decode?_eq_some hkeys).1 h with ⟨habsent, rfl⟩ | ⟨sysfs, hmem, -, hroots⟩
  · constructor
    case given => exact fun sysfs root text hmem _ => absurd hmem (habsent sysfs)
    case standard =>
      intro root _
      cases root <;> rfl
  · constructor
    case given =>
      intro sysfs' root text hmem' hgives
      cases sysfs_unique hkeys hmem hmem'
      have hgiven := (given?_eq_some (hvalues _ hmem)).2 hgives
      have htext := (root?_eq_some.1 (hroots root)).1 _ hgiven
      cases htext
      rfl
    case standard =>
      intro root hnone
      refine (root?_eq_some.1 (hroots root)).2 (Option.eq_none_iff_forall_ne_some.2 fun v hv => ?_)
      exact hnone sysfs v hmem ((given?_eq_some (hvalues _ hmem)).1 hv)

/-- A document states no other settings. -/
theorem decode?_of_stated (hkeys : (document.map Prod.fst).Nodup)
    (hvalues : ∀ x ∈ document, x.2.Once) (hreadable : Readable document)
    (h : Stated document s) : decode? document = some s := by
  obtain ⟨s', hs'⟩ := (exists_decode? hkeys hvalues).2 hreadable
  have h' := stated_of_decode? hkeys hvalues hs'
  have hroot : ∀ root : RootName, root.of s' = root.of s := by
    intro root
    -- Either way the two settings agree: by the given text or by the standard.
    by_cases hgiven : ∃ sysfs v, ("sysfs", sysfs) ∈ document ∧ Gives sysfs root v
    · obtain ⟨sysfs, v, hmem, hv⟩ := hgiven
      rcases (decode?_eq_some hkeys).1 hs' with ⟨habsent, -⟩ | ⟨sysfs', hmem', -, hroots⟩
      · exact absurd hmem (habsent sysfs)
      · cases sysfs_unique hkeys hmem hmem'
        have htexts := (givesTexts_iff (hvalues _ hmem)).2 fun root => ⟨_, hroots root⟩
        obtain ⟨text, rfl⟩ := htexts root v hv
        rw [h'.given _ _ _ hmem hv, h.given _ _ _ hmem hv]
    · have hnone : ∀ sysfs v, ("sysfs", sysfs) ∈ document → ¬ Gives sysfs root v :=
        fun sysfs v hmem hv => hgiven ⟨sysfs, v, hmem, hv⟩
      rw [h'.standard root hnone, h.standard root hnone]
  rw [hs']
  obtain ⟨⟨powercap, hwmon⟩⟩ := s
  obtain ⟨⟨powercap', hwmon'⟩⟩ := s'
  cases hroot .powercap
  cases hroot .hwmon
  rfl

/-- A value with its keys in another order is no text either way. -/
theorem root?_reordered (h : Reordered v v') :
    root? (some v) standard = root? (some v') standard := by
  cases h <;> rfl

/-- A value found at a key where keys stand in another order is the same, or has its keys in
another order. -/
theorem lookup_reordered {pairs pairs' : List (String × Value)} (key : String)
    (h : Reordered (.table pairs) (.table pairs')) :
    pairs.lookup key = pairs'.lookup key ∨
      ∃ v v', pairs.lookup key = some v ∧ pairs'.lookup key = some v' ∧ Reordered v v' := by
  cases h with
  | keys hkeys h => exact Or.inl (lookup_eq_of_perm hkeys h)
  | @inTable before after k v v' h =>
    rw [lookup_place, lookup_place]
    cases before.lookup key with
    | some u => exact Or.inl rfl
    | none =>
      by_cases hk : key = k
      · exact Or.inr ⟨v, v', by simp [hk], by simp [hk], h⟩
      · exact Or.inl (by simp [hk])

/-- So a directory is the same whatever the order of the keys. -/
theorem root?_given_reordered (h : Reordered v v') :
    root? (given? v root) standard = root? (given? v' root) standard := by
  have hpairs : ∀ pairs pairs', Reordered (.table pairs) (.table pairs') →
      root? (pairs.lookup root.key) standard = root? (pairs'.lookup root.key) standard := by
    intro pairs pairs' h
    rcases lookup_reordered root.key h with hsame | ⟨u, u', hu, hu', hinner⟩
    · rw [hsame]
    · rw [hu, hu']
      exact root?_reordered hinner
  cases h with
  | keys hkeys h => exact hpairs _ _ (.keys hkeys h)
  | inTable h => exact hpairs _ _ (.inTable h)
  | @inArray before after u u' h =>
    simp only [given?]
    rw [List.getElem?_append, List.getElem?_append]
    split
    · rfl
    · cases root.place - before.length with
      | zero => exact root?_reordered h
      | succ n => rfl

/-- The directories that `sysfs` gives do not depend on the order of keys. -/
theorem decodeRoots?_reordered (h : Reordered v v') :
    decodeRoots? (some v) = decodeRoots? (some v') := by
  have hholds : holds v = holds v' := by
    cases h <;> rfl
  rw [decodeRoots?_some, decodeRoots?_some, hholds]
  unfold rootsOf?
  have hroot : ∀ (root : RootName) (standard : Path),
      root? (given? v root) standard = root? (given? v' root) standard :=
    fun root standard => root?_given_reordered h
  rw [hroot .powercap, hroot .hwmon]

/-- A change that should not matter does not. -/
theorem decode?_of_idle (h : Idle document document') : decode? document = decode? document' := by
  unfold decode?
  congr 1
  cases h with
  | outside h =>
    rw [lookup_others fun x hx => h x (List.mem_append_left _ hx),
      lookup_others fun x hx => h x (List.mem_append_right _ hx)]
  | @inside top bottom before after others others' h =>
    rw [lookup_place, lookup_place, if_pos rfl, if_pos rfl]
    cases top.lookup "sysfs" with
    | some v => rfl
    | none =>
      have hkey : ∀ root : RootName, (before ++ others ++ after).lookup root.key =
          (before ++ others' ++ after).lookup root.key := by
        intro root
        rw [lookup_others fun x hx => h x (List.mem_append_left _ hx) root,
          lookup_others fun x hx => h x (List.mem_append_right _ hx) root]
      exact congrArg₂ rootsOf? (hkey .powercap) (hkey .hwmon)
  | reordered h =>
    rcases lookup_reordered "sysfs" h with hsame | ⟨v, v', hv, hv', hinner⟩
    · rw [hsame]
    · rw [hv, hv']
      exact decodeRoots?_reordered hinner

end Roots

/-- That settings are read off every document's table, one directory like the other. -/
structure FillsEachRoot (decode : List (String × Value) → Option Settings) : Prop where
  /-- There are settings exactly if the table can be read as settings. -/
  readable : ∀ document, (Value.table document).Once →
    ((∃ s, decode document = some s) ↔ Readable document)
  /-- They are exactly the ones that it states. -/
  stated : ∀ document, (Value.table document).Once →
    ∀ s, decode document = some s ↔ Readable document ∧ Stated document s
  /-- Any number of changes that should not matter do not. -/
  idle : ∀ document document', Relation.EqvGen Idle document document' →
    decode document = decode document'
  /-- Settings that are stated in full are read back. -/
  encoded : ∀ s, (Value.table (encode s)).Once ∧ decode (encode s) = some s

/-- The table of a document fills each directory on its own. -/
theorem fillsEachRoot : FillsEachRoot decode? := by
  have hparts : ∀ document, (Value.table document).Once →
      (document.map Prod.fst).Nodup ∧ ∀ x ∈ document, x.2.Once := by
    intro document h
    cases h with
    | table keys h => exact ⟨keys, h⟩
  constructor
  case readable =>
    intro document h
    obtain ⟨hkeys, hvalues⟩ := hparts document h
    exact exists_decode? hkeys hvalues
  case stated =>
    intro document h s
    obtain ⟨hkeys, hvalues⟩ := hparts document h
    constructor
    · intro hs
      exact ⟨(exists_decode? hkeys hvalues).1 ⟨s, hs⟩, stated_of_decode? hkeys hvalues hs⟩
    · exact fun hs => decode?_of_stated hkeys hvalues hs.1 hs.2
  case idle =>
    intro document document' h
    induction h with
    | rel _ _ h => exact decode?_of_idle h
    | refl => rfl
    | symm _ _ _ ih => exact ih.symm
    | trans _ _ _ _ _ ih ih' => exact ih.trans ih'
  case encoded =>
    intro s
    refine ⟨.table (by simp [encode]) fun x hx => ?_, rfl⟩
    cases List.mem_singleton.1 hx
    refine .table (by simp) fun y hy => ?_
    simp only [List.mem_cons, List.not_mem_nil, or_false] at hy
    rcases hy with rfl | rfl
    · exact .string _
    · exact .string _

/-- One directory is given, beside a key without a meaning; the other is the standard one. -/
example : decode? [("sysfs", .table [("depth", .integer 2), ("hwmon_root", .string "/sensors")])] =
    some ⟨⟨SensorRoots.standard.powercap, ⟨"/sensors"⟩⟩⟩ := by
  rfl

/-- That a text is read as the settings of the document that it is. -/
structure ReadsDocument (text : String) : Prop where
  /-- A text that is no document is an error. -/
  unparsed : parse? text = none → ofToml text = .error invalid
  /-- In a document each key stands once, and its table's settings are those of the text. -/
  parsed : ∀ document, parse? text = some document → (Value.table document).Once ∧
    (∀ s, ofToml text = .ok s ↔ decode? document = some s) ∧
    (ofToml text = .error invalid ↔ decode? document = none)

/-- Every text: it is read as the settings of its document. Every document: there are settings
exactly if `sysfs` is absent, a date, or a table or an array that gives nothing but texts; each
directory is the text that is given for it or its own standard; nothing else in the document
counts, and neither does the order of its keys. Settings that are stated in full are read
back. -/
theorem document_fills_each_root :
    FillsEachRoot decode? ∧ ∀ text, ReadsDocument text := by
  refine ⟨fillsEachRoot, fun text => ?_⟩
  constructor
  case unparsed =>
    intro h
    simp [ofToml, h]
  case parsed =>
    intro document h
    refine ⟨once_of_parse? h, ?_⟩
    cases hs : decode? document with
    | none => simp [ofToml, h, hs]
    | some s => simp [ofToml, h, hs]

end EnergyMeter.Settings
