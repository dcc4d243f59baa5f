import EnergyMeter.Proofs.TreePaths
import EnergyMeter.Proofs.TwinDetection

/-!
# Trees whose zones were moved

To move the zones of a package into the directory of the package changes where they and
everything in them stand, and nothing else. Links in zones are excluded, so each file of a zone
is looked up from the directory of zones on, and found in its new place as it was in its old
one. The directory of zones itself has to be found without going through a zone that is moved.
-/

namespace EnergyMeter.Rapl

open Files

/-- The part of a location below another one; none if it does not stand there. -/
def below? : Location → Location → Option Location
  | [], l => some l
  | _ :: _, [] => none
  | a :: place, b :: l => if a = b then below? place l else none

/-- Where an entry stands after the move. -/
def ZoneMove.moveTo (k : ZoneMove) (place l : Location) : Location :=
  match below? place l with
  | some (zone :: rest) =>
    match k.home? zone with
    | some package => place ++ package :: zone :: rest
    | none => l
  | _ => l

/-- The tree after the move of zones in a directory. -/
def ZoneMove.nest (k : ZoneMove) (place : Location) (t : Tree) : Tree :=
  ⟨t.entries.map fun x => (k.moveTo place x.1, x.2)⟩

/-- The tree without the zones that are moved. -/
def ZoneMove.without (k : ZoneMove) (place : Location) (t : Tree) : Tree :=
  ⟨t.entries.filter fun x => k.moveTo place x.1 = x.1⟩

/-- That zones are moved into zones of their packages. -/
def ZoneMove.Proper (k : ZoneMove) : Prop :=
  ∀ id package, k.home id = some package → ZoneName.parse? package = some (.package id)

/-- A place that a zone may be moved to. -/
def ZoneMove.Target (k : ZoneMove) (place l : Location) : Prop :=
  ∃ package zone rest, l = place ++ package :: zone :: rest ∧ k.home? zone = some package

/-- That the zones in a directory stand beside those of their packages and can be moved. -/
structure FlatLayout (k : ZoneMove) (place : Location) (t : Tree) : Prop where
  /-- The path of zones leads to the directory, if it leads to anything. -/
  leads : ∀ l, t.locate true k.root = .ok (.present l) → l = place
  /-- If it does, the directories that zones are moved into can be listed and searched. -/
  homes : t.locate true k.root = .ok (.present place) → ∀ id package, k.home id = some package →
    package.utf8ByteSize ≤ nameLimit ∧ ∃ mode, t.directory? (place ++ [package]) = some mode ∧
      mode.read = true ∧ mode.search = true
  /-- No package has a zone in its directory. -/
  flat : ∀ x ∈ t.entries, ∀ package id zone rest, x.1 = place ++ package :: zone :: rest →
    ZoneName.parse? package = some (.package id) → ZoneName.isInside zone = false
  /-- No zone is a link or holds one. -/
  linkless : ∀ x ∈ t.entries, ∀ zone rest, x.1 = place ++ zone :: rest →
    (ZoneName.parse? zone).isSome → ∀ target, x.2 ≠ .link target

/-- That the path of zones is looked up without the zones that are moved, where they stand and
where they are moved to. -/
def ZoneMove.RootApart (k : ZoneMove) (place : Location) (t : Tree) : Prop :=
  ∀ u : Tree, (∀ l, k.moveTo place l = l → ¬ k.Target place l → u.find? l = t.find? l) →
    u.locate true k.root = t.locate true k.root

/-- That files change alike before and after the move: to change an entry where it stands before
comes to the same tree as to change it where it stands afterwards. -/
structure ZoneMove.ChangesAlike (k : ZoneMove) (place : Location) : Prop where
  /-- An entry is put, new or in place of another, anywhere but where zones are moved to. -/
  put : ∀ t, FlatLayout k place t → ∀ l e, ¬ k.Target place l →
    k.nest place (t.put l e) = (k.nest place t).put (k.moveTo place l) e
  /-- An entry is taken away with all below it, anything but a directory that zones are moved
  into. -/
  cut : ∀ t, FlatLayout k place t → ∀ zone rest, ¬ k.Target place (place ++ zone :: rest) →
    (rest = [] → ∀ id, k.home id ≠ some zone) → k.nest place (t.cut (place ++ zone :: rest)) =
      (k.nest place t).cut (k.moveTo place (place ++ zone :: rest))

/-- That trees hold the same entries, each directory's in any order. -/
structure SameTree (t u : Tree) : Prop where
  /-- At every location stands the same. -/
  find : ∀ l, u.find? l = t.find? l
  /-- Directories have the same names. -/
  names : ∀ l, (u.names l).Perm (t.names l)

/-- That two trees hold the same zones, those of some packages in their directories in the
second one. -/
structure SameZones (k : ZoneMove) (place : Location) (t u : Tree) : Prop where
  /-- In the first one they stand beside their packages. -/
  flat : FlatLayout k place t
  /-- The directory is found without those that are moved. -/
  apart : k.RootApart place t
  /-- In the second one they are moved. -/
  moved : SameTree (k.nest place t) u

/-- A tree holds the entries that it holds. -/
theorem SameTree.refl (t : Tree) : SameTree t t := ⟨fun _ => rfl, fun _ => .rfl⟩

section Locations

variable {k : ZoneMove} {place l rest : Location} {zone package : String}

/-- What stands below a location begins with it. -/
theorem below?_eq_some : below? place l = some rest ↔ l = place ++ rest := by
  induction place generalizing l with
  | nil => simp [below?]
  | cons a place ih =>
    cases l with
    | nil => simp [below?]
    | cons b l =>
      rw [below?, List.cons_append]
      split
      · rename_i hab
        rw [ih, hab, List.cons.injEq]
        simp
      · rename_i hab
        simp [Ne.symm hab]

/-- An entry in a zone that is moved goes with it. -/
theorem moveTo_of_home (h : k.home? zone = some package) :
    k.moveTo place (place ++ zone :: rest) = place ++ package :: zone :: rest := by
  unfold ZoneMove.moveTo
  rw [below?_eq_some.2 rfl]
  simp only [h]

/-- Every other entry stays. -/
theorem moveTo_of_stays (h : ∀ zone rest, l = place ++ zone :: rest → k.home? zone = none) :
    k.moveTo place l = l := by
  unfold ZoneMove.moveTo
  split
  · rename_i zone rest hbelow
    simp only [h zone rest (below?_eq_some.1 hbelow)]
  · rfl

/-- An entry goes with its zone or stays. -/
theorem moveTo_cases (k : ZoneMove) (place l : Location) :
    (∃ zone rest package, l = place ++ zone :: rest ∧ k.home? zone = some package ∧
      k.moveTo place l = place ++ package :: zone :: rest) ∨
    (k.moveTo place l = l ∧ ∀ zone rest, l = place ++ zone :: rest → k.home? zone = none) := by
  by_cases h : ∃ zone rest package, l = place ++ zone :: rest ∧ k.home? zone = some package
  · obtain ⟨zone, rest, package, rfl, hhome⟩ := h
    exact Or.inl ⟨zone, rest, package, rfl, hhome, moveTo_of_home hhome⟩
  · have hstays : ∀ zone rest, l = place ++ zone :: rest → k.home? zone = none := by
      intro zone rest hl
      cases hhome : k.home? zone with
      | none => rfl
      | some package => exact absurd ⟨zone, rest, package, hl, hhome⟩ h
    exact Or.inr ⟨moveTo_of_stays hstays, hstays⟩

/-- A zone that is moved is inside a package. -/
theorem exists_inner_of_home (h : k.home? zone = some package) :
    ∃ id n, ZoneName.parse? zone = some (.inner id n) ∧ k.home id = some package := by
  unfold ZoneMove.home? at h
  split at h
  · rename_i id n hparse
    exact ⟨id, n, hparse, h⟩
  · cases h

/-- A zone and what is in it do not stand where zones are moved to. -/
theorem not_target_of_home (hk : k.Proper) (h : k.home? zone = some package) :
    ¬ k.Target place (place ++ zone :: rest) := by
  intro htarget
  obtain ⟨other, inner, rest', hl, hhome⟩ := htarget
  obtain ⟨id, n, hparse, -⟩ := exists_inner_of_home h
  obtain ⟨id', -, -, hid⟩ := exists_inner_of_home hhome
  obtain ⟨rfl, -⟩ := List.cons.inj (List.append_cancel_left hl)
  cases hparse.symm.trans (hk id' _ hid)

/-- No zone is moved to a directory that is no package's. -/
theorem not_target_place : ¬ k.Target place place := by
  intro htarget
  obtain ⟨package, zone, rest, hl, -⟩ := htarget
  simpa using congrArg List.length hl

end Locations

section Trees

variable {k : ZoneMove} {place l : Location} {t : Tree}

/-- An entry that is found is one of the table. -/
theorem mem_of_find? {e : Entry} (hl : l ≠ []) (h : t.find? l = some e) : (l, e) ∈ t.entries := by
  unfold Tree.find? at h
  rw [if_neg hl] at h
  generalize t.entries = entries at h
  induction entries with
  | nil => cases h
  | cons x rest ih =>
    rw [List.lookup_cons] at h
    split at h
    · rename_i hx
      cases h
      rw [eq_of_beq hx]
      exact List.mem_cons_self
    · exact List.mem_cons_of_mem _ (ih h)

/-- Entries of different places go to different places, except where one stands already. -/
theorem FlatLayout.eq_of_moveTo_eq (h : FlatLayout k place t) (hk : k.Proper)
    (hl : ¬ k.Target place l) {x : Location × Entry} (hx : x ∈ t.entries)
    (hmove : k.moveTo place x.1 = k.moveTo place l) : x.1 = l := by
  -- Two that go or two that stay keep their places apart. One that stays cannot stand where
  -- another one goes, since no package has a zone in its directory.
  rcases moveTo_cases k place x.1 with ⟨zone, rest, package, hx₁, hhome, hmoved⟩ | ⟨hstays, -⟩
  · rw [hmoved] at hmove
    rcases moveTo_cases k place l with ⟨zone', rest', package', rfl, hhome', hmoved'⟩ | ⟨hstays, -⟩
    · rw [hmoved'] at hmove
      have hrest := List.append_cancel_left hmove
      rw [hx₁, (List.cons.inj hrest).2]
    · rw [hstays] at hmove
      exact absurd ⟨package, zone, rest, hmove.symm, hhome⟩ hl
  · rw [hstays] at hmove
    rcases moveTo_cases k place l with ⟨zone, rest, package, rfl, hhome, hmoved⟩ | ⟨hstays', -⟩
    · rw [hmoved] at hmove
      obtain ⟨id, n, hparse, hid⟩ := exists_inner_of_home hhome
      have hflat := h.flat x hx package id zone rest hmove (hk id package hid)
      rw [isInside_eq_true.2 ⟨id, n, hparse⟩] at hflat
      cases hflat
    · rw [hmove, hstays']

/-- A table whose places are changed one to one is looked up at the changed places. -/
theorem lookup_map_place {f : Location → Location} {entries : List (Location × Entry)}
    (h : ∀ x ∈ entries, f x.1 = f l → x.1 = l) :
    (entries.map fun x => (f x.1, x.2)).lookup (f l) = entries.lookup l := by
  induction entries with
  | nil => rfl
  | cons x rest ih =>
    obtain ⟨hx, hrest⟩ := List.forall_mem_cons.1 h
    rw [List.map_cons, List.lookup_cons, List.lookup_cons, ih hrest]
    by_cases heq : x.1 = l
    · rw [heq, beq_self_eq_true, beq_self_eq_true]
    · have hne : f x.1 ≠ f l := fun hf => heq (hx hf)
      rw [beq_eq_false_iff_ne.2 (Ne.symm hne), beq_eq_false_iff_ne.2 (Ne.symm heq)]

/-- After the move everything is found in its new place. -/
theorem FlatLayout.find?_nest (h : FlatLayout k place t) (hk : k.Proper)
    (hl : ¬ k.Target place l) : (k.nest place t).find? (k.moveTo place l) = t.find? l := by
  have hnil : k.moveTo place l = [] ↔ l = [] := by
    rcases moveTo_cases k place l with ⟨zone, rest, package, rfl, -, hmoved⟩ | ⟨hstays, -⟩
    · rw [hmoved]
      simp
    · rw [hstays]
  unfold Tree.find?
  simp only [hnil]
  split
  · rfl
  · exact lookup_map_place fun x hx => h.eq_of_moveTo_eq hk hl hx

/-- The zones that are moved are found in the directories of their packages. -/
theorem FlatLayout.find?_nest_of_home (h : FlatLayout k place t) (hk : k.Proper)
    {zone package : String} (hhome : k.home? zone = some package) (rest : Location) :
    (k.nest place t).find? (place ++ package :: zone :: rest) =
      t.find? (place ++ zone :: rest) := by
  rw [← moveTo_of_home hhome]
  exact h.find?_nest hk (not_target_of_home hk hhome)

/-- What stays is found where it was. -/
theorem FlatLayout.find?_nest_of_stays (h : FlatLayout k place t) (hk : k.Proper)
    (hl : ¬ k.Target place l) (hstays : k.moveTo place l = l) :
    (k.nest place t).find? l = t.find? l := by
  have hfind := h.find?_nest hk hl
  rw [hstays] at hfind
  exact hfind

/-- A table without some places is looked up at the others. -/
theorem lookup_filter_place (keep : Location → Bool) {entries : List (Location × Entry)} :
    (entries.filter fun x => keep x.1).lookup l = if keep l then entries.lookup l else none := by
  induction entries with
  | nil => simp
  | cons x rest ih =>
    obtain ⟨place, e⟩ := x
    rw [List.filter_cons]
    by_cases heq : l = place
    · subst heq
      cases hkeep : keep l with
      | true => simp
      | false => simpa [hkeep] using ih
    · split
      · rw [List.lookup_cons, List.lookup_cons, beq_eq_false_iff_ne.2 heq, ih]
      · rw [ih, List.lookup_cons, beq_eq_false_iff_ne.2 heq]

/-- No entry stands where zones are moved to. -/
theorem FlatLayout.not_target (h : FlatLayout k place t) (hk : k.Proper) {e : Entry}
    (hfind : t.find? l = some e) : ¬ k.Target place l := by
  rintro ⟨package, zone, rest, rfl, hhome⟩
  obtain ⟨id, n, hparse, hid⟩ := exists_inner_of_home hhome
  have hflat := h.flat _ (mem_of_find? (by simp) hfind) package id zone rest rfl (hk id package hid)
  rw [isInside_eq_true.2 ⟨id, n, hparse⟩] at hflat
  cases hflat

/-- A path that is found without the zones that are moved is looked up without them. -/
theorem FlatLayout.rootApart (h : FlatLayout k place t) (hk : k.Proper)
    (hfound : (k.without place t).locate true k.root = .ok (.present l)) :
    k.RootApart place t := by
  have hwithout : ∀ l e, (k.without place t).find? l = some e →
      k.moveTo place l = l ∧ t.find? l = some e := by
    intro l e hfind
    unfold Tree.find? ZoneMove.without at hfind
    unfold Tree.find?
    split at hfind
    · rename_i hnil
      subst hnil
      exact ⟨moveTo_of_stays fun zone rest hl => by simp at hl, by simpa using hfind⟩
    · rename_i hl
      rw [lookup_filter_place fun l => decide (k.moveTo place l = l)] at hfind
      simp only [decide_eq_true_eq] at hfind
      split at hfind
      · rename_i hstays
        exact ⟨hstays, by rw [if_neg hl]; exact hfind⟩
      · cases hfind
  intro u hu
  have hbefore : (k.without place t).Within t := fun l e hfind => (hwithout l e hfind).2
  have hbehind : (k.without place t).Within u := by
    intro l e hfind
    obtain ⟨hstays, hfind⟩ := hwithout l e hfind
    rw [hu l hstays (h.not_target hk hfind), hfind]
  rw [Tree.locate_mono hbefore hfound, Tree.locate_mono hbehind hfound]

/-- The name of a location in a directory; none if it does not stand there. -/
def nameIn? (directory l : Location) : Option String :=
  if l ≠ [] && l.dropLast = directory then l.getLast? else none

/-- An entry of a directory stands one name below it. -/
theorem nameIn?_eq_some {directory : Location} {name : String} :
    nameIn? directory l = some name ↔ l = directory ++ [name] := by
  unfold nameIn?
  constructor
  · intro h
    split at h
    · rename_i hl
      simp only [ne_eq, Bool.and_eq_true, decide_eq_true_eq] at hl
      obtain ⟨front, rfl⟩ := List.getLast?_eq_some_iff.1 h
      rw [List.dropLast_concat] at hl
      rw [hl.2]
    · cases h
  · rintro rfl
    simp

/-- A directory has the names of the entries that stand in it. -/
theorem names_eq_filterMap (t : Tree) (l : Location) :
    t.names l = t.entries.filterMap fun x => nameIn? l x.1 := rfl

/-- After the move it has those of the entries that stand in it then. -/
theorem names_nest (k : ZoneMove) (place l : Location) (t : Tree) :
    (k.nest place t).names l = t.entries.filterMap fun x => nameIn? l (k.moveTo place x.1) := by
  rw [names_eq_filterMap]
  exact List.filterMap_map

/-- The names in the directory of zones are those whose zones stay. -/
theorem names_nest_place (k : ZoneMove) (place : Location) (t : Tree) :
    (k.nest place t).names place = (t.names place).filter fun name => (k.home? name).isNone := by
  have hname : ∀ l, nameIn? place (k.moveTo place l) =
      (nameIn? place l).filter fun name => (k.home? name).isNone := by
    intro l
    refine Option.ext fun name => ?_
    rw [nameIn?_eq_some, Option.filter_eq_some_iff, nameIn?_eq_some, Option.isNone_iff_eq_none]
    rcases moveTo_cases k place l with ⟨zone, rest, package, rfl, hhome, hmoved⟩ | ⟨hmoved, hstays⟩
    · rw [hmoved]
      constructor
      · intro h
        simpa using List.append_cancel_left h
      · rintro ⟨h, hnone⟩
        obtain ⟨rfl, -⟩ := List.cons.inj (List.append_cancel_left h)
        cases hnone.symm.trans hhome
    · rw [hmoved]
      exact ⟨fun h => ⟨h, hstays name [] h⟩, And.left⟩
  rw [names_nest, names_eq_filterMap, List.filter_filterMap]
  exact List.filterMap_congr fun x _ => hname x.1

/-- The zones in the directory of a package are those that were moved there. -/
theorem FlatLayout.names_nest_package (h : FlatLayout k place t) {package : String} {id : UInt32}
    (hparse : ZoneName.parse? package = some (.package id)) :
    ((k.nest place t).names (place ++ [package])).filter ZoneName.isInside =
      (t.names place).filter fun name => k.home? name = some package := by
  have hname : ∀ x ∈ t.entries,
      (nameIn? (place ++ [package]) (k.moveTo place x.1)).filter ZoneName.isInside =
        (nameIn? place x.1).filter fun name => k.home? name = some package := by
    intro x hx
    refine Option.ext fun name => ?_
    rw [Option.filter_eq_some_iff, Option.filter_eq_some_iff, nameIn?_eq_some, nameIn?_eq_some,
      decide_eq_true_eq, List.append_assoc, List.singleton_append]
    rcases moveTo_cases k place x.1 with ⟨zone, rest, other, hl, hhome, hmoved⟩ | ⟨hmoved, hstays⟩
    · rw [hmoved, hl]
      constructor
      · rintro ⟨hsame, -⟩
        obtain ⟨rfl, hrest⟩ := List.cons.inj (List.append_cancel_left hsame)
        obtain ⟨rfl, rfl⟩ := List.cons.inj hrest
        exact ⟨rfl, hhome⟩
      · rintro ⟨hsame, hname⟩
        obtain ⟨rfl, rfl⟩ := List.cons.inj (List.append_cancel_left hsame)
        cases hhome.symm.trans hname
        obtain ⟨id', n, hinner, -⟩ := exists_inner_of_home hhome
        exact ⟨rfl, isInside_eq_true.2 ⟨id', n, hinner⟩⟩
    · rw [hmoved]
      constructor
      · rintro ⟨hsame, hinside⟩
        cases hinside.symm.trans (h.flat x hx package id name [] hsame hparse)
      · rintro ⟨hsame, hname⟩
        cases (hstays name [] hsame).symm.trans hname
  rw [names_nest, names_eq_filterMap, List.filter_filterMap, List.filter_filterMap]
  exact List.filterMap_congr hname

/-- A zone is moved into the zone of a package if it is inside that one and its package is one
of those whose zones are moved. -/
theorem home?_eq_some (hk : k.Proper) {package name : String} {id : UInt32}
    (hparse : ZoneName.parse? package = some (.package id)) :
    k.home? name = some package ↔
      ZoneName.isInsideOf id name = true ∧ k.home id = some package := by
  constructor
  · intro h
    obtain ⟨id', n, hinner, hhome⟩ := exists_inner_of_home h
    cases hparse.symm.trans (hk id' package hhome)
    exact ⟨isInsideOf_eq_true.2 ⟨n, hinner⟩, hhome⟩
  · rintro ⟨hinside, hhome⟩
    rw [ZoneMove.home?_inside hinside, hhome]

/-- To put an entry in its new place after the move is to put it in its old one before. -/
theorem FlatLayout.nest_put (h : FlatLayout k place t) (hk : k.Proper)
    (hl : ¬ k.Target place l) (e : Entry) :
    k.nest place (t.put l e) = (k.nest place t).put (k.moveTo place l) e := by
  have hplace : ∀ x ∈ t.entries, k.moveTo place x.1 = k.moveTo place l → x.1 = l :=
    fun x hx hmove => h.eq_of_moveTo_eq hk hl hx hmove
  have hlookup : (k.nest place t).entries.lookup (k.moveTo place l) = t.entries.lookup l :=
    lookup_map_place hplace
  unfold Tree.put
  rw [hlookup]
  split
  · unfold ZoneMove.nest
    simp only [List.map_map]
    refine congrArg Tree.mk (List.map_congr_left fun x hx => ?_)
    by_cases hsame : x.1 = l
    · simp [hsame]
    · have hmove : k.moveTo place x.1 ≠ k.moveTo place l := fun hmove => hsame (hplace x hx hmove)
      simp [hsame, hmove]
  · unfold ZoneMove.nest
    simp only [List.map_append, List.map_cons, List.map_nil]

/-- What is in a zone that is moved is in it afterwards, and nothing else is. -/
theorem FlatLayout.prefix_moved_iff (h : FlatLayout k place t) (hk : k.Proper)
    {zone package : String} {rest : Location} (hhome : k.home? zone = some package)
    {x : Location × Entry} (hx : x ∈ t.entries) :
    place ++ package :: zone :: rest <+: k.moveTo place x.1 ↔ place ++ zone :: rest <+: x.1 := by
  obtain ⟨id, n, hinner, hid⟩ := exists_inner_of_home hhome
  rcases moveTo_cases k place x.1 with ⟨zone', rest', package', hx', hhome', hmoved⟩ | hstays
  · rw [hmoved, hx', List.prefix_append_right_inj, List.prefix_append_right_inj,
      List.cons_prefix_cons]
    refine ⟨And.right, fun hprefix => ⟨?_, hprefix⟩⟩
    rw [(List.cons_prefix_cons.1 hprefix).1, hhome'] at hhome
    exact (Option.some.inj hhome).symm
  · rw [hstays.1]
    constructor
    · rintro ⟨more, hmore⟩
      have hflat := h.flat x hx package id zone (rest ++ more) (by simp [← hmore]) (hk id _ hid)
      cases (isInside_eq_true.2 ⟨id, n, hinner⟩).symm.trans hflat
    · rintro ⟨more, hmore⟩
      cases (hstays.2 zone (rest ++ more) (by simp [← hmore])).symm.trans hhome

/-- What is in a directory that stays is in it afterwards, and nothing else is unless zones are
moved there. -/
theorem prefix_kept_iff {zone : String} {rest : Location} (hnone : k.home? zone = none)
    (hl : ¬ k.Target place (place ++ zone :: rest))
    (hzone : rest = [] → ∀ id, k.home id ≠ some zone) :
    place ++ zone :: rest <+: k.moveTo place l ↔ place ++ zone :: rest <+: l := by
  rcases moveTo_cases k place l with ⟨zone', rest', package', rfl, hhome', hmoved⟩ | hstays
  · rw [hmoved, List.prefix_append_right_inj, List.prefix_append_right_inj]
    constructor
    · intro hprefix
      obtain ⟨hpackage, hinside⟩ := List.cons_prefix_cons.1 hprefix
      obtain ⟨id, n, -, hid⟩ := exists_inner_of_home hhome'
      cases rest with
      | nil => exact absurd (hpackage ▸ hid) (hzone rfl id)
      | cons inner rest =>
        obtain ⟨rfl, -⟩ := List.cons_prefix_cons.1 hinside
        exact absurd ⟨package', inner, rest, by rw [hpackage], hhome'⟩ hl
    · intro hprefix
      rw [(List.cons_prefix_cons.1 hprefix).1] at hnone
      cases hnone.symm.trans hhome'
  · rw [hstays.1]

/-- To take away a zone or an entry of one in its new place is to take it away in its old one, so
long as no zone was moved into it. -/
theorem FlatLayout.nest_cut (h : FlatLayout k place t) (hk : k.Proper) {zone : String}
    {rest : Location} (hl : ¬ k.Target place (place ++ zone :: rest))
    (hzone : rest = [] → ∀ id, k.home id ≠ some zone) :
    k.nest place (t.cut (place ++ zone :: rest)) =
      (k.nest place t).cut (k.moveTo place (place ++ zone :: rest)) := by
  have hbelow : ∀ x ∈ t.entries, (k.moveTo place (place ++ zone :: rest)).isPrefixOf
      (k.moveTo place x.1) = (place ++ zone :: rest).isPrefixOf x.1 := by
    intro x hx
    rw [Bool.eq_iff_iff, List.isPrefixOf_iff_prefix, List.isPrefixOf_iff_prefix]
    cases hhome : k.home? zone with
    | some package =>
      rw [moveTo_of_home hhome]
      exact h.prefix_moved_iff hk hhome hx
    | none =>
      have hplace : k.moveTo place (place ++ zone :: rest) = place ++ zone :: rest := by
        refine moveTo_of_stays fun zone' rest' hsame => ?_
        rw [← (List.cons.inj (List.append_cancel_left hsame)).1, hhome]
      rw [hplace]
      exact prefix_kept_iff hhome hl hzone
  unfold Tree.cut ZoneMove.nest
  simp only [List.filter_map]
  refine congrArg Tree.mk (congrArg _ (List.filter_congr fun x hx => ?_))
  rw [Function.comp_apply, hbelow x hx]

/-- Files change alike before and after the move. -/
theorem changesAlike (hk : k.Proper) (place : Location) : k.ChangesAlike place :=
  ⟨fun _ h _ e hl => h.nest_put hk hl e, fun _ h _ _ hl hzone => h.nest_cut hk hl hzone⟩

end Trees

end EnergyMeter.Rapl
