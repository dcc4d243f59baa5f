import EnergyMeter.Proofs.InputDetection
import EnergyMeter.Proofs.NestedTrees
import EnergyMeter.Proofs.ZoneNames

/-!
# Zones beside their package or in its directory

A package has its zones beside its own, or in its own directory. A tree of the first kind from
which the zones of any packages are moved makes a tree of the second kind, or a mixed one. Both
show the same zones, so the same meter is found over either, and it reads and fails alike for as
long as the trees change alike.
-/

namespace EnergyMeter.Rapl

open Files

/-- The name of a zone's file is a single part of a path, and not the name of a zone. -/
theorem plainName_of_zoneFile {file : String} (h : file ∈ zoneFiles) :
    PlainName file ∧ ZoneName.parse? file = none := by
  simp only [zoneFiles, List.mem_cons, List.not_mem_nil, or_false] at h
  rcases h with rfl | rfl | rfl <;>
    exact ⟨⟨by decide, by decide, by decide⟩, by decide⟩

/-- That the files of the zones that are moved have paths that are short enough. -/
def ZoneMove.Short (k : ZoneMove) (zones : List String) : Prop :=
  ∀ z ∈ zones, (k.home? z).isSome → ∀ file ∈ zoneFiles,
    ((k.after z).join file).text.utf8ByteSize < pathLimit

section Reads

variable {k : ZoneMove} {place : Location} {t u : Tree} {z file package : String}

/-- The path of zones is looked up alike after the move. -/
theorem SameZones.locate_eq (h : SameZones k place t u) (hk : k.Proper) :
    u.locate true k.root = t.locate true k.root := by
  refine h.apart u fun l hstays hl => ?_
  rw [h.moved.find l, h.flat.find?_nest_of_stays hk hl hstays]

/-- Neither a zone nor what it holds is a link. -/
theorem FlatLayout.not_link (h : FlatLayout k place t) (hz : (ZoneName.parse? z).isSome)
    (rest : Location) (target : Path) : t.find? (place ++ z :: rest) ≠ some (.link target) := by
  intro hfind
  exact h.linkless _ (mem_of_find? (by simp) hfind) z rest rfl hz target rfl

/-- A zone that stays is found where it was, and so are its files. -/
theorem SameZones.find?_beside (h : SameZones k place t u) (hk : k.Proper)
    (hstays : k.home? z = none)
    (hfile : ZoneName.parse? file = none) {first : Location} (hfirst : first <+: [z, file]) :
    u.find? (place ++ first) = t.find? (place ++ first) := by
  have htarget : ¬ k.Target place (place ++ first) := by
    rintro ⟨package, zone, rest, hl, hhome⟩
    rw [List.append_cancel_left hl] at hfirst
    obtain ⟨-, hfirst⟩ := List.cons_prefix_cons.1 hfirst
    obtain ⟨rfl, -⟩ := List.cons_prefix_cons.1 hfirst
    obtain ⟨id, n, hinner, -⟩ := exists_inner_of_home hhome
    cases hfile.symm.trans hinner
  have hplace : k.moveTo place (place ++ first) = place ++ first := by
    refine moveTo_of_stays fun zone rest hl => ?_
    rw [List.append_cancel_left hl] at hfirst
    rw [(List.cons_prefix_cons.1 hfirst).1, hstays]
  rw [h.moved.find, h.flat.find?_nest_of_stays hk htarget hplace]

/-- No link is on the way to a zone's file before the move. -/
theorem FlatLayout.linkless_before (h : FlatLayout k place t) (hz : (ZoneName.parse? z).isSome) :
    t.Linkless place [z, file] := by
  intro first hfirst hne target
  obtain ⟨other, rest, rfl⟩ := List.exists_cons_of_ne_nil hne
  obtain ⟨rfl, -⟩ := List.cons_prefix_cons.1 hfirst
  exact h.not_link hz rest target

/-- The files of a zone that stays read alike. -/
theorem SameZones.read_beside (h : SameZones k place t u) (hk : k.Proper)
    (htext : k.root.text ≠ "") (hz : (ZoneName.parse? z).isSome) (hstays : k.home? z = none)
    (hfile : file ∈ zoneFiles) :
    u.read (k.root.below [z, file]) = t.read (k.root.below [z, file]) := by
  obtain ⟨hplain, hname⟩ := plainName_of_zoneFile hfile
  by_cases hshort : (k.root.below [z, file]).text.utf8ByteSize < pathLimit
  · have hnames : k.root.Takes [z, file] :=
      ⟨List.cons_ne_nil _ _, by simp [ZoneName.plainName hz, hplain], hshort⟩
    refine Tree.read_below_alike htext (h.locate_eq hk) h.flat.leads hnames hnames fun _ => ?_
    have hsame : ∀ first, first <+: [z, file] →
        u.find? (place ++ first) = t.find? (place ++ first) := fun first hfirst =>
      h.find?_beside hk hstays hname hfirst
    refine ⟨h.flat.linkless_before hz, ?_, Tree.lookUp_congr hsame⟩
    intro first hfirst hne target
    rw [hsame first hfirst]
    exact h.flat.linkless_before hz first hfirst hne target
  · obtain ⟨fault, hlong⟩ := Tree.open?_of_long (Nat.not_lt.1 hshort)
    exact Tree.read_congr (by rw [hlong, hlong])

/-- The files of a zone that is moved read alike, each from its place. -/
theorem SameZones.read_moved (h : SameZones k place t u) (hk : k.Proper)
    (htext : k.root.text ≠ "") (hhome : k.home? z = some package) (hfile : file ∈ zoneFiles)
    (hshort : (k.root.below [package, z, file]).text.utf8ByteSize < pathLimit) :
    u.read (k.root.below [package, z, file]) = t.read (k.root.below [z, file]) := by
  obtain ⟨hplain, -⟩ := plainName_of_zoneFile hfile
  obtain ⟨id, n, hinner, hid⟩ := exists_inner_of_home hhome
  have hz : (ZoneName.parse? z).isSome := by rw [hinner]; rfl
  have hpackage : (ZoneName.parse? package).isSome := by rw [hk id package hid]; rfl
  have hnames : k.root.Takes [z, file] := by
    refine ⟨List.cons_ne_nil _ _, by simp [ZoneName.plainName hz, hplain], ?_⟩
    have hlonger := Path.size_below_through k.root z file (ZoneName.two_le_size hpackage)
    exact Nat.lt_of_le_of_lt hlonger hshort
  have hnames' : k.root.Takes [package, z, file] :=
    ⟨List.cons_ne_nil _ _,
      by simp [ZoneName.plainName hz, ZoneName.plainName hpackage, hplain], hshort⟩
  refine Tree.read_below_alike htext (h.locate_eq hk) h.flat.leads hnames hnames' fun hfound => ?_
  obtain ⟨hsize, mode, hmode, -, hsearch⟩ := h.flat.homes hfound id package hid
  have hdirectory := Tree.find?_of_directory? hmode
  have hmoved : ∀ rest, u.find? (place ++ package :: z :: rest) = t.find? (place ++ z :: rest) :=
    fun rest => (h.moved.find _).trans (h.flat.find?_nest_of_home hk hhome rest)
  have hbeside : ∀ first, first <+: [package, file] →
      u.find? (place ++ first) = t.find? (place ++ first) := fun first hfirst =>
    h.find?_beside hk (ZoneMove.home?_package (hk id package hid))
      (plainName_of_zoneFile hfile).2 hfirst
  have hplace := hbeside [] List.nil_prefix
  have hsame := (hbeside [package] (List.prefix_append [package] [file])).trans hdirectory
  refine ⟨h.flat.linkless_before hz, ?_, Tree.lookUp_through hplace hsize hsame hsearch
    fun first _ => hmoved first⟩
  -- The first name on the way is the package's, which is a directory; all others are the zone's.
  intro first hfirst hne target hfind
  obtain ⟨outer, inside, rfl⟩ := List.exists_cons_of_ne_nil hne
  obtain ⟨houter, hinside⟩ := List.cons_prefix_cons.1 hfirst
  rw [houter] at hfind
  cases inside with
  | nil => cases hsame.symm.trans hfind
  | cons zone rest =>
    obtain ⟨hzone, -⟩ := List.cons_prefix_cons.1 hinside
    rw [hzone, hmoved] at hfind
    exact h.flat.not_link hz rest target hfind

/-- So zones read alike before and after the move. -/
theorem SameZones.reads_alike (h : SameZones k place t u) (hk : k.Proper)
    (htext : k.root.text ≠ "") {zones : List String}
    (hzones : ∀ z ∈ zones, (ZoneName.parse? z).isSome)
    (hshort : k.Short zones) : ReadAlike k zones t.view u.view := by
  intro z hz file hfile
  have hzone := hshort z hz
  unfold ZoneMove.after at hzone ⊢
  cases hhome : k.home? z with
  | none => exact h.read_beside hk htext (hzones z hz) hhome hfile
  | some package =>
    rw [hhome] at hzone
    exact h.read_moved hk htext hhome hfile (hzone rfl file hfile)

end Reads

/-- The zones of packages of one's choice, to be moved into those of their packages. -/
def ZoneMove.ofPackages (root : Path) (names : List String) (chosen : UInt32 → Bool) : ZoneMove :=
  ⟨root, fun id => if chosen id then names.find? (ZoneName.isPackageOf id) else none⟩

section Shows

variable {root : Path} {names : List String} {chosen : UInt32 → Bool}

/-- Zones are moved into zones of their packages that there are. -/
theorem home_ofPackages {id : UInt32} {package : String}
    (h : (ZoneMove.ofPackages root names chosen).home id = some package) :
    package ∈ names ∧ ZoneName.parse? package = some (.package id) := by
  unfold ZoneMove.ofPackages at h
  simp only at h
  split at h
  · exact ⟨List.mem_of_find?_eq_some h,
      by simpa [ZoneName.isPackageOf] using List.find?_some h⟩
  · cases h

/-- Zones are moved into zones of their packages. -/
theorem proper_ofPackages (root : Path) (names : List String) (chosen : UInt32 → Bool) :
    (ZoneMove.ofPackages root names chosen).Proper :=
  fun _ _ h => (home_ofPackages h).2

variable {k : ZoneMove} {place : Location} {t u : Tree}

/-- A package has no zones in its directory before the move. -/
theorem FlatLayout.names_package (h : FlatLayout k place t) {package : String} {id : UInt32}
    (hparse : ZoneName.parse? package = some (.package id)) :
    (t.names (place ++ [package])).filter ZoneName.isInside = [] := by
  refine List.filter_eq_nil_iff.2 fun name hname => ?_
  rw [names_eq_filterMap] at hname
  obtain ⟨x, hx, hin⟩ := List.mem_filterMap.1 hname
  have hlocation := nameIn?_eq_some.1 hin
  rw [List.append_assoc] at hlocation
  simp [h.flat x hx package id name [] hlocation hparse]

/-- The directories of zones and of packages are found as they were, and they are no links. -/
theorem SameZones.find?_package (h : SameZones k place t u) (hk : k.Proper) {package : String}
    {id : UInt32} (hparse : ZoneName.parse? package = some (.package id)) :
    u.find? place = t.find? place ∧
      u.find? (place ++ [package]) = t.find? (place ++ [package]) ∧
      ∀ target, t.find? (place ++ [package]) ≠ some (.link target) := by
  have hbeside : ∀ first, first <+: [package, "name"] →
      u.find? (place ++ first) = t.find? (place ++ first) := fun first hfirst =>
    h.find?_beside hk (ZoneMove.home?_package hparse) (by decide) hfirst
  have hplace := hbeside [] List.nil_prefix
  rw [List.append_nil] at hplace
  exact ⟨hplace, hbeside [package] (List.prefix_append [package] ["name"]),
    h.flat.not_link (by rw [hparse]; rfl) []⟩

/-- A count is read from a file that a path leads to, and the path is not too long. -/
theorem open?_of_count {p : Path} {n : UInt64} (h : Sensor.count t.view p = .ok n) :
    p.text.utf8ByteSize < pathLimit ∧ ∃ found, t.open? p = .ok found := by
  have hthere : (t.open? p).isOk = true := t.coherent_view.leadsTo_of_count h
  cases hopen : t.open? p with
  | error fault =>
    rw [hopen] at hthere
    cases hthere
  | ok found =>
    refine ⟨?_, found, rfl⟩
    by_contra hlong
    obtain ⟨fault, hfault⟩ := Tree.open?_of_long (Nat.not_lt.1 hlong)
    cases (hfault t).symm.trans hopen

/-- Where the counter of a package is read, the directory of zones can be searched. -/
theorem FlatLayout.searched (h : FlatLayout k place t)
    (hfound : t.locate true k.root = .ok (.present place)) {package : String} {id : UInt32}
    {n : UInt64}
    (hparse : ZoneName.parse? package = some (.package id))
    (hcount : Sensor.count t.view ((k.root.join package).join "energy_uj") = .ok n) :
    (k.root.join package).text.utf8ByteSize < pathLimit ∧
      ∃ outer, t.find? place = some (.directory outer) ∧ outer.search = true := by
  have hbelow : k.root.below [package, "energy_uj"] = (k.root.join package).join "energy_uj" := rfl
  obtain ⟨hshort, found, hopen⟩ := open?_of_count hcount
  rw [← hbelow] at hshort hopen
  have hz : (ZoneName.parse? package).isSome := by rw [hparse]; rfl
  have hplain : PlainName "energy_uj" := (plainName_of_zoneFile (by simp [zoneFiles])).1
  have hnames : k.root.Takes [package, "energy_uj"] :=
    ⟨List.cons_ne_nil _ _, by simp [ZoneName.plainName hz, hplain], hshort⟩
  refine ⟨?_, ?_⟩
  · have hjoin := (Path.size_join (k.root.join package) "energy_uj").1
    rw [hbelow] at hshort
    omega
  · rw [Tree.open?_below hfound hnames (h.linkless_before hz)] at hopen
    cases hlook : Tree.lookUp (fun rest => t.find? (place ++ rest)) [package, "energy_uj"] with
    | error fault =>
      rw [hlook] at hopen
      cases hopen
    | ok e =>
      obtain ⟨outer, houter, hsearch⟩ := Tree.searchable_of_lookUp hlook
      rw [List.append_nil] at houter
      exact ⟨outer, houter, hsearch⟩

/-- Where both directories of zones can be listed, the second one shows the zones of the first
one moved. -/
theorem SameZones.showsMoved (h : SameZones k place t u)
    (hhomes : ∀ id package, k.home id = some package →
      package ∈ t.names place ∧ ZoneName.parse? package = some (.package id))
    (hshort : k.Short (zonesOf (t.names place)))
    (hfound : t.locate true k.root = .ok (.present place))
    (hlist : t.list k.root = .ok (t.names place)) (hlist' : u.list k.root = .ok (u.names place)) :
    ShowsMoved k (t.names place) t.view u.view := by
  have hk : k.Proper := fun id package hid => (hhomes id package hid).2
  have hfound' : u.locate true k.root = .ok (.present place) :=
    (h.locate_eq hk).trans hfound
  have hplain : ∀ {package id}, ZoneName.parse? package = some (.package id) → PlainName package :=
    fun hparse => ZoneName.plainName (by rw [hparse]; rfl)
  have hnested : ∀ {package id}, ZoneName.parse? package = some (.package id) →
      ((u.names (place ++ [package])).filter ZoneName.isInside).Perm
        ((t.names place).filter fun name => k.home? name = some package) := fun hparse =>
    ((h.moved.names _).filter _).trans (List.Perm.of_eq (h.flat.names_nest_package hparse))
  constructor
  case listed => exact hlist
  case left =>
    have hleft := List.Perm.of_eq (names_nest_place k place t)
    exact ⟨_, hlist', (h.moved.names place).trans hleft⟩
  case reads =>
    exact h.reads_alike hk (Tree.leads_of_locate hfound).1
      (fun z hz => (List.mem_filter.1 hz).2) hshort
  case homes => exact hhomes
  case flat =>
    intro package id inner hparse hinner
    rw [Tree.list_join hfound (hplain hparse) (h.find?_package hk hparse).2.2 hinner]
    exact h.flat.names_package hparse
  case kept =>
    intro package id inner hparse hnone hinner
    obtain ⟨-, hsame, hlink⟩ := h.find?_package hk hparse
    rw [Tree.list_join hfound' (hplain hparse) (fun target => hsame ▸ hlink target) hinner]
    have hnot : (t.names place).filter (fun name => k.home? name = some package) = [] := by
      refine List.filter_eq_nil_iff.2 fun name _ hhome => ?_
      have hid := ((home?_eq_some hk hparse).1 (of_decide_eq_true hhome)).2
      cases hnone.symm.trans hid
    exact (hnot ▸ hnested hparse).eq_nil
  case moved =>
    intro package id n hid hcount
    have hparse := hk id package hid
    obtain ⟨hsize, mode, hmode, hread, -⟩ := h.flat.homes hfound id package hid
    -- The counter could be read, so there is no other reason why the listing could fail.
    obtain ⟨hpath, outer, hplace, hsearch⟩ := h.flat.searched hfound hparse hcount
    obtain ⟨hplace', hsame, -⟩ := h.find?_package hk hparse
    have hdirectory := hsame.trans (Tree.find?_of_directory? hmode)
    refine ⟨_, Tree.list_join_of_directory hfound' (hplain hparse) hpath hsize
      (hplace'.trans hplace) hsearch hdirectory hread, (hnested hparse).trans ?_⟩
    refine List.Perm.of_eq (List.filter_congr fun name _ => ?_)
    rw [Bool.eq_iff_iff, decide_eq_true_eq, home?_eq_some hk hparse]
    simp [hid]

end Shows

end EnergyMeter.Rapl
