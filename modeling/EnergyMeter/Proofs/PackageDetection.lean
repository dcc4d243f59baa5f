import EnergyMeter.Proofs.FreshStart

/-!
# Which CPU packages are found

A directory of zones holds entries of all kinds. A package is usable if an entry is
named for it, the zone there calls itself a package, and its counter can be read;
this is said of the files alone, without an order. The meter has exactly the usable
packages. Each is looked at by itself, so nothing about another entry can add or hide
it, and only the directory of zones as such can be an error.
-/

namespace EnergyMeter

open Files

/-- Whether a directory can be listed and holds an entry. -/
def Files.View.Lists (v : View) (directory : Path) (entry : String) : Prop :=
  ∃ names, v.list directory = .ok names ∧ entry ∈ names

namespace Sensor

variable {v v' : View} {p : Path}

/-- What a sensor file says is settled by the content of that file. -/
theorem text_congr (h : v.read p = v'.read p) : text v p = text v' p := by
  unfold text View.text
  rw [h]

/-- What a counter stands at is settled by the content of its file. -/
theorem count_congr (h : v.read p = v'.read p) : count v p = count v' p := by
  unfold count
  rw [text_congr h]

end Sensor

namespace Rapl

/-- Whether a zone is that of a package which can be metered. -/
structure UsableZone (v : View) (zone : Path) : Prop where
  /-- The zone's name can be read and begins as those of packages do. -/
  named : ∃ name, Sensor.text v (zone.join "name") = .ok name ∧ "package".toList <+: name.toList
  /-- The zone's counter can be read. -/
  counted : ∃ n, Sensor.count v (zone.join "energy_uj") = .ok n

/-- Whether a package can be metered: some entry is that of its zone, and usable. -/
def Usable (v : View) (root : Path) (id : UInt32) : Prop :=
  ∃ entry, v.Lists root entry ∧ ZoneName.parse? entry = some (.package id) ∧
    UsableZone v (root.join entry)

/-- The gauge of a zone whose counter stands at a value, with nothing counted. -/
def gaugeAt (v : View) (zone : Path) (n : UInt64) : Gauge :=
  ⟨zone.join "energy_uj", (Sensor.count v (zone.join "max_energy_range_uj")).toOption, n, 0,
    signBit_zero⟩

section Zones

variable {v : View} {root zone : Path} {names : List String} {id : UInt32} {g : Gauge}

/-- A zone's gauge starts at the value of its counter. -/
theorem startZone_eq_ok : startZone v zone = .ok g ↔
    ∃ n, Sensor.count v (zone.join "energy_uj") = .ok n ∧ g = gaugeAt v zone n :=
  Gauge.start_eq_ok

/-- A zone has no gauge because of the error of its counter. -/
theorem startZone_eq_error {e : Error} :
    startZone v zone = .error e ↔ Sensor.count v (zone.join "energy_uj") = .error e := by
  unfold startZone Gauge.start
  cases Sensor.count v (zone.join "energy_uj") <;> simp

/-- A text that cannot be read does not begin as the names of packages do. -/
theorem isPrefixOf_textOrEmpty {p : Path} :
    "package".toList.isPrefixOf (Sensor.textOrEmpty v p).toList = true ↔
      ∃ name, Sensor.text v p = .ok name ∧ "package".toList <+: name.toList := by
  unfold Sensor.textOrEmpty
  cases h : Sensor.text v p with
  | ok name => simp
  | error e => simp

/-- The gauges of a usable zone are those of its package. -/
theorem gauges_lookAt_of_usable (root : Path) (names : List String) (id : UInt32)
    (h : UsableZone v zone) :
    ∃ n, Sensor.count v (zone.join "energy_uj") = .ok n ∧
      (lookAt v root names zone id).gauges =
        packageGauges id (gaugeAt v zone n)
          ((innerZones v root names id zone).map (examine v)) := by
  obtain ⟨n, hn⟩ := h.counted
  have hstart : startZone v zone = .ok (gaugeAt v zone n) := startZone_eq_ok.2 ⟨n, hn, rfl⟩
  refine ⟨n, hn, ?_⟩
  unfold lookAt
  simp only [isPrefixOf_textOrEmpty.2 h.named, if_true, hstart]

/-- A zone that is not usable has no gauges. -/
theorem gauges_lookAt_of_not_usable (h : ¬ UsableZone v zone) :
    (lookAt v root names zone id).gauges = [] := by
  simp only [lookAt]
  split
  · rename_i hname
    split
    · rfl
    · rename_i whole hwhole
      obtain ⟨n, hn, -⟩ := startZone_eq_ok.1 hwhole
      exact absurd ⟨isPrefixOf_textOrEmpty.1 hname, n, hn⟩ h
  · rfl

/-- The numbers that are looked at are those that an entry's name gives. -/
theorem mem_packageIds :
    id ∈ packageIds names ↔ ∃ entry ∈ names, ZoneName.parse? entry = some (.package id) := by
  have step : ∀ ids : List UInt32, id ∈ names.foldl addId ids ↔
      id ∈ ids ∨ ∃ entry ∈ names, ZoneName.parse? entry = some (.package id) := by
    induction names with
    | nil => simp
    | cons name rest ih =>
      intro ids
      have hadd : id ∈ addId ids name ↔
          id ∈ ids ∨ ZoneName.parse? name = some (.package id) := by
        unfold addId
        split
        · rename_i n hn
          rw [mem_insertId, hn, Option.some.injEq, ZoneName.package.injEq, or_comm, eq_comm]
        · rename_i hn
          exact (or_iff_left fun h => hn id h).symm
      rw [List.foldl_cons, ih, hadd, List.exists_mem_cons_iff, or_assoc]
  exact (step []).trans (or_iff_right List.not_mem_nil)

/-- No number is looked at twice. -/
theorem nodup_packageIds (names : List String) : (packageIds names).Nodup :=
  (ascending_packageIds names).imp UInt32.ne_of_lt

end Zones

section Gauges

variable {v : View} {root : Path} {names : List String} {id : UInt32} {c : Component} {g : Gauge}

/-- The gauges of a package are that of its whole and, for every other component,
the last one found. -/
theorem mem_packageGauges {whole : Gauge} {zones : List Examined} :
    (⟨id, c⟩, g) ∈ packageGauges id whole zones ↔
      if c = .whole then g = whole else lastOf c zones = some g := by
  cases c <;> simp [packageGauges, slotted]

/-- The gauges found below a directory of zones. -/
def gaugesFound (v : View) (root : Path) (names : List String) : List (Slot × Gauge) :=
  (lookAtAll v root names).flatMap (·.gauges)

/-- A gauge that was found is one of those of its package's own zone. -/
theorem mem_gaugesFound {x : Slot × Gauge} :
    x ∈ gaugesFound v root names ↔ x.1.package ∈ packageIds names ∧
      x ∈ (lookAt v root names (zoneOf root names x.1.package) x.1.package).gauges := by
  simp only [gaugesFound, lookAtAll, List.mem_flatMap, List.mem_map, exists_exists_and_eq_and]
  constructor
  · rintro ⟨id, hid, hx⟩
    have hown : x.1.package = id :=
      ((lookAt v root names _ id).own x.1 (List.mem_map_of_mem hx)).trans (id_lookAt ..)
    rw [hown]
    exact ⟨hid, hx⟩
  · rintro ⟨hid, hx⟩
    exact ⟨_, hid, hx⟩

/-- The ways in which looking for packages can end. -/
inductive Detected (v : View) (root : Path) : Except Error (Option CpuMeter) → Prop where
  /-- The directory of zones is there and cannot be listed. -/
  | unlisted {fault : Fault} (h : v.list root = .error fault) (hne : fault ≠ .notFound) :
      Detected v root (.error (.io fault))
  /-- There is no directory of zones. -/
  | missing (h : v.list root = .error .notFound) : Detected v root (.ok none)
  /-- The directory was listed, and no gauge was found. -/
  | nothing {names : List String} (h : v.list root = .ok names)
      (hg : gaugesFound v root names = []) : Detected v root (.ok none)
  /-- The directory was listed, and the meter has the gauges found. -/
  | meter {names : List String} {m : CpuMeter} (h : v.list root = .ok names)
      (hg : m.gauges = gaugesFound v root names) (hne : m.gauges ≠ []) :
      Detected v root (.ok (some m))

/-- Looking for packages ends in one of these ways. -/
theorem detected (v : View) (root : Path) : Detected v root (CpuMeter.detect v root).value := by
  unfold CpuMeter.detect
  split
  · rename_i h
    exact .missing h
  · rename_i fault hne h
    exact .unlisted h hne
  · rename_i names h
    dsimp only
    split
    · rename_i hempty
      exact .nothing h (List.isEmpty_iff.1 hempty)
    · rename_i hfull
      exact .meter h rfl fun hempty => hfull (List.isEmpty_iff.2 hempty)

end Gauges

/-- The entry of a package's own zone: of the entries that name the package, the one
listed last. -/
def OwnEntry (v : View) (root : Path) (id : UInt32) (entry : String) : Prop :=
  ∃ names, v.list root = .ok names ∧
    (names.filter (ZoneName.isPackageOf id)).getLast? = some entry

/-- No package is named by two entries. -/
def NamedOnce (v : View) (root : Path) : Prop :=
  ∀ id a b, v.Lists root a → v.Lists root b → ZoneName.parse? a = some (.package id) →
    ZoneName.parse? b = some (.package id) → a = b

section Entries

variable {v : View} {root : Path} {names : List String} {id : UInt32} {entry : String}
  {c : Component} {g : Gauge}

/-- A package's own entry is listed and names the package. -/
theorem OwnEntry.named (h : OwnEntry v root id entry) :
    v.Lists root entry ∧ ZoneName.parse? entry = some (.package id) := by
  obtain ⟨names, hlist, hlast⟩ := h
  obtain ⟨hmem, hpackage⟩ := List.mem_filter.1 (List.mem_of_getLast? hlast)
  exact ⟨⟨names, hlist, hmem⟩, beq_iff_eq.1 hpackage⟩

/-- A package has no two own entries. -/
theorem OwnEntry.unique {other : String} (h : OwnEntry v root id entry)
    (ho : OwnEntry v root id other) : entry = other := by
  obtain ⟨names, hlist, hlast⟩ := h
  obtain ⟨names', hlist', hlast'⟩ := ho
  cases hlist.symm.trans hlist'
  exact Option.some.inj (hlast.symm.trans hlast')

/-- A package that an entry names has an own entry. -/
theorem exists_ownEntry (hentry : v.Lists root entry)
    (hparse : ZoneName.parse? entry = some (.package id)) : ∃ own, OwnEntry v root id own := by
  obtain ⟨names, hlist, hmem⟩ := hentry
  have hin : entry ∈ names.filter (ZoneName.isPackageOf id) :=
    List.mem_filter.2 ⟨hmem, beq_iff_eq.2 hparse⟩
  exact ⟨_, names, hlist, List.getLast?_eq_some_getLast (List.ne_nil_of_mem hin)⟩

/-- Where no package is named twice, an entry that names a package is its own. -/
theorem NamedOnce.ownEntry (h : NamedOnce v root) (hentry : v.Lists root entry)
    (hparse : ZoneName.parse? entry = some (.package id)) : OwnEntry v root id entry := by
  obtain ⟨own, hown⟩ := exists_ownEntry hentry hparse
  obtain ⟨hlists, hnamed⟩ := hown.named
  exact h id own entry hlists hentry hnamed hparse ▸ hown

/-- A package's zone is that of its own entry. -/
theorem OwnEntry.zoneOf_eq (h : OwnEntry v root id entry) (hlist : v.list root = .ok names) :
    zoneOf root names id = root.join entry := by
  obtain ⟨names', hlist', hlast⟩ := h
  cases hlist.symm.trans hlist'
  rw [zoneOf, hlast, Option.getD_some]

/-- A package with an own entry is looked at. -/
theorem OwnEntry.mem_packageIds (h : OwnEntry v root id entry) (hlist : v.list root = .ok names) :
    id ∈ packageIds names := by
  obtain ⟨⟨names', hlist', hentry⟩, hparse⟩ := h.named
  cases hlist.symm.trans hlist'
  exact Rapl.mem_packageIds.2 ⟨entry, hentry, hparse⟩

/-- Every package that is looked at has an own entry. -/
theorem exists_ownEntry_of_mem (hlist : v.list root = .ok names) (h : id ∈ packageIds names) :
    ∃ own, OwnEntry v root id own := by
  obtain ⟨other, hmem, hparse⟩ := mem_packageIds.1 h
  exact exists_ownEntry ⟨names, hlist, hmem⟩ hparse

/-- A gauge is found if its package's own zone is usable: for the whole it is that
of the zone, for another component the last one found inside. -/
theorem mem_gaugesFound_iff (h : v.list root = .ok names) :
    (⟨id, c⟩, g) ∈ gaugesFound v root names ↔
      ∃ entry n, OwnEntry v root id entry ∧ UsableZone v (root.join entry) ∧
        Sensor.count v ((root.join entry).join "energy_uj") = .ok n ∧
        if c = .whole then g = gaugeAt v (root.join entry) n
        else lastOf c
          ((innerZones v root names id (root.join entry)).map (examine v)) = some g := by
  rw [mem_gaugesFound]
  constructor
  · rintro ⟨hid, hg⟩
    obtain ⟨own, hown⟩ := exists_ownEntry_of_mem h hid
    rw [hown.zoneOf_eq h] at hg
    by_cases husable : UsableZone v (root.join own)
    · obtain ⟨n, hn, hgauges⟩ := gauges_lookAt_of_usable root names id husable
      rw [hgauges, mem_packageGauges] at hg
      exact ⟨own, n, hown, husable, hn, hg⟩
    · rw [gauges_lookAt_of_not_usable husable] at hg
      cases hg
  · rintro ⟨entry, n, hown, husable, hn, hg⟩
    obtain ⟨n', hn', hgauges⟩ := gauges_lookAt_of_usable root names id husable
    cases hn.symm.trans hn'
    refine ⟨hown.mem_packageIds h, ?_⟩
    rw [hown.zoneOf_eq h, hgauges, mem_packageGauges]
    exact hg

end Entries

/-- What looking for packages gives, told from the files alone. -/
structure FindsUsable (v : View) (root : Path) (answer : Except Error (Option CpuMeter)) :
    Prop where
  /-- The one error is that of a directory which is there and cannot be listed. -/
  failed : ∀ e, answer = .error e ↔
    ∃ fault, fault ≠ .notFound ∧ v.list root = .error fault ∧ e = .io fault
  /-- There is no meter if there is no directory or no usable package in it. -/
  absent : answer = .ok none ↔ v.list root = .error .notFound ∨
    (∃ names, v.list root = .ok names) ∧ ∀ id, ¬ Usable v root id
  /-- The packages of a meter are the usable ones, at least one, in ascending order. -/
  packages : ∀ m, answer = .ok (some m) →
    m.packages ≠ [] ∧ m.packages.Pairwise (· < ·) ∧ ∀ id, id ∈ m.packages ↔ Usable v root id
  /-- The gauge of each package starts at the value of the counter in its zone. -/
  started : ∀ m, answer = .ok (some m) → ∀ id ∈ m.packages, ∀ entry, v.Lists root entry →
    ZoneName.parse? entry = some (.package id) →
      ∃ n, Sensor.count v ((root.join entry).join "energy_uj") = .ok n ∧
        m.gauge? ⟨id, .whole⟩ = some (gaugeAt v (root.join entry) n)

/-- Whether a package is found. -/
def Found (v : View) (root : Path) (id : UInt32) : Prop :=
  ∃ m, (CpuMeter.detect v root).value = .ok (some m) ∧ id ∈ m.packages

/-- That two file systems have the same entry for a package, with the same name and
the same counter. -/
def SamePackage (v v' : View) (root : Path) (id : UInt32) : Prop :=
  ∀ entry, ZoneName.parse? entry = some (.package id) →
    (v.Lists root entry ↔ v'.Lists root entry) ∧
    v.read ((root.join entry).join "name") = v'.read ((root.join entry).join "name") ∧
    v.read ((root.join entry).join "energy_uj") = v'.read ((root.join entry).join "energy_uj")

section Packages

variable {v v' : View} {root : Path} {names : List String} {id : UInt32}

/-- The whole of a usable package is found, at the value of the counter in its zone. -/
theorem whole_mem_gaugesFound {entry : String} (hown : OwnEntry v root id entry)
    (h : v.list root = .ok names) (husable : UsableZone v (root.join entry)) :
    ∃ n, Sensor.count v ((root.join entry).join "energy_uj") = .ok n ∧
      (⟨id, .whole⟩, gaugeAt v (root.join entry) n) ∈ gaugesFound v root names := by
  obtain ⟨n, hn⟩ := husable.counted
  refine ⟨n, hn, (mem_gaugesFound_iff h).2 ⟨entry, n, hown, husable, hn, ?_⟩⟩
  rw [if_pos rfl]

/-- Where no package is named twice, the whole of a package is found if the package
is usable. -/
theorem exists_whole_iff (hv : NamedOnce v root) (h : v.list root = .ok names) :
    (∃ g, (⟨id, .whole⟩, g) ∈ gaugesFound v root names) ↔ Usable v root id := by
  constructor
  · rintro ⟨g, hg⟩
    obtain ⟨entry, n, hown, husable, -⟩ := (mem_gaugesFound_iff h).1 hg
    exact ⟨entry, hown.named.1, hown.named.2, husable⟩
  · rintro ⟨entry, hentry, hparse, husable⟩
    obtain ⟨n, -, hmem⟩ := whole_mem_gaugesFound (hv.ownEntry hentry hparse) h husable
    exact ⟨_, hmem⟩

/-- If anything was found, so was the whole of a package. -/
theorem exists_package (h : gaugesFound v root names ≠ []) :
    ∃ id g, (⟨id, .whole⟩, g) ∈ gaugesFound v root names := by
  obtain ⟨x, hx⟩ := List.exists_mem_of_ne_nil _ h
  have hroot := (proper_flatMap (ascending_lookAtAll v root names)).rooted x.1
    (List.mem_map_of_mem hx)
  obtain ⟨y, hy, hslot⟩ := List.mem_map.1 hroot
  exact ⟨x.1.package, y.2, hslot ▸ hy⟩

/-- A package is one of a meter's if its whole was found. -/
theorem mem_packages_iff {m : CpuMeter} (hg : m.gauges = gaugesFound v root names) :
    id ∈ m.packages ↔ ∃ g, (⟨id, .whole⟩, g) ∈ gaugesFound v root names := by
  rw [CpuMeter.mem_packages, Option.isSome_iff_exists, ← hg]
  exact exists_congr fun g => CpuMeter.gauge?_eq_some

/-- Looking for packages finds the usable ones. -/
theorem Detected.findsUsable {answer : Except Error (Option CpuMeter)} (hv : NamedOnce v root)
    (hd : Detected v root answer) : FindsUsable v root answer := by
  cases hd with
  | unlisted h hne =>
    refine ⟨fun e => ?_, ?_, by simp, by simp⟩
    · rw [h, Except.error.injEq]
      constructor
      · rintro rfl
        exact ⟨_, hne, rfl, rfl⟩
      · rintro ⟨_, -, ⟨⟩, rfl⟩
        rfl
    · simp [h, hne]
  | missing h => exact ⟨by simp [h], by simp [h], by simp, by simp⟩
  | nothing h hg =>
    have hnone : ∀ id, ¬ Usable v root id := by
      intro id husable
      obtain ⟨g, hmem⟩ := (exists_whole_iff hv h).2 husable
      rw [hg] at hmem
      cases hmem
    exact ⟨by simp [h], by simp [h, hnone], by simp, by simp⟩
  | @meter names m h hg hne =>
    have hpackage : ∀ id, id ∈ m.packages ↔ Usable v root id := fun id =>
      (mem_packages_iff hg).trans (exists_whole_iff hv h)
    obtain ⟨id, hid⟩ := exists_package (hg ▸ hne)
    have hmem := (mem_packages_iff hg).2 hid
    refine ⟨by simp [h], ?_, ?_, ?_⟩
    · have hsome : ¬ ∀ id, ¬ Usable v root id := fun hnone => hnone id ((hpackage id).1 hmem)
      simp [h, hsome]
    · rintro _ ⟨⟩
      exact ⟨List.ne_nil_of_mem hmem, m.ascending_packages, hpackage⟩
    · rintro _ ⟨⟩ id hid entry hentry hparse
      obtain ⟨own, hown, hparse', husable⟩ := (hpackage id).1 hid
      cases hv id own entry hown hentry hparse' hparse
      obtain ⟨n, hn, hwhole⟩ := whole_mem_gaugesFound (hv.ownEntry hown hparse) h husable
      exact ⟨n, hn, CpuMeter.gauge?_eq_some.2 (hg ▸ hwhole)⟩

end Packages

section Locality

variable {v v' : View} {root zone : Path} {id : UInt32}

/-- A package that is usable stays so where its own entry, name and counter are the same. -/
theorem Usable.of_same (h : Usable v root id) (hs : SamePackage v v' root id) :
    Usable v' root id := by
  obtain ⟨entry, hentry, hparse, ⟨name, hname, hpackage⟩, n, hn⟩ := h
  obtain ⟨hlists, hsame, hsame'⟩ := hs entry hparse
  exact ⟨entry, hlists.1 hentry, hparse,
    ⟨name, (Sensor.text_congr hsame).symm.trans hname, hpackage⟩,
    n, (Sensor.count_congr hsame').symm.trans hn⟩

/-- To be the same for a package goes both ways. -/
theorem SamePackage.symm (h : SamePackage v v' root id) : SamePackage v' v root id := by
  intro entry hparse
  obtain ⟨hlists, hname, hcounter⟩ := h entry hparse
  exact ⟨hlists.symm, hname.symm, hcounter.symm⟩

/-- Where no package is named twice, the usable packages are found. -/
theorem found_iff_usable (hv : NamedOnce v root) : Found v root id ↔ Usable v root id := by
  have hfinds := (detected v root).findsUsable hv
  constructor
  · rintro ⟨m, hm, hid⟩
    exact ((hfinds.packages m hm).2.2 id).1 hid
  · intro h
    cases hvalue : (CpuMeter.detect v root).value with
    | error e =>
      obtain ⟨fault, -, hlist, -⟩ := (hfinds.failed e).1 hvalue
      obtain ⟨_, ⟨names, hnames, -⟩, -⟩ := h
      cases hlist.symm.trans hnames
    | ok found =>
      cases found with
      | none =>
        rcases hfinds.absent.1 hvalue with hlist | ⟨-, hnone⟩
        · obtain ⟨_, ⟨names, hnames, -⟩, -⟩ := h
          cases hlist.symm.trans hnames
        · exact absurd h (hnone id)
      | some m => exact ⟨m, hvalue, ((hfinds.packages m hvalue).2.2 id).2 h⟩

end Locality

/-- Looking for packages below a directory in which no package is named twice, in
whatever order it is listed. The usable packages are found, ascending; each gauge
starts at its counter; nothing below the directory is an error. Whether a package is
found depends on its own entry, its name and its counter, and on nothing else. -/
theorem detect_finds_usable {v : View} {root : Path} (hv : NamedOnce v root) :
    FindsUsable v root (CpuMeter.detect v root).value ∧
      ∀ v' id, NamedOnce v' root → SamePackage v v' root id →
        (Found v root id ↔ Found v' root id) := by
  refine ⟨(detected v root).findsUsable hv, fun v' id hv' hs => ?_⟩
  rw [found_iff_usable hv, found_iff_usable hv']
  exact ⟨fun h => h.of_same hs, fun h => h.of_same hs.symm⟩

/-- Entries of a directory of zones, as they may be listed. -/
def mixedNames : List String :=
  ["intel-rapl:10", "notes", "intel-rapl:7:0", "intel-rapl:3", "intel-rapl:2", "intel-rapl:1"]

/-- A directory of zones with two packages, the zone of the whole board, a package
without a counter, a zone inside a package that is not there, and another entry. -/
def mixedZones : View :=
  .listing ⟨"zones"⟩ mixedNames
    [("zones/intel-rapl:10/name", "package-1-die-0"), ("zones/intel-rapl:10/energy_uj", "5"),
      ("zones/intel-rapl:1/name", "psys"), ("zones/intel-rapl:1/energy_uj", "9"),
      ("zones/intel-rapl:3/name", "package-3"), ("zones/intel-rapl:3/energy_uj", "none"),
      ("zones/intel-rapl:2/name", "package-0"), ("zones/intel-rapl:2/energy_uj", "70"),
      ("zones/intel-rapl:2/max_energy_range_uj", "1000")]

/-- Of these entries the two usable packages are found, in ascending order. -/
theorem detect_finds_usable_among_others :
    NamedOnce mixedZones ⟨"zones"⟩ ∧
      FindsUsable mixedZones ⟨"zones"⟩ (CpuMeter.detect mixedZones ⟨"zones"⟩).value ∧
      ∃ m, (CpuMeter.detect mixedZones ⟨"zones"⟩).value = .ok (some m) ∧ m.packages = [2, 10] := by
  have hv : NamedOnce mixedZones ⟨"zones"⟩ := by
    have hdistinct : ∀ a ∈ mixedNames, ∀ b ∈ mixedNames,
        ZoneName.parse? a = ZoneName.parse? b → a = b := by decide +kernel
    rintro id a b ⟨_, ⟨⟩, ha⟩ ⟨_, ⟨⟩, hb⟩ hparse hparse'
    exact hdistinct a ha b hb (hparse.trans hparse'.symm)
  exact ⟨hv, (detect_finds_usable hv).1, _, rfl, rfl⟩

end Rapl

end EnergyMeter
