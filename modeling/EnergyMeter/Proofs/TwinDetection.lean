import EnergyMeter.Proofs.TwinMeters

/-!
# Finding zones that were moved

The zones of a package stand beside its own zone, or else in its directory. Where they were
moved from the one place to the other, the names are the same and so is their order, and each
name stands for the same zone. So the same zone is the last one of its component, and the
meters that are found before and after the move are twins.
-/

namespace EnergyMeter.Rapl

open Files

/-- The names of zones among some names. -/
def zonesOf (names : List String) : List String :=
  names.filter fun name => (ZoneName.parse? name).isSome

/-- How a file system shows zones that another one shows beside those of their packages. -/
structure ShowsMoved (k : ZoneMove) (names : List String) (v v' : View) : Prop where
  /-- The names before the move. -/
  listed : v.list k.root = .ok names
  /-- After the move the zones that stay are left, in any order. -/
  left : ∃ names', v'.list k.root = .ok names' ∧
    names'.Perm (names.filter fun name => (k.home? name).isNone)
  /-- The zones read alike. -/
  reads : ReadAlike k (zonesOf names) v v'
  /-- Zones are moved into the zone of their package. -/
  homes : ∀ id package, k.home id = some package →
    package ∈ names ∧ ZoneName.parse? package = some (.package id)
  /-- Before the move no package has zones in its directory. -/
  flat : ∀ package id inner, ZoneName.parse? package = some (.package id) →
    v.list (k.root.join package) = .ok inner → inner.filter ZoneName.isInside = []
  /-- After the move those packages have none whose zones stay. -/
  kept : ∀ package id inner, ZoneName.parse? package = some (.package id) → k.home id = none →
    v'.list (k.root.join package) = .ok inner → inner.filter ZoneName.isInside = []
  /-- The others have those that were beside them, in any order. -/
  moved : ∀ package id n, k.home id = some package →
    Sensor.count v ((k.root.join package).join "energy_uj") = .ok n →
      ∃ inner, v'.list (k.root.join package) = .ok inner ∧
        (inner.filter ZoneName.isInside).Perm (names.filter (ZoneName.isInsideOf id))

/-- What is found before and after the move. -/
inductive TwinDetections (k : ZoneMove) (zones : List String) :
    Except Error (Option CpuMeter) → Except Error (Option CpuMeter) → Prop
  /-- The same error. -/
  | error (e : Error) : TwinDetections k zones (.error e) (.error e)
  /-- No meter. -/
  | none : TwinDetections k zones (.ok none) (.ok none)
  /-- Twin meters. -/
  | meters {m m' : CpuMeter} (h : TwinMeters k zones m m') :
      TwinDetections k zones (.ok (some m)) (.ok (some m'))

section Names

variable {k : ZoneMove} {names names' : List String} {id : UInt32} {name : String}

/-- The zones of packages stay. -/
theorem ZoneMove.home?_package (h : ZoneName.parse? name = some (.package id)) :
    k.home? name = none := by
  simp only [home?, h]

/-- The zones inside a package are moved where its home is. -/
theorem ZoneMove.home?_inside (h : ZoneName.isInsideOf id name = true) :
    k.home? name = k.home id := by
  obtain ⟨n, hn⟩ := isInsideOf_eq_true.1 h
  simp only [home?, hn]

/-- Among the names that are left, the packages are the same. -/
theorem packageIds_left
    (hleft : names'.Perm (names.filter fun name => (k.home? name).isNone)) :
    packageIds names' = packageIds names := by
  have hmem : ∀ n, n ∈ packageIds names' ↔ n ∈ packageIds names := by
    intro n
    rw [mem_packageIds, mem_packageIds]
    refine exists_congr fun entry => ?_
    rw [hleft.mem_iff, List.mem_filter]
    constructor
    · exact fun h => ⟨h.1.1, h.2⟩
    · exact fun h => ⟨⟨h.1, by rw [ZoneMove.home?_package h.2]; rfl⟩, h.2⟩
  have hasc := ascending_packageIds names
  have hasc' := ascending_packageIds names'
  have hperm : (packageIds names').Perm (packageIds names) :=
    (List.perm_ext_iff_of_nodup (nodup_packageIds names') (nodup_packageIds names)).2 hmem
  exact hperm.eq_of_pairwise (fun a b _ _ hab hba => absurd hab (UInt32.lt_asymm hba)) hasc' hasc

/-- The zone of a package that one name alone stands for has that name. -/
theorem zoneOf_eq {root : Path} (hname : name ∈ names)
    (hparse : ZoneName.parse? name = some (.package id))
    (honce : ∀ other ∈ names, ZoneName.parse? other = some (.package id) → other = name) :
    zoneOf root names id = root.join name := by
  have hfilter : name ∈ names.filter (ZoneName.isPackageOf id) :=
    List.mem_filter.2 ⟨hname, by simp [ZoneName.isPackageOf, hparse]⟩
  have hlast := List.getLast?_eq_some_getLast (List.ne_nil_of_mem hfilter)
  have hmem := List.getLast_mem (List.ne_nil_of_mem hfilter)
  generalize (names.filter (ZoneName.isPackageOf id)).getLast _ = last at hlast hmem
  obtain ⟨hlisted, hown⟩ := List.mem_filter.1 hmem
  have hsame : last = name := honce last hlisted (by simpa [ZoneName.isPackageOf] using hown)
  rw [zoneOf, hlast, hsame, Option.getD_some]

end Names

section Gauges

variable {k : ZoneMove} {zones : List String} {v v' : View} {z : String} {c : Component}
  {id : UInt32}

/-- A zone starts twin gauges before and after the move. -/
theorem gaugeFor?_alike (hv : ReadAlike k zones v v') (hz : z ∈ zones) :
    gaugeFor? v' c (k.after z) = (gaugeFor? v c (k.before z)).map fun g =>
      { g with file := (k.after z).join "energy_uj" } := by
  have hname := hv z hz "name" (by simp [zoneFiles])
  have hcount := hv z hz "energy_uj" (by simp [zoneFiles])
  have hrange := hv z hz "max_energy_range_uj" (by simp [zoneFiles])
  have hstands : StandsFor v' c (k.after z) ↔ StandsFor v c (k.before z) := by
    constructor
    · intro h
      obtain ⟨word, hword, htext⟩ := h.named
      obtain ⟨n, hn⟩ := h.counted
      exact ⟨⟨word, hword, (text_eq_ok_iff hname).1 htext⟩, n, (count_eq_ok_iff hcount).1 hn⟩
    · intro h
      obtain ⟨word, hword, htext⟩ := h.named
      obtain ⟨n, hn⟩ := h.counted
      exact ⟨⟨word, hword, (text_eq_ok_iff hname).2 htext⟩, n, (count_eq_ok_iff hcount).2 hn⟩
  have hgauge : ∀ n, gaugeAt v' (k.after z) n =
      { gaugeAt v (k.before z) n with file := (k.after z).join "energy_uj" } := by
    intro n
    unfold gaugeAt
    rw [toOption_count hrange]
  refine Option.ext fun g => ?_
  rw [gaugeFor?_eq_some, Option.map_eq_some_iff, hstands]
  constructor
  · intro h
    obtain ⟨h, n, hn, rfl⟩ := h
    exact ⟨_, gaugeFor?_eq_some.2 ⟨h, n, (count_eq_ok_iff hcount).1 hn, rfl⟩, (hgauge n).symm⟩
  · intro h
    obtain ⟨g', hg', rfl⟩ := h
    obtain ⟨h, n, hn, rfl⟩ := gaugeFor?_eq_some.1 hg'
    exact ⟨h, n, (count_eq_ok_iff hcount).2 hn, (hgauge n).symm⟩

/-- Of zones in the same order the same one is the last of its component. -/
theorem lastOf_alike (hv : ReadAlike k zones v v') {row : List String}
    (hrow : ∀ z ∈ row, z ∈ zones) (c : Component) :
    Option.Rel (TwinGauge k zones) (lastOf c ((row.map k.before).map (examine v)))
      (lastOf c ((row.map k.after).map (examine v'))) := by
  -- The last gauge of a row is the first one from its end.
  rw [lastOf_examine, lastOf_examine, List.getLast?_filterMap, List.getLast?_filterMap,
    ← List.map_reverse, ← List.map_reverse, List.findSome?_map, List.findSome?_map]
  have hreverse : ∀ z ∈ row.reverse, z ∈ zones := fun z hz => hrow z (List.mem_reverse.1 hz)
  generalize row.reverse = back at hreverse
  induction back with
  | nil => exact .none
  | cons z rest ih =>
    obtain ⟨hz, hrest⟩ := List.forall_mem_cons.1 hreverse
    rw [List.findSome?_cons, List.findSome?_cons, Function.comp_apply, Function.comp_apply,
      gaugeFor?_alike hv hz]
    cases hg : gaugeFor? v c (k.before z) with
    | none => exact ih hrest
    | some g =>
      obtain ⟨-, n, -, rfl⟩ := gaugeFor?_eq_some.1 hg
      exact .some ⟨z, hz, rfl, rfl⟩

/-- The gauges of a package are twins if those of its zone and of its components are. -/
theorem twinRows_packageGauges {whole whole' : Gauge} {found found' : List Examined}
    (hwhole : TwinGauge k zones whole whole')
    (hlast : ∀ c, Option.Rel (TwinGauge k zones) (lastOf c found) (lastOf c found')) :
    TwinRows k zones (packageGauges id whole found) (packageGauges id whole' found') := by
  have hslot : ∀ c, TwinRows k zones (slotted id c (lastOf c found))
      (slotted id c (lastOf c found')) := by
    intro c
    have hc := hlast c
    generalize lastOf c found = g at hc
    generalize lastOf c found' = g' at hc
    cases hc with
    | none => exact .nil
    | some h => exact .cons ⟨rfl, h⟩ .nil
  refine .cons ⟨rfl, hwhole⟩ ?_
  exact List.rel_append (List.rel_append (hslot .cores) (hslot .graphic)) (hslot .dram)

end Gauges

section Inner

variable {v : View} {root zone : Path} {names inner : List String} {id : UInt32}

/-- Zones that are listed in another order are sorted the same. -/
theorem mergeSort_congr {a b : List String} (h : a.Perm b) :
    a.mergeSort nameLe = b.mergeSort nameLe :=
  mergeSort_eq_of_perm (h.trans (List.mergeSort_perm b nameLe).symm)
    (List.pairwise_mergeSort nameLe_trans nameLe_total b)

/-- Zones beside that of the package are those inside it. -/
theorem innerZones_beside (h : names.filter (ZoneName.isInsideOf id) ≠ []) :
    innerZones v root names id zone =
      ((names.filter (ZoneName.isInsideOf id)).mergeSort nameLe).map root.join := by
  unfold innerZones
  simp only [List.isEmpty_iff, h, if_false]

/-- Without any, those in the directory of the package are. -/
theorem innerZones_nested (h : names.filter (ZoneName.isInsideOf id) = [])
    (hlist : v.list zone = .ok inner) : innerZones v root names id zone =
      ((inner.filter ZoneName.isInside).mergeSort nameLe).map zone.join := by
  unfold innerZones
  simp only [h, List.isEmpty_nil, if_true, hlist]

/-- Without any there either, the package has none. -/
theorem innerZones_bare (h : names.filter (ZoneName.isInsideOf id) = [])
    (hbare : ∀ inner, v.list zone = .ok inner → inner.filter ZoneName.isInside = []) :
    innerZones v root names id zone = [] := by
  cases hlist : v.list zone with
  | ok inner => rw [innerZones_nested h hlist, hbare inner hlist, List.mergeSort_nil, List.map_nil]
  | error fault =>
    unfold innerZones
    simp only [h, List.isEmpty_nil, if_true, hlist]

end Inner

section Detection

variable {k : ZoneMove} {names names' : List String} {v v' : View} {id : UInt32}
  {package : String}

/-- Zones that stay are left beside their package, and no others. -/
theorem beside_left (hleft : names'.Perm (names.filter fun name => (k.home? name).isNone))
    (id : UInt32) : (names'.filter (ZoneName.isInsideOf id)).Perm
      (if (k.home id).isNone then names.filter (ZoneName.isInsideOf id) else []) := by
  refine (hleft.filter _).trans (List.Perm.of_eq ?_)
  rw [List.filter_filter]
  have hhome : ∀ name, ZoneName.isInsideOf id name = true → k.home? name = k.home id :=
    fun _ h => ZoneMove.home?_inside h
  split
  · rename_i hnone
    refine List.filter_congr fun name _ => ?_
    cases hinside : ZoneName.isInsideOf id name with
    | false => rfl
    | true => rw [hhome name hinside, hnone]; rfl
  · rename_i hsome
    refine List.filter_eq_nil_iff.2 fun name _ => ?_
    cases hinside : ZoneName.isInsideOf id name with
    | false => simp
    | true => simpa [hhome name hinside] using hsome

/-- The zones inside a usable package have the same names in the same order before and after
the move. -/
theorem ShowsMoved.innerZones_alike (h : ShowsMoved k names v v')
    (hleft : names'.Perm (names.filter fun name => (k.home? name).isNone))
    (hparse : ZoneName.parse? package = some (.package id))
    (hhome : ∀ other, k.home id = some other → other = package)
    (hcount : ∃ n, Sensor.count v ((k.root.join package).join "energy_uj") = .ok n) :
    ∃ row : List String, (∀ z ∈ row, z ∈ zonesOf names) ∧
      innerZones v k.root names id (k.root.join package) = row.map k.before ∧
      innerZones v' k.root names' id (k.root.join package) = row.map k.after := by
  -- Before the move the names stand beside the package; afterwards they do, or are in it.
  let row := (names.filter (ZoneName.isInsideOf id)).mergeSort nameLe
  have hrow : ∀ z ∈ row, z ∈ zonesOf names ∧ k.home? z = k.home id := by
    intro z hz
    obtain ⟨hmem, hinside⟩ := List.mem_filter.1 ((List.mergeSort_perm _ _).mem_iff.1 hz)
    obtain ⟨n, hn⟩ := isInsideOf_eq_true.1 hinside
    exact ⟨List.mem_filter.2 ⟨hmem, by rw [hn]; rfl⟩, ZoneMove.home?_inside hinside⟩
  have hbefore : innerZones v k.root names id (k.root.join package) = row.map k.before := by
    by_cases hnil : names.filter (ZoneName.isInsideOf id) = []
    · rw [innerZones_bare hnil fun inner => h.flat package id inner hparse]
      simp only [row, hnil, List.mergeSort_nil, List.map_nil]
    · exact innerZones_beside hnil
  refine ⟨row, fun z hz => (hrow z hz).1, hbefore, ?_⟩
  have hbeside := beside_left hleft id
  cases hid : k.home id with
  | none =>
    have hafter : row.map k.after = row.map k.root.join := by
      refine List.map_congr_left fun z hz => ?_
      simp only [ZoneMove.after, (hrow z hz).2, hid]
    rw [hafter]
    rw [hid] at hbeside
    by_cases hnil : names'.filter (ZoneName.isInsideOf id) = []
    · rw [innerZones_bare hnil fun inner => h.kept package id inner hparse hid]
      have hnone : names.filter (ZoneName.isInsideOf id) = [] := by
        rw [hnil] at hbeside
        exact hbeside.symm.eq_nil
      simp only [row, hnone, List.mergeSort_nil, List.map_nil]
    · rw [innerZones_beside hnil, mergeSort_congr hbeside]
      rfl
  | some other =>
    have hafter : row.map k.after = row.map (k.root.join package).join := by
      refine List.map_congr_left fun z hz => ?_
      simp only [ZoneMove.after, (hrow z hz).2, hid, hhome other hid]
    rw [hafter]
    rw [hid] at hbeside
    obtain ⟨n, hn⟩ := hcount
    obtain ⟨inner, hlist, hperm⟩ := h.moved package id n (hhome other hid ▸ hid) hn
    rw [innerZones_nested hbeside.eq_nil hlist, mergeSort_congr hperm]

/-- Looking at a package finds twin gauges before and after the move. -/
theorem ShowsMoved.lookAt_alike (h : ShowsMoved k names v v')
    (hleft : names'.Perm (names.filter fun name => (k.home? name).isNone))
    (hname : package ∈ names) (hparse : ZoneName.parse? package = some (.package id))
    (hhome : ∀ other, k.home id = some other → other = package) :
    TwinRows k (zonesOf names) (lookAt v k.root names (k.root.join package) id).gauges
      (lookAt v' k.root names' (k.root.join package) id).gauges := by
  have hzone : package ∈ zonesOf names := List.mem_filter.2 ⟨hname, by rw [hparse]; rfl⟩
  have hafter : k.after package = k.root.join package := by
    simp only [ZoneMove.after, ZoneMove.home?_package hparse]
  have hread : ∀ file ∈ zoneFiles, v'.read ((k.root.join package).join file) =
      v.read ((k.root.join package).join file) := by
    intro file hfile
    have hsame := h.reads package hzone file hfile
    rw [hafter] at hsame
    exact hsame
  have hnamed := hread "name" (by simp [zoneFiles])
  have hcounted := hread "energy_uj" (by simp [zoneFiles])
  have hranged := hread "max_energy_range_uj" (by simp [zoneFiles])
  have husable : UsableZone v' (k.root.join package) ↔ UsableZone v (k.root.join package) := by
    constructor
    · intro hu
      exact ⟨Sensor.text_congr hnamed ▸ hu.named, Sensor.count_congr hcounted ▸ hu.counted⟩
    · intro hu
      exact ⟨(Sensor.text_congr hnamed).symm ▸ hu.named,
        (Sensor.count_congr hcounted).symm ▸ hu.counted⟩
  by_cases hu : UsableZone v (k.root.join package)
  · obtain ⟨n, hn, hgauges⟩ := gauges_lookAt_of_usable k.root names id hu
    obtain ⟨n', hn', hgauges'⟩ := gauges_lookAt_of_usable k.root names' id (husable.2 hu)
    cases ((Sensor.count_congr hcounted).symm.trans hn').symm.trans hn
    obtain ⟨row, hrow, hbefore, hbehind⟩ := h.innerZones_alike hleft hparse hhome ⟨n, hn⟩
    rw [hgauges, hgauges', hbefore, hbehind]
    refine twinRows_packageGauges ⟨package, hzone, rfl, ?_⟩ fun c => lastOf_alike h.reads hrow c
    unfold gaugeAt
    rw [hafter, Sensor.count_congr hranged]
  · rw [gauges_lookAt_of_not_usable hu, gauges_lookAt_of_not_usable (mt husable.1 hu)]
    exact .nil

/-- The gauges that are found before and after the move are twins. -/
theorem ShowsMoved.gaugesFound_alike (h : ShowsMoved k names v v') (honce : NamedOnce v k.root)
    (hleft : names'.Perm (names.filter fun name => (k.home? name).isNone)) :
    TwinRows k (zonesOf names) (gaugesFound v k.root names) (gaugesFound v' k.root names') := by
  have hlisted : ∀ name ∈ names, v.Lists k.root name := fun name hname => ⟨names, h.listed, hname⟩
  unfold gaugesFound lookAtAll
  rw [packageIds_left hleft]
  have hids : ∀ id ∈ packageIds names, ∃ package ∈ names,
      ZoneName.parse? package = some (.package id) := fun id hid => mem_packageIds.1 hid
  generalize packageIds names = ids at hids
  induction ids with
  | nil => exact .nil
  | cons id rest ih =>
    obtain ⟨⟨package, hname, hparse⟩, hrest⟩ := List.forall_mem_cons.1 hids
    have hunique : ∀ other ∈ names, ZoneName.parse? other = some (.package id) →
        other = package := fun other hother hparse' =>
      honce id other package (hlisted other hother) (hlisted package hname) hparse' hparse
    have hname' : package ∈ names' :=
      hleft.mem_iff.2 (List.mem_filter.2 ⟨hname, by rw [ZoneMove.home?_package hparse]; rfl⟩)
    have hunique' : ∀ other ∈ names', ZoneName.parse? other = some (.package id) →
        other = package := fun other hother hparse' =>
      hunique other (List.mem_filter.1 (hleft.mem_iff.1 hother)).1 hparse'
    have hhome : ∀ other, k.home id = some other → other = package := by
      intro other hother
      obtain ⟨hmem, hparse'⟩ := h.homes id other hother
      exact hunique other hmem hparse'
    rw [List.map_cons, List.map_cons, List.flatMap_cons, List.flatMap_cons,
      zoneOf_eq hname hparse hunique, zoneOf_eq hname' hparse hunique']
    exact List.rel_append (h.lookAt_alike hleft hname hparse hhome) (ih hrest)

/-- What is found before and after the move are twin meters, or none, or the same error. -/
theorem ShowsMoved.detect_alike (h : ShowsMoved k names v v') (honce : NamedOnce v k.root) :
    TwinDetections k (zonesOf names) (CpuMeter.detect v k.root).value
      (CpuMeter.detect v' k.root).value := by
  obtain ⟨names', hlisted', hleft⟩ := h.left
  have hgauges := h.gaugesFound_alike honce hleft
  have hfound : ∀ w names, w.list k.root = .ok names → (CpuMeter.detect w k.root).value = .ok none ∧
      gaugesFound w k.root names = [] ∨ ∃ m, (CpuMeter.detect w k.root).value = .ok (some m) ∧
        m.gauges = gaugesFound w k.root names ∧ m.gauges ≠ [] := by
    intro w names hnames
    have hdetected := detected w k.root
    generalize (CpuMeter.detect w k.root).value = answer at hdetected ⊢
    cases hdetected with
    | unlisted hlist => cases hnames.symm.trans hlist
    | missing hlist => cases hnames.symm.trans hlist
    | nothing hlist hg =>
      cases hnames.symm.trans hlist
      exact Or.inl ⟨rfl, hg⟩
    | meter hlist hg hne =>
      cases hnames.symm.trans hlist
      exact Or.inr ⟨_, rfl, hg, hne⟩
  rcases hfound v names h.listed with ⟨hnone, hg⟩ | ⟨m, hm, hg, hne⟩
  · rw [hg] at hgauges
    rcases hfound v' names' hlisted' with ⟨hnone', -⟩ | ⟨m', -, hg', hne'⟩
    · rw [hnone, hnone']
      exact .none
    · exact absurd (hg'.trans (List.forall₂_nil_left_iff.1 hgauges)) hne'
  · rw [← hg] at hgauges
    rcases hfound v' names' hlisted' with ⟨-, hg'⟩ | ⟨m', hm', hg', -⟩
    · rw [hg'] at hgauges
      exact absurd (List.forall₂_nil_right_iff.1 hgauges) hne
    · rw [← hg'] at hgauges
      rw [hm, hm']
      exact .meters hgauges

end Detection

end EnergyMeter.Rapl
