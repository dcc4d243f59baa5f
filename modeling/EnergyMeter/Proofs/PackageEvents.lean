import EnergyMeter.Proofs.HiddenZones

/-!
# What is told of the CPU packages

Whatever is wrong with a zone is told. A zone that calls itself a package has one record: that
it is found, or that it is left out because of its counter. Behind the records of the zones
inside, each lost one with a record of its own and in the order of the paths, comes the record
of the package that is found; of a package that is left out nothing inside is looked at. The
packages are told in ascending order.
-/

namespace EnergyMeter

open Files Log

namespace Log.Event

/-- The package's zone that an event is the record of. -/
def packageZone? : Event → Option Path
  | .packageFound _ _ zone | .packageUnreadable zone _ => some zone
  | _ => none

/-- The zone inside a package that an event is about. -/
def innerZone? : Event → Option Path
  | .innerIgnored zone _ | .innerUnreadable zone _ _ => some zone
  | _ => none

end Log.Event

namespace Rapl

/-- The record of a zone inside a package that stands for a component and has a counter that
cannot be read. -/
def loss? (v : View) (zone : Path) : Option Event :=
  match Sensor.text v (zone.join "name"), Sensor.count v (zone.join "energy_uj") with
  | .ok name, .error e =>
    if name ∈ ["core", "uncore", "dram"] then some (.innerUnreadable zone name e) else none
  | _, _ => none

/-- What the events tell of a zone that calls itself a package. -/
inductive Told (v : View) (root : Path) (id : UInt32) (name : String) (zone : Path)
    (packages : List UInt32) (events : List Event) : Prop
  /-- Its counter can be read: it is found and has one record. The zones inside that are lost
  have one each, in the order of their paths, and come before. -/
  | found {n : UInt64} {row : List Path} {before after : List Event}
      (hn : Sensor.count v (zone.join "energy_uj") = .ok n) (hid : id ∈ packages)
      (hrecord : events.filter (fun x => x.packageZone? = some zone) = [.packageFound id name zone])
      (hrow : SortedCandidates v root id zone row) (hnodup : row.Nodup)
      (hlosses : events.filter (fun x => x.severity = .warn ∧ ∃ z ∈ row, x.innerZone? = some z) =
        row.filterMap (loss? v))
      (hevents : events = before ++ .packageFound id name zone :: after)
      (hbehind : ∀ x ∈ after, ∀ z ∈ row, x.innerZone? ≠ some z)
  /-- Its counter cannot be read: it is left out and has one record with the error. No zone
  inside has a record, and nothing about them counts. -/
  | unreadable {e : Error} (he : Sensor.count v (zone.join "energy_uj") = .error e)
      (hid : id ∉ packages)
      (hrecord : events.filter (fun x => x.packageZone? = some zone) = [.packageUnreadable zone e])
      (hinner : ∀ x ∈ events, ∀ z, Candidate v root id zone z → x.innerZone? ≠ some z)
      (hunseen : ∀ v', SameOutside v v' root id zone →
        CpuMeter.detect v' root = CpuMeter.detect v root)

/-- What the events of one package are. -/
inductive Block (v : View) (root : Path) (names : List String) (zone : Path) (id : UInt32) :
    List Event → Prop
  /-- A zone that does not call itself a package is passed over. -/
  | skipped {name : String} (h : ∀ name, Sensor.text v (zone.join "name") = .ok name →
      ¬ "package".toList <+: name.toList) : Block v root names zone id [.zoneSkipped zone name]
  /-- One that does may have a counter that cannot be read. -/
  | unreadable {name : String} {e : Error} (hname : Sensor.text v (zone.join "name") = .ok name)
      (hpackage : "package".toList <+: name.toList)
      (he : Sensor.count v (zone.join "energy_uj") = .error e) :
      Block v root names zone id [.packageUnreadable zone e]
  /-- Otherwise the zones inside are told of, and then the package. -/
  | found {name : String} {n : UInt64} (hname : Sensor.text v (zone.join "name") = .ok name)
      (hpackage : "package".toList <+: name.toList)
      (hn : Sensor.count v (zone.join "energy_uj") = .ok n) :
      Block v root names zone id
        ((innerZones v root names id zone).flatMap (fun z => (examine v z).events) ++
          [.packageFound id name zone])

section Blocks

variable {v : View} {root zone z : Path} {names : List String} {id : UInt32} {x : Event}
  {e : Error} {events : List Event}

/-- What is told in examining a zone is that it stands for no component or is lost. -/
theorem mem_examine (h : x ∈ (examine v z).events) :
    (∃ name, x = .innerIgnored z name) ∨ ∃ name e, x = .innerUnreadable z name e := by
  unfold examine at h
  split at h
  · cases h
  · split at h
    · exact Or.inl ⟨_, List.mem_singleton.1 h⟩
    · split at h
      · cases h
      · exact Or.inr ⟨_, _, List.mem_singleton.1 h⟩

/-- It is about that zone. -/
theorem about_examine (h : x ∈ (examine v z).events) :
    x.innerZone? = some z ∧ x.packageZone? = none := by
  rcases mem_examine h with ⟨name, rfl⟩ | ⟨name, e, rfl⟩
  · exact ⟨rfl, rfl⟩
  · exact ⟨rfl, rfl⟩

/-- The words that stand for a component. -/
theorem componentOf?_eq_none {name : String} :
    componentOf? name = none ↔ name ∉ ["core", "uncore", "dram"] := by
  unfold componentOf?
  split_ifs with hcore huncore hdram <;> simp_all

/-- The one warning there may be is that the zone is lost. -/
theorem losses_examine (v : View) (z : Path) :
    (examine v z).events.filter (fun x => x.severity = .warn) = (loss? v z).toList := by
  unfold examine loss?
  cases Sensor.text v (z.join "name") with
  | error e => rfl
  | ok name =>
    cases hc : componentOf? name with
    | none =>
      have hword := componentOf?_eq_none.1 hc
      cases Sensor.count v (z.join "energy_uj") with
      | ok n =>
        simp only [hc]
        rfl
      | error e =>
        simp only [hc, if_neg hword]
        rfl
    | some c =>
      have hword : name ∈ ["core", "uncore", "dram"] := by
        by_contra hnot
        rw [componentOf?_eq_none.2 hnot] at hc
        cases hc
      cases hcount : Sensor.count v (z.join "energy_uj") with
      | ok n =>
        have hstart := startZone_eq_ok.2 ⟨n, hcount, rfl⟩
        simp only [hc, hstart]
        rfl
      | error e =>
        have hstart := startZone_eq_error.2 hcount
        simp only [hc, hstart, if_pos hword]
        rfl

/-- The events of a package are those of one of its cases. -/
theorem block (v : View) (root : Path) (names : List String) (zone : Path) (id : UInt32) :
    Block v root names zone id (lookAt v root names zone id).events := by
  unfold lookAt
  dsimp only
  split
  · rename_i hpackage
    obtain ⟨name, hname, hprefix⟩ := isPrefixOf_textOrEmpty.1 hpackage
    have htext : Sensor.textOrEmpty v (zone.join "name") = name := by
      unfold Sensor.textOrEmpty
      rw [hname]
    split
    · rename_i e he
      exact .unreadable hname hprefix (startZone_eq_error.1 he)
    · rename_i g hg
      obtain ⟨n, hn, -⟩ := startZone_eq_ok.1 hg
      rw [htext, List.flatMap_map]
      exact .found hname hprefix hn
  · rename_i hnot
    refine .skipped fun name hname hprefix => hnot ?_
    exact isPrefixOf_textOrEmpty.2 ⟨name, hname, hprefix⟩

/-- What is told of a package is about its own zone or a candidate. -/
theorem about_block (hlist : v.list root = .ok names) (h : Block v root names zone id events)
    (hx : x ∈ events) : (∀ p, x.packageZone? = some p → p = zone) ∧
      ∀ z, x.innerZone? = some z → Candidate v root id zone z := by
  cases h with
  | skipped _ =>
    cases List.mem_singleton.1 hx
    exact ⟨fun p h => (nomatch h), fun z h => (nomatch h)⟩
  | unreadable _ _ _ =>
    cases List.mem_singleton.1 hx
    exact ⟨fun p h => (Option.some.inj h).symm, fun z h => (nomatch h)⟩
  | found _ _ _ =>
    rcases List.mem_append.1 hx with hx | hx
    · obtain ⟨z, hz, hx⟩ := List.mem_flatMap.1 hx
      obtain ⟨hinner, hpackage⟩ := about_examine hx
      refine ⟨fun p h => ?_, fun z' h => ?_⟩
      · rw [hpackage] at h
        cases h
      · rw [hinner] at h
        cases h
        exact ((sortedCandidates_innerZones hlist).mem z).1 hz
    · cases List.mem_singleton.1 hx
      exact ⟨fun p h => (Option.some.inj h).symm, fun z h => (nomatch h)⟩

end Blocks

section Rows

variable {α β : Type} {row front behind : List α} {a : α} {f : α → List β} {keep : β → Bool}

/-- What is kept of a row of blocks that are told one after the other, if only one has any of
it. -/
theorem filter_flatMap_one (hrow : row.Nodup) (ha : a ∈ row)
    (hother : ∀ b ∈ row, b ≠ a → ∀ x ∈ f b, keep x = false) :
    (row.flatMap f).filter keep = (f a).filter keep := by
  obtain ⟨front, behind, rfl⟩ := List.append_of_mem ha
  rw [List.nodup_append, List.nodup_cons] at hrow
  obtain ⟨-, ⟨hbehind, -⟩, hfront⟩ := hrow
  have hnone : ∀ part : List α, (∀ b ∈ part, b ∈ front ++ a :: behind ∧ b ≠ a) →
      (part.flatMap f).filter keep = [] := by
    intro part hpart
    refine List.filter_eq_nil_iff.2 fun x hx => ?_
    obtain ⟨b, hb, hx⟩ := List.mem_flatMap.1 hx
    obtain ⟨hmem, hne⟩ := hpart b hb
    simp [hother b hmem hne x hx]
  rw [List.flatMap_append, List.flatMap_cons, List.filter_append, List.filter_append,
    hnone front fun b hb => ⟨by simp [hb], hfront b hb a (by simp)⟩,
    hnone behind fun b hb => ⟨by simp [hb], fun h => hbehind (h ▸ hb)⟩, List.nil_append,
    List.append_nil]

end Rows

/-- The events about one package. -/
def blockOf (v : View) (root : Path) (names : List String) (id : UInt32) : List Event :=
  (lookAt v root names (zoneOf root names id) id).events

/-- The events about the packages of a listed directory, one package after the other. -/
def packageEvents (v : View) (root : Path) (names : List String) : List Event :=
  (packageIds names).flatMap (blockOf v root names)

section Packages

variable {v : View} {root z : Path} {names : List String} {id j : UInt32} {entry name : String}
  {x : Event} {e : Error} {n : UInt64} {packages : List UInt32} {rest : List Event}

/-- Every package that is looked at has an own entry, and the events of a zone there. -/
theorem exists_block (hlist : v.list root = .ok names) (hj : j ∈ packageIds names) :
    ∃ own, OwnEntry v root j own ∧ Block v root names (root.join own) j (blockOf v root names j) := by
  obtain ⟨own, hown⟩ := exists_ownEntry_of_mem hlist hj
  unfold blockOf
  rw [hown.zoneOf_eq hlist]
  exact ⟨own, hown, block v root names (root.join own) j⟩

/-- A package that can be read is told of behind the zones inside. -/
theorem OwnEntry.blockOf_of_readable (h : OwnEntry v root id entry)
    (hlist : v.list root = .ok names)
    (hname : Sensor.text v ((root.join entry).join "name") = .ok name)
    (hpackage : "package".toList <+: name.toList)
    (hn : Sensor.count v ((root.join entry).join "energy_uj") = .ok n) :
    blockOf v root names id =
      (innerZones v root names id (root.join entry)).flatMap (fun z => (examine v z).events) ++
        [.packageFound id name (root.join entry)] := by
  have hblock := block v root names (root.join entry) id
  rw [blockOf, h.zoneOf_eq hlist]
  generalize (lookAt v root names (root.join entry) id).events = events at hblock
  cases hblock with
  | skipped hnot => exact absurd hpackage (hnot name hname)
  | unreadable _ _ he => cases hn.symm.trans he
  | found hname' _ _ =>
    cases hname.symm.trans hname'
    rfl

/-- One that cannot be read is told of alone. -/
theorem OwnEntry.blockOf_of_unreadable (h : OwnEntry v root id entry)
    (hlist : v.list root = .ok names)
    (hname : Sensor.text v ((root.join entry).join "name") = .ok name)
    (hpackage : "package".toList <+: name.toList)
    (he : Sensor.count v ((root.join entry).join "energy_uj") = .error e) :
    blockOf v root names id = [.packageUnreadable (root.join entry) e] := by
  have hblock := block v root names (root.join entry) id
  rw [blockOf, h.zoneOf_eq hlist]
  generalize (lookAt v root names (root.join entry) id).events = events at hblock
  cases hblock with
  | skipped hnot => exact absurd hpackage (hnot name hname)
  | unreadable _ _ he' =>
    cases he.symm.trans he'
    rfl
  | found _ _ hn => cases he.symm.trans hn

/-- What is told of another package is not about this one's zone. -/
theorem packageZone?_of_other (hlist : v.list root = .ok names) (hj : j ∈ packageIds names)
    (hparse : ZoneName.parse? entry = some (.package id)) (hne : j ≠ id)
    (hx : x ∈ blockOf v root names j) : x.packageZone? ≠ some (root.join entry) := by
  intro hzone
  obtain ⟨own, hown, hblock⟩ := exists_block hlist hj
  have hsame := join_right_inj ((about_block hlist hblock hx).1 _ hzone)
  rw [hsame, hown.named.2] at hparse
  cases hparse
  exact hne rfl

/-- Nor is it about a candidate of this one. -/
theorem innerZone?_of_other (hlist : v.list root = .ok names) (hj : j ∈ packageIds names)
    (hparse : ZoneName.parse? entry = some (.package id)) (hne : j ≠ id)
    (hx : x ∈ blockOf v root names j) (hz : Candidate v root id (root.join entry) z) :
    x.innerZone? ≠ some z := by
  intro hinner
  obtain ⟨own, hown, hblock⟩ := exists_block hlist hj
  have hother := (about_block hlist hblock hx).2 z hinner
  exact hne (hother.package_unique hown.named.2 hz hparse)

/-- What is kept of the events is kept of those of one package, if it is about that one. -/
theorem filter_packageEvents {keep : Event → Bool} (hid : id ∈ packageIds names)
    (hother : ∀ j ∈ packageIds names, j ≠ id → ∀ x ∈ blockOf v root names j, keep x = false)
    (hrest : ∀ x ∈ rest, keep x = false) :
    (packageEvents v root names ++ rest).filter keep = (blockOf v root names id).filter keep := by
  have hnone : rest.filter keep = [] := by
    refine List.filter_eq_nil_iff.2 fun x hx => ?_
    simp [hrest x hx]
  rw [List.filter_append, hnone, List.append_nil]
  exact filter_flatMap_one (nodup_packageIds names) hid hother

/-- The records of a package are among its own events. -/
theorem OwnEntry.filter_records (h : OwnEntry v root id entry) (hlist : v.list root = .ok names)
    (hrest : ∀ x ∈ rest, x.packageZone? = none) :
    (packageEvents v root names ++ rest).filter
      (fun x => x.packageZone? = some (root.join entry)) =
        (blockOf v root names id).filter fun x => x.packageZone? = some (root.join entry) := by
  refine filter_packageEvents (h.mem_packageIds hlist) (fun j hj hne x hx => ?_) fun x hx => ?_
  · simpa using packageZone?_of_other hlist hj h.named.2 hne hx
  · simp [hrest x hx]

/-- The warnings about its candidates are among them as well. -/
theorem OwnEntry.filter_inner (h : OwnEntry v root id entry) (hlist : v.list root = .ok names)
    (hrest : ∀ x ∈ rest, x.innerZone? = none) {row : List Path}
    (hrow : SortedCandidates v root id (root.join entry) row) :
    (packageEvents v root names ++ rest).filter
      (fun x => x.severity = .warn ∧ ∃ z ∈ row, x.innerZone? = some z) =
        (blockOf v root names id).filter
          fun x => x.severity = .warn ∧ ∃ z ∈ row, x.innerZone? = some z := by
  refine filter_packageEvents (h.mem_packageIds hlist) (fun j hj hne x hx => ?_) fun x hx => ?_
  · simp only [decide_eq_false_iff_not, not_and, not_exists]
    intro _ z hz
    exact innerZone?_of_other hlist hj h.named.2 hne hx ((hrow.mem z).1 hz)
  · simp [hrest x hx]

/-- The warnings in examining zones are those of the lost ones. -/
theorem filter_losses (row : List Path) :
    (row.flatMap fun z => (examine v z).events).filter
      (fun x => x.severity = .warn ∧ ∃ z ∈ row, x.innerZone? = some z) =
        row.filterMap (loss? v) := by
  -- The condition is about the whole row, so the induction is on a part of it.
  have hpart : ∀ part, part ⊆ row → (part.flatMap fun z => (examine v z).events).filter
      (fun x => x.severity = .warn ∧ ∃ z ∈ row, x.innerZone? = some z) =
        part.filterMap (loss? v) := by
    intro part hpart
    induction part with
    | nil => rfl
    | cons z part ih =>
      obtain ⟨hz, hpart⟩ := List.cons_subset.1 hpart
      have hfirst : (examine v z).events.filter
          (fun x => x.severity = .warn ∧ ∃ z ∈ row, x.innerZone? = some z) =
            (loss? v z).toList := by
        rw [← losses_examine]
        refine List.filter_congr fun x hx => ?_
        have hinner : ∃ z ∈ row, x.innerZone? = some z := ⟨z, hz, (about_examine hx).1⟩
        simp [hinner]
      rw [List.flatMap_cons, List.filter_append, hfirst, ih hpart, List.filterMap_cons]
      cases loss? v z <;> rfl
  exact hpart row (List.Subset.refl row)

/-- A package that can be read is told of as found, once. -/
theorem record_of_readable {row : List Path} {zone : Path} :
    ((row.flatMap fun z => (examine v z).events) ++ [Event.packageFound id name zone]).filter
      (fun x => x.packageZone? = some zone) = [.packageFound id name zone] := by
  have hinner : (row.flatMap fun z => (examine v z).events).filter
      (fun x => x.packageZone? = some zone) = [] := by
    refine List.filter_eq_nil_iff.2 fun x hx => ?_
    obtain ⟨z, -, hx⟩ := List.mem_flatMap.1 hx
    simp [(about_examine hx).2]
  rw [List.filter_append, hinner]
  simp [Event.packageZone?]

/-- Its warnings are those of the lost zones inside. -/
theorem losses_of_readable {row : List Path} {zone : Path} :
    ((row.flatMap fun z => (examine v z).events) ++ [Event.packageFound id name zone]).filter
      (fun x => x.severity = .warn ∧ ∃ z ∈ row, x.innerZone? = some z) =
        row.filterMap (loss? v) := by
  rw [List.filter_append, filter_losses]
  simp [Event.severity]

/-- The events are cut at those of a package, and none behind is about its candidates. -/
theorem OwnEntry.cut (h : OwnEntry v root id entry) (hlist : v.list root = .ok names)
    (hrest : ∀ x ∈ rest, x.innerZone? = none) : ∃ before after,
      packageEvents v root names ++ rest = before ++ blockOf v root names id ++ after ∧
        ∀ x ∈ after, ∀ z, Candidate v root id (root.join entry) z → x.innerZone? ≠ some z := by
  obtain ⟨front, behind, hids⟩ := List.append_of_mem (h.mem_packageIds hlist)
  have hnodup := nodup_packageIds names
  rw [hids, List.nodup_append, List.nodup_cons] at hnodup
  refine ⟨front.flatMap (blockOf v root names), behind.flatMap (blockOf v root names) ++ rest,
    ?_, fun x hx z hz => ?_⟩
  · rw [packageEvents, hids, List.flatMap_append, List.flatMap_cons]
    simp only [List.append_assoc]
  · rcases List.mem_append.1 hx with hx | hx
    · obtain ⟨j, hj, hx⟩ := List.mem_flatMap.1 hx
      have hne : j ≠ id := fun hj' => hnodup.2.1.1 (hj' ▸ hj)
      have hmem : j ∈ packageIds names := by simp [hids, hj]
      exact innerZone?_of_other hlist hmem h.named.2 hne hx hz
    · simp [hrest x hx]

/-- A package that can be read is told of as found. -/
theorem told_of_readable (hl : v.ListsOnce) (hlist : v.list root = .ok names)
    (hrest : ∀ x ∈ rest, x.packageZone? = none ∧ x.innerZone? = none)
    (hown : OwnEntry v root id entry)
    (hname : Sensor.text v ((root.join entry).join "name") = .ok name)
    (hpackage : "package".toList <+: name.toList)
    (hn : Sensor.count v ((root.join entry).join "energy_uj") = .ok n) (hid : id ∈ packages) :
    Told v root id name (root.join entry) packages (packageEvents v root names ++ rest) := by
  have hrow : SortedCandidates v root id (root.join entry)
      (innerZones v root names id (root.join entry)) := sortedCandidates_innerZones hlist
  have hblock := hown.blockOf_of_readable hlist hname hpackage hn
  have hrecord := hown.filter_records hlist fun x hx => (hrest x hx).1
  rw [hblock, record_of_readable] at hrecord
  have hlosses := hown.filter_inner hlist (fun x hx => (hrest x hx).2) hrow
  rw [hblock, losses_of_readable] at hlosses
  obtain ⟨before, after, hevents, hbehind⟩ := hown.cut hlist fun x hx => (hrest x hx).2
  rw [hblock, ← List.append_assoc, List.append_assoc, List.singleton_append] at hevents
  exact .found hn hid hrecord hrow (nodup_innerZones hl hlist id _) hlosses hevents
    fun x hx z hz => hbehind x hx z ((hrow.mem z).1 hz)

/-- A package that cannot be read is told of as left out. -/
theorem told_of_unreadable (hlist : v.list root = .ok names)
    (hrest : ∀ x ∈ rest, x.packageZone? = none ∧ x.innerZone? = none)
    (hown : OwnEntry v root id entry)
    (hname : Sensor.text v ((root.join entry).join "name") = .ok name)
    (hpackage : "package".toList <+: name.toList)
    (he : Sensor.count v ((root.join entry).join "energy_uj") = .error e) (hid : id ∉ packages) :
    Told v root id name (root.join entry) packages (packageEvents v root names ++ rest) := by
  have hblock := hown.blockOf_of_unreadable hlist hname hpackage he
  have hrecord := hown.filter_records hlist fun x hx => (hrest x hx).1
  rw [hblock] at hrecord
  refine .unreadable he hid (hrecord.trans ?_) (fun x hx z hz => ?_)
    fun v' hv' => hv'.detect_eq hown hlist he
  · simp [Event.packageZone?]
  · rcases List.mem_append.1 hx with hx | hx
    · obtain ⟨j, hj, hx⟩ := List.mem_flatMap.1 hx
      by_cases hne : j = id
      · subst hne
        rw [hblock] at hx
        cases List.mem_singleton.1 hx
        simp [Event.innerZone?]
      · exact innerZone?_of_other hlist hj hown.named.2 hne hx hz
    · simp [(hrest x hx).2]

end Packages

section Detection

variable {v : View} {root : Path} {names : List String} {id : UInt32} {entry name : String}
  {x : Event} {packages : List UInt32} {rest : List Event} {found : Option CpuMeter}

/-- Every zone that calls itself a package is told of. -/
theorem told (hn : NamedOnce v root) (hl : v.ListsOnce) (hlist : v.list root = .ok names)
    (hrest : ∀ x ∈ rest, x.packageZone? = none ∧ x.innerZone? = none)
    (hpackages : ∀ id, id ∈ packages ↔ Usable v root id) (hentry : v.Lists root entry)
    (hparse : ZoneName.parse? entry = some (.package id))
    (hname : Sensor.text v ((root.join entry).join "name") = .ok name)
    (hpackage : "package".toList <+: name.toList) :
    Told v root id name (root.join entry) packages (packageEvents v root names ++ rest) := by
  have hown := hn.ownEntry hentry hparse
  cases hcount : Sensor.count v ((root.join entry).join "energy_uj") with
  | ok n =>
    have husable : UsableZone v (root.join entry) := ⟨⟨name, hname, hpackage⟩, n, hcount⟩
    have hid := (hpackages id).2 ⟨entry, hentry, hparse, husable⟩
    exact told_of_readable hl hlist hrest hown hname hpackage hcount hid
  | error e =>
    have hid : id ∉ packages := by
      intro hid
      obtain ⟨entry', hentry', hparse', husable⟩ := (hpackages id).1 hid
      rw [hn id entry' entry hentry' hentry hparse' hparse] at husable
      obtain ⟨n, hn⟩ := husable.counted
      cases hn.symm.trans hcount
    exact told_of_unreadable hlist hrest hown hname hpackage hcount hid

end Detection

end Rapl

end EnergyMeter
