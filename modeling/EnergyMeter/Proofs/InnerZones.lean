import EnergyMeter.Proofs.ByteOrder
import EnergyMeter.Proofs.PackageDetection
import Mathlib

/-!
# Which zones fill the slots of a package

The zones that may be inside a package stand beside its own zone or, where none does,
in its directory. Sorted by the bytes of their paths, the last one that stands for a
component and can be metered fills the slot of that component. Zones of other names and
zones that cannot be read change no slot, wherever in the row they stand; neither does
the order in which the directories are listed.
-/

namespace EnergyMeter

open Files

namespace Rapl

/-- The word by which a zone inside a package says what it covers. -/
def zoneWord? : Component → Option String
  | .whole => none
  | .cores => some "core"
  | .graphic => some "uncore"
  | .dram => some "dram"

/-- Whether a zone inside a package stands for a component and can be metered. -/
structure StandsFor (v : View) (c : Component) (zone : Path) : Prop where
  /-- The zone's name can be read and is the word of the component. -/
  named : ∃ word, zoneWord? c = some word ∧ Sensor.text v (zone.join "name") = .ok word
  /-- The zone's counter can be read. -/
  counted : ∃ n, Sensor.count v (zone.join "energy_uj") = .ok n

/-- The zones that may be inside a package whose own zone is `zone`. -/
inductive Candidate (v : View) (root : Path) (id : UInt32) (zone : Path) : Path → Prop where
  /-- Zones beside that of the package, named for it. -/
  | beside {entry : String} {k : UInt32} (h : v.Lists root entry)
      (hparse : ZoneName.parse? entry = some (.inner id k)) :
      Candidate v root id zone (root.join entry)
  /-- If there are none, the zones in the package's directory, whatever package they name. -/
  | nested {entry : String} {n k : UInt32}
      (hnone : ∀ other j, v.Lists root other → ZoneName.parse? other ≠ some (.inner id j))
      (h : v.Lists zone entry) (hparse : ZoneName.parse? entry = some (.inner n k)) :
      Candidate v root id zone (zone.join entry)

/-- The candidates of a package, sorted by the bytes of their paths. -/
structure SortedCandidates (v : View) (root : Path) (id : UInt32) (zone : Path)
    (row : List Path) : Prop where
  /-- The row holds the candidates. -/
  mem : ∀ z, z ∈ row ↔ Candidate v root id zone z
  /-- The row is sorted. -/
  sorted : row.Pairwise fun a b => a.bytes ≤ b.bytes

/-- What a slot holds: the last zone of a row that stands for the component, if there is one,
at the value of its counter. -/
structure HoldsLast (v : View) (c : Component) (row : List Path) (slot : Option Gauge) :
    Prop where
  /-- The slot is filled if some zone of the row stands for the component. -/
  present : slot.isSome ↔ ∃ z ∈ row, StandsFor v c z
  /-- Its gauge is that of the last such zone. -/
  last : ∀ g, slot = some g → ∃ before z after n, row = before ++ z :: after ∧ StandsFor v c z ∧
    (∀ later ∈ after, ¬ StandsFor v c later) ∧
    Sensor.count v (z.join "energy_uj") = .ok n ∧ g = gaugeAt v z n

section Zones

variable {v : View} {root zone : Path} {names : List String} {id : UInt32} {c : Component}
  {g : Gauge}

/-- A name stands for the component whose word it is. -/
theorem componentOf?_eq_some {name : String} :
    componentOf? name = some c ↔ zoneWord? c = some name := by
  constructor
  · unfold componentOf?
    intro h
    split_ifs at h with hcore huncore hdram <;> cases h
    · rw [hcore]
      rfl
    · rw [huncore]
      rfl
    · rw [hdram]
      rfl
  · cases c <;> rintro ⟨⟩ <;> rfl

/-- Examining a zone gives the gauge that it starts for the component that it stands for. -/
theorem gauge?_examine : (examine v zone).gauge? = some (c, g) ↔
    StandsFor v c zone ∧ startZone v zone = .ok g := by
  unfold examine
  constructor
  · intro h
    split at h
    · cases h
    · rename_i name hname
      split at h
      · cases h
      · rename_i d hd
        split at h
        · rename_i g' hstart
          cases h
          obtain ⟨n, hn, -⟩ := startZone_eq_ok.1 hstart
          exact ⟨⟨⟨name, componentOf?_eq_some.1 hd, hname⟩, n, hn⟩, hstart⟩
        · cases h
  · rintro ⟨⟨⟨word, hword, hname⟩, -⟩, hstart⟩
    simp only [hname, componentOf?_eq_some.2 hword, hstart]

/-- The gauge that a zone gives for a component. -/
def gaugeFor? (v : View) (c : Component) (zone : Path) : Option Gauge :=
  ((examine v zone).gauge?.filter (·.1 = c)).map (·.2)

/-- A zone gives a gauge for the component that it stands for. -/
theorem gaugeFor?_eq_some : gaugeFor? v c zone = some g ↔
    StandsFor v c zone ∧ ∃ n, Sensor.count v (zone.join "energy_uj") = .ok n ∧
      g = gaugeAt v zone n := by
  rw [← startZone_eq_ok, ← gauge?_examine]
  unfold gaugeFor?
  cases (examine v zone).gauge? with
  | none => simp
  | some x =>
    obtain ⟨d, g'⟩ := x
    by_cases hd : d = c
    · simp [hd]
    · simp [hd]

/-- It gives none for any other component. -/
theorem gaugeFor?_eq_none : gaugeFor? v c zone = none ↔ ¬ StandsFor v c zone := by
  rw [Option.eq_none_iff_forall_ne_some]
  constructor
  · intro h hstands
    obtain ⟨n, hn⟩ := hstands.counted
    exact h _ (gaugeFor?_eq_some.2 ⟨hstands, n, hn, rfl⟩)
  · intro h g hg
    exact h (gaugeFor?_eq_some.1 hg).1

/-- The last gauge of a component is the last one that a zone of the row gives for it. -/
theorem lastOf_examine (row : List Path) :
    lastOf c (row.map (examine v)) = (row.filterMap (gaugeFor? v c)).getLast? := by
  have hgauges : (((row.map (examine v)).filterMap (·.gauge?)).filter (·.1 = c)).map (·.2) =
      row.filterMap (gaugeFor? v c) := by
    induction row with
    | nil => rfl
    | cons z rest ih =>
      rw [List.map_cons, List.filterMap_cons, List.filterMap_cons, ← ih]
      unfold gaugeFor?
      cases (examine v z).gauge? with
      | none => rfl
      | some x =>
        by_cases hx : x.1 = c
        · simp [Option.filter, hx]
        · simp [Option.filter, hx]
  rw [← hgauges, List.getLast?_map]
  rfl

/-- The last gauge of a component is that of the last zone that stands for it. -/
theorem holdsLast (row : List Path) : HoldsLast v c row (lastOf c (row.map (examine v))) := by
  rw [lastOf_examine, List.getLast?_filterMap]
  constructor
  · rw [List.findSome?_isSome_iff]
    refine exists_congr fun z => and_congr List.mem_reverse ?_
    rw [← not_iff_not, ← gaugeFor?_eq_none, Option.not_isSome_iff_eq_none]
  · intro g hg
    obtain ⟨after, z, before, hrow, hz, hafter⟩ := List.findSome?_eq_some_iff.1 hg
    obtain ⟨hstands, n, hn, hgauge⟩ := gaugeFor?_eq_some.1 hz
    refine ⟨before.reverse, z, after.reverse, n, ?_, hstands, ?_, hn, hgauge⟩
    · rw [← List.reverse_reverse row, hrow]
      simp
    · intro later hlater
      exact gaugeFor?_eq_none.1 (hafter later (List.mem_reverse.1 hlater))

/-- In a sorted row, the last zone that stands for a component has the largest path. -/
theorem le_last {row before after : List Path} {z z' : Path}
    (hsorted : row.Pairwise fun a b => a.bytes ≤ b.bytes) (hrow : row = before ++ z :: after)
    (hafter : ∀ later ∈ after, ¬ StandsFor v c later) (hz' : z' ∈ row)
    (hstands : StandsFor v c z') : z'.bytes ≤ z.bytes := by
  rw [hrow] at hsorted hz'
  rcases List.mem_append.1 hz' with hbefore | hbehind
  · exact (List.pairwise_append.1 hsorted).2.2 z' hbefore z List.mem_cons_self
  · rcases List.mem_cons.1 hbehind with rfl | hlater
    · exact List.le_refl _
    · exact absurd hstands (hafter z' hlater)

/-- A name is that of a zone inside a package if it is read so. -/
theorem isInsideOf_eq_true {name : String} : ZoneName.isInsideOf id name = true ↔
    ∃ k, ZoneName.parse? name = some (.inner id k) := by
  unfold ZoneName.isInsideOf
  split
  · rename_i n k h
    simp [h]
  · rename_i h
    simpa using fun k => h id k

/-- The same for a zone inside any package. -/
theorem isInside_eq_true {name : String} : ZoneName.isInside name = true ↔
    ∃ n k, ZoneName.parse? name = some (.inner n k) := by
  unfold ZoneName.isInside
  split
  · rename_i n k h
    simp [h]
  · rename_i h
    simpa using h

/-- The paths of a directory's entries, sorted by name, are sorted by their bytes. -/
theorem sorted_paths (directory : Path) (names : List String) :
    ((names.mergeSort nameLe).map directory.join).Pairwise fun a b => a.bytes ≤ b.bytes := by
  rw [List.pairwise_map]
  refine (List.pairwise_mergeSort nameLe_trans nameLe_total names).imp ?_
  intro a b h
  exact bytes_join_le_iff.2 h

/-- The zones that are examined are the candidates, sorted. -/
theorem sortedCandidates_innerZones (h : v.list root = .ok names) :
    SortedCandidates v root id zone (innerZones v root names id zone) := by
  have hlists : ∀ {entry}, v.Lists root entry ↔ entry ∈ names := by
    intro entry
    constructor
    · rintro ⟨names', hlist, hmem⟩
      cases h.symm.trans hlist
      exact hmem
    · exact fun hmem => ⟨names, h, hmem⟩
  unfold innerZones
  by_cases hbeside : (names.filter (ZoneName.isInsideOf id)).isEmpty
  · have hnone : ∀ other j, v.Lists root other → ZoneName.parse? other ≠ some (.inner id j) := by
      intro other j hother hparse
      have hmem := List.mem_filter.2 ⟨hlists.1 hother, isInsideOf_eq_true.2 ⟨j, hparse⟩⟩
      rw [List.isEmpty_iff.1 hbeside] at hmem
      cases hmem
    rw [if_pos hbeside]
    cases hnested : v.list zone with
    | error fault =>
      refine ⟨fun z => ⟨fun hz => (List.not_mem_nil hz).elim, ?_⟩, .nil⟩
      rintro (⟨hentry, hparse⟩ | ⟨-, ⟨_, hlist, -⟩, -⟩)
      · exact absurd hparse (hnone _ _ hentry)
      · cases hnested.symm.trans hlist
    | ok nested =>
      refine ⟨fun z => ?_, sorted_paths zone _⟩
      simp only [List.mem_map, List.mem_mergeSort, List.mem_filter, isInside_eq_true]
      constructor
      · rintro ⟨entry, ⟨hmem, n, k, hparse⟩, rfl⟩
        exact .nested hnone ⟨nested, hnested, hmem⟩ hparse
      · rintro (⟨hentry, hparse⟩ | ⟨-, ⟨nested', hlist, hmem⟩, hparse⟩)
        · exact absurd hparse (hnone _ _ hentry)
        · cases hnested.symm.trans hlist
          exact ⟨_, ⟨hmem, _, _, hparse⟩, rfl⟩
  · rw [if_neg hbeside]
    refine ⟨fun z => ?_, sorted_paths root _⟩
    simp only [List.mem_map, List.mem_mergeSort, List.mem_filter, isInsideOf_eq_true]
    constructor
    · rintro ⟨entry, ⟨hmem, k, hparse⟩, rfl⟩
      exact .beside (hlists.2 hmem) hparse
    · rintro (⟨hentry, hparse⟩ | ⟨hnone, -, -⟩)
      · exact ⟨_, ⟨hlists.1 hentry, _, hparse⟩, rfl⟩
      · obtain ⟨other, hother⟩ := List.exists_mem_of_ne_nil _ (List.isEmpty_iff.not.1 hbeside)
        obtain ⟨hmem, hinside⟩ := List.mem_filter.1 hother
        obtain ⟨j, hparse⟩ := isInsideOf_eq_true.1 hinside
        exact absurd hparse (hnone other j (hlists.2 hmem))

end Zones

section Slots

variable {v : View} {root : Path} {names : List String} {id : UInt32} {c : Component}
  {entry : String} {m : CpuMeter}

/-- The slots of a package, that of its whole apart, hold what was found inside it. -/
theorem gauge?_eq_lastOf (h : v.list root = .ok names) (hg : m.gauges = gaugesFound v root names)
    (hown : OwnEntry v root id entry) (husable : UsableZone v (root.join entry))
    (hc : c ≠ .whole) : m.gauge? ⟨id, c⟩ =
      lastOf c ((innerZones v root names id (root.join entry)).map (examine v)) := by
  obtain ⟨n, hn⟩ := husable.counted
  refine Option.ext fun g => ?_
  rw [CpuMeter.gauge?_eq_some, hg, mem_gaugesFound_iff h]
  simp only [if_neg hc]
  constructor
  · rintro ⟨other, _, hother, -, -, hlast⟩
    cases hown.unique hother
    exact hlast
  · exact fun hlast => ⟨entry, n, hown, husable, hn, hlast⟩

/-- The slots of a found package hold the last candidates, in the order of their bytes. -/
theorem exists_sortedCandidates (hm : (CpuMeter.detect v root).value = .ok (some m))
    (hid : id ∈ m.packages) : ∃ entry row, OwnEntry v root id entry ∧
      SortedCandidates v root id (root.join entry) row ∧
      ∀ c, c ≠ .whole → HoldsLast v c row (m.gauge? ⟨id, c⟩) := by
  have hd := hm ▸ detected v root
  cases hd with
  | @meter names _ h hg hne =>
    obtain ⟨g, hwhole⟩ := (mem_packages_iff hg).1 hid
    obtain ⟨entry, n, hown, husable, -⟩ := (mem_gaugesFound_iff h).1 hwhole
    refine ⟨entry, _, hown, sortedCandidates_innerZones h, fun c hc => ?_⟩
    rw [gauge?_eq_lastOf h hg hown husable hc]
    exact holdsLast _

end Slots

/-- The slots of every package that is found, in whatever order the directories are
listed: each component's slot holds the last candidate that stands for it, and is empty
if there is none. All packages have a component if each has a candidate that stands for
it. -/
theorem detect_fills_slots {v : View} {root : Path} {m : CpuMeter}
    (hm : (CpuMeter.detect v root).value = .ok (some m)) :
    (∀ id ∈ m.packages, ∃ entry row, OwnEntry v root id entry ∧
      SortedCandidates v root id (root.join entry) row ∧
      ∀ c, c ≠ .whole → HoldsLast v c row (m.gauge? ⟨id, c⟩)) ∧
    ∀ c, c ≠ .whole → (m.has c = true ↔ ∀ id ∈ m.packages, ∃ entry z, OwnEntry v root id entry ∧
      Candidate v root id (root.join entry) z ∧ StandsFor v c z) := by
  refine ⟨fun id hid => exists_sortedCandidates hm hid, fun c hc => ?_⟩
  rw [CpuMeter.has, List.all_eq_true]
  refine forall₂_congr fun id hid => ?_
  obtain ⟨entry, row, hown, hrow, hholds⟩ := exists_sortedCandidates hm hid
  rw [(hholds c hc).present]
  constructor
  · rintro ⟨z, hz, hstands⟩
    exact ⟨entry, z, hown, (hrow.mem z).1 hz, hstands⟩
  · rintro ⟨other, z, hother, hz, hstands⟩
    cases hown.unique hother
    exact ⟨z, (hrow.mem z).2 hz, hstands⟩

/-- The entries of a package with three zones inside, as they may be listed. -/
def crowdedNames : List String :=
  ["intel-rapl:0:3", "intel-rapl:0:2", "intel-rapl:0", "intel-rapl:0:10"]

/-- A package with three zones inside for the cores; the counter of one holds no number. -/
def crowdedZones : View :=
  .listing ⟨"zones"⟩ crowdedNames
    [("zones/intel-rapl:0/name", "package-0"), ("zones/intel-rapl:0/energy_uj", "1"),
      ("zones/intel-rapl:0:10/name", "core"), ("zones/intel-rapl:0:10/energy_uj", "5"),
      ("zones/intel-rapl:0:2/name", "core"), ("zones/intel-rapl:0:2/energy_uj", "7"),
      ("zones/intel-rapl:0:3/name", "core"), ("zones/intel-rapl:0:3/energy_uj", "none")]

/-- The slot of the cores is filled from the second zone: the tenth comes before it by its
bytes, and the third, which cannot be read, changes nothing. -/
theorem detect_fills_slots_of_crowded :
    ∃ m g, (CpuMeter.detect crowdedZones ⟨"zones"⟩).value = .ok (some m) ∧
      m.gauge? ⟨0, .cores⟩ = some g ∧ g.last = 7 := by
  have hlists : ∀ {entry}, crowdedZones.Lists ⟨"zones"⟩ entry ↔ entry ∈ crowdedNames :=
    ⟨fun ⟨_, hlist, hmem⟩ => Except.ok.inj hlist ▸ hmem, fun hmem => ⟨_, rfl, hmem⟩⟩
  have hone : ∀ a ∈ crowdedNames, ∀ b ∈ crowdedNames,
      ZoneName.parse? a = ZoneName.parse? b → a = b := by decide +kernel
  have hv : NamedOnce crowdedZones ⟨"zones"⟩ := fun id a b ha hb hpa hpb =>
    hone a (hlists.1 ha) b (hlists.1 hb) (hpa.trans hpb.symm)
  have hmem : "intel-rapl:0" ∈ crowdedNames ∧ "intel-rapl:0:2" ∈ crowdedNames := by decide
  have husable : Usable crowdedZones ⟨"zones"⟩ 0 :=
    ⟨"intel-rapl:0", hlists.2 hmem.1, by decide, ⟨"package-0", rfl, by decide⟩, 1, rfl⟩
  obtain ⟨m, hm, hid⟩ := (found_iff_usable hv).2 husable
  obtain ⟨hslots, -⟩ := detect_fills_slots hm
  obtain ⟨entry, row, hown, hrow, hholds⟩ := hslots 0 hid
  have hcores : Component.cores ≠ .whole := by decide
  have hsecond : Candidate crowdedZones ⟨"zones"⟩ 0 (Path.join ⟨"zones"⟩ entry)
      (Path.join ⟨"zones"⟩ "intel-rapl:0:2") := .beside (hlists.2 hmem.2) (k := 2) (by decide)
  have hstands : StandsFor crowdedZones .cores (Path.join ⟨"zones"⟩ "intel-rapl:0:2") :=
    ⟨⟨"core", rfl, rfl⟩, 7, rfl⟩
  have hin := (hrow.mem _).2 hsecond
  obtain ⟨g, hg⟩ := Option.isSome_iff_exists.1 ((hholds _ hcores).present.2 ⟨_, hin, hstands⟩)
  obtain ⟨before, z, after, n, hsplit, hz, hafter, hn, rfl⟩ := (hholds _ hcores).last g hg
  have hle := le_last hrow.sorted hsplit hafter hin hstands
  have hlast : z = Path.join ⟨"zones"⟩ "intel-rapl:0:2" := by
    rcases (hrow.mem z).1 (hsplit ▸ List.mem_append_right _ List.mem_cons_self) with
      @⟨name, k, hname, hparse⟩ | ⟨hnone, -, -⟩
    · have hname' : name = "intel-rapl:0:3" ∨ name = "intel-rapl:0:2" ∨ name = "intel-rapl:0" ∨
          name = "intel-rapl:0:10" := by simpa [crowdedNames] using hlists.1 hname
      rcases hname' with rfl | rfl | rfl | rfl
      · cases hn
      · rfl
      · cases hparse
      · exact absurd hle (by decide)
    · exact absurd (by decide) (hnone "intel-rapl:0:2" 2 (hlists.2 hmem.2))
  subst hlast
  cases hn
  exact ⟨m, _, hm, hg, rfl⟩

end Rapl

end EnergyMeter
