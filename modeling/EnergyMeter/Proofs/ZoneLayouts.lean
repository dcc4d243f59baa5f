import EnergyMeter.Proofs.NestedZones

/-!
# One meter for both places of zones

Over a tree with the zones of packages beside those packages, and over the tree in which the zones
of some of them were moved into their directories, the meters that are found are twins: the same
packages and components, filled from the same zones, with the same values to start from. While
the trees change alike, twins answer every read and every reset alike.

Two things set the trees apart. The path of the directory of zones must not lead through a zone
that is moved, and in its new place a zone's file must not have a path that is too long.
-/

namespace EnergyMeter.Rapl

open Files Text

/-- A call at a moment: the files with zones beside their packages, those with the zones moved,
and what both meters are asked. -/
structure TreeMoment where
  /-- The files of the one meter. -/
  before : Tree
  /-- The files of its twin. -/
  after : Tree
  /-- What both are asked. -/
  call : CpuCall

section Layouts

variable {k : ZoneMove} {zones : List String} {place : Location} {t u : Tree}
  {gauges gauges' : List (Slot × Gauge)} {m m' : CpuMeter}

/-- Twin rows have twin gauges in each slot. -/
theorem TwinRows.lookup (h : TwinRows k zones gauges gauges') (s : Slot) :
    Option.Rel (TwinGauge k zones) (gauges.lookup s) (gauges'.lookup s) := by
  induction h with
  | nil => exact .none
  | @cons x x' rest rest' hx _ ih =>
    obtain ⟨slot, g⟩ := x
    obtain ⟨slot', g'⟩ := x'
    obtain ⟨rfl, htwin⟩ := hx
    rw [List.lookup_cons, List.lookup_cons]
    cases s == slot' with
    | true => exact .some htwin
    | false => exact ih

/-- Twin meters have the same components. -/
theorem TwinMeters.has (h : TwinMeters k zones m m') (c : Component) : m'.has c = m.has c := by
  unfold CpuMeter.has
  rw [h.packages]
  refine congrArg _ (funext fun id => ?_)
  have hgauge := TwinRows.lookup h ⟨id, c⟩
  unfold CpuMeter.gauge?
  generalize m.gauges.lookup ⟨id, c⟩ = g at hgauge ⊢
  generalize m'.gauges.lookup ⟨id, c⟩ = g' at hgauge ⊢
  cases hgauge <;> rfl

/-- What is found before and after the move are twin meters, or none, or the same error. -/
theorem SameZones.detect_alike (h : SameZones k place t u)
    (hhomes : ∀ id package, k.home id = some package →
      package ∈ t.names place ∧ ZoneName.parse? package = some (.package id))
    (honce : NamedOnce t.view k.root) (hshort : k.Short (zonesOf (t.names place))) :
    TwinDetections k (zonesOf (t.names place)) (CpuMeter.detect t.view k.root).value
      (CpuMeter.detect u.view k.root).value := by
  have hk : k.Proper := fun id package hid => (hhomes id package hid).2
  have hplace : u.find? place = t.find? place := by
    have htarget : ¬ k.Target place place := not_target_place
    have hstays : k.moveTo place place = place :=
      moveTo_of_stays fun zone rest hl => by simpa using congrArg List.length hl
    rw [h.moved.find, h.flat.find?_nest_of_stays hk htarget hstays]
  rcases Tree.list_alike (h.locate_eq hk) h.flat.leads hplace with
    ⟨fault, hlist, hlist'⟩ | ⟨hfound, hlist, hlist'⟩
  · have hfails : ∀ w : Tree, w.list k.root = .error fault →
        (CpuMeter.detect w.view k.root).value =
          if fault = .notFound then .ok none else .error (.io fault) := by
      intro w hw
      have hview : w.view.list k.root = .error fault := hw
      unfold CpuMeter.detect
      rw [hview]
      cases fault <;> rfl
    rw [hfails t hlist, hfails u hlist']
    split
    · exact .none
    · exact .error _
  · exact (h.showsMoved hhomes hshort hfound hlist hlist').detect_alike honce

/-- While two trees hold the same zones, twin meters over them answer alike and stay twins. -/
theorem TwinMeters.runTrees (h : TwinMeters k zones m m') (hk : k.Proper)
    (htext : k.root.text ≠ "") (hzones : ∀ z ∈ zones, (ZoneName.parse? z).isSome)
    (hshort : k.Short zones) {moments : List TreeMoment}
    (hmoments : ∀ x ∈ moments, SameZones k place x.before x.after) :
    let run := EnergyMeter.runCalls CpuCall.perform m
      (moments.map fun x => (x.before.view, x.call))
    let run' := EnergyMeter.runCalls CpuCall.perform m'
      (moments.map fun x => (x.after.view, x.call))
    List.Forall₂ (TwinAnswer k zones) run.1 run'.1 ∧ TwinMeters k zones run.2 run'.2 := by
  have hviews : ∀ x ∈ moments.map fun x => (⟨x.before.view, x.after.view, x.call⟩ : TwinMoment),
      ReadAlike k zones x.before x.after := by
    intro x hx
    obtain ⟨y, hy, rfl⟩ := List.mem_map.1 hx
    exact (hmoments y hy).reads_alike hk htext hzones hshort
  have hrun := TwinMeters.runCalls hviews h
  rw [List.map_map, List.map_map] at hrun
  exact hrun

end Layouts

/-- Zones beside their packages and zones in their packages' directories are metered alike. In a
tree whose zones stand beside their packages, each named by one entry, let the zones of any
packages be moved into their packages' directories, none of their files getting too long a path.
What is found in either tree is the same error, or no meter, or meters of the same packages with
the same components, gauge for gauge over the same zone and equal but for its place. From then
on, for as long as the trees hold the same zones, the meters give the same answers to any calls,
or fail at the same gauge for the same reason. What changes a file in the one tree changes it in the
other where it then stands. -/
theorem layouts_metered_alike {t u : Tree} {root : Path} {place : Location}
    {chosen : UInt32 → Bool} (hsame : SameZones (.ofPackages root (t.names place) chosen) place t u)
    (honce : NamedOnce t.view root)
    (hshort : (ZoneMove.ofPackages root (t.names place) chosen).Short (zonesOf (t.names place))) :
    let k := ZoneMove.ofPackages root (t.names place) chosen
    let zones := zonesOf (t.names place)
    TwinDetections k zones (CpuMeter.detect t.view root).value (CpuMeter.detect u.view root).value ∧
    k.ChangesAlike place ∧ ∀ m m', (CpuMeter.detect t.view root).value = .ok (some m) →
      (CpuMeter.detect u.view root).value = .ok (some m') →
      m'.packages = m.packages ∧ (∀ c, m'.has c = m.has c) ∧
      (∀ s, Option.Rel (TwinGauge k zones) (m.gauge? s) (m'.gauge? s)) ∧
      ∀ moments : List TreeMoment, (∀ x ∈ moments, SameZones k place x.before x.after) →
        let run := runCalls CpuCall.perform m (moments.map fun x => (x.before.view, x.call))
        let run' := runCalls CpuCall.perform m' (moments.map fun x => (x.after.view, x.call))
        List.Forall₂ (TwinAnswer k zones) run.1 run'.1 ∧ TwinMeters k zones run.2 run'.2 := by
  intro k zones
  have hdetect := hsame.detect_alike (fun _ _ h => home_ofPackages h) honce hshort
  refine ⟨hdetect, changesAlike (proper_ofPackages root _ chosen) place, fun m m' hm hm' => ?_⟩
  have htwins : TwinMeters k zones m m' := by
    change TwinDetections k zones (CpuMeter.detect t.view root).value
      (CpuMeter.detect u.view root).value at hdetect
    rw [hm, hm'] at hdetect
    cases hdetect with
    | meters h => exact h
  have htext : root.text ≠ "" := by
    have hdetected := detected t.view root
    rw [hm] at hdetected
    cases hdetected with
    | meter hlist _ _ =>
      intro hempty
      have hlist : t.list root = .ok _ := hlist
      rw [Tree.list, Tree.open?, Tree.locate, hempty] at hlist
      simp at hlist
  exact ⟨htwins.packages, htwins.has, TwinRows.lookup htwins, fun moments hmoments =>
    htwins.runTrees (proper_ofPackages root _ chosen) htext
      (fun z hz => (List.mem_filter.1 hz).2) hshort hmoments⟩

/-- A package with a zone for its cores beside it, whose counter shows a text. -/
def coresBeside (counter : String) : Tree :=
  ⟨[(["zones"], .directory .newDirectory),
    (["zones", "intel-rapl:0"], .directory .newDirectory),
    (["zones", "intel-rapl:0", "name"], .file .newFile "package-0".toUTF8),
    (["zones", "intel-rapl:0", "energy_uj"], .file .newFile "1".toUTF8),
    (["zones", "intel-rapl:0:0"], .directory .newDirectory),
    (["zones", "intel-rapl:0:0", "name"], .file .newFile "core".toUTF8),
    (["zones", "intel-rapl:0:0", "energy_uj"], .file .newFile counter.toUTF8)]⟩

/-- The zones of the package, to be moved into its directory. -/
def coresMove (root : Path) : ZoneMove :=
  .ofPackages root ["intel-rapl:0", "intel-rapl:0:0"] fun _ => true

section Cores

variable {root : Path} {counter : String}

/-- The only package there is the first one. -/
theorem home_coresMove {id : UInt32} {package : String}
    (h : (coresMove root).home id = some package) : id = 0 ∧ package = "intel-rapl:0" := by
  obtain ⟨hname, hparse⟩ := home_ofPackages h
  have hpackage : ZoneName.parse? "intel-rapl:0" = some (.package 0) := by decide
  have hinner : ZoneName.parse? "intel-rapl:0:0" = some (.inner 0 0) := by decide
  rcases List.mem_pair.1 hname with rfl | rfl
  · cases hpackage.symm.trans hparse
    exact ⟨rfl, rfl⟩
  · cases hinner.symm.trans hparse

/-- Its zones stand beside it. -/
theorem flatLayout_coresBeside
    (h : (coresBeside counter).locate true root = .ok (.present ["zones"])) :
    FlatLayout (coresMove root) ["zones"] (coresBeside counter) := by
  constructor
  case leads =>
    intro l hl
    have hsame := h.symm.trans hl
    cases hsame
    rfl
  case homes =>
    intro _ id package hid
    obtain ⟨rfl, rfl⟩ := home_coresMove hid
    exact ⟨by decide, .newDirectory, rfl, rfl, rfl⟩
  case flat =>
    intro x hx package id zone rest hl hparse
    simp only [coresBeside, List.mem_cons, List.not_mem_nil, or_false] at hx
    rcases hx with rfl | rfl | rfl | rfl | rfl | rfl | rfl <;> cases hl <;> decide
  case linkless =>
    intro x hx zone rest hl hz target
    simp only [coresBeside, List.mem_cons, List.not_mem_nil, or_false] at hx
    rcases hx with rfl | rfl | rfl | rfl | rfl | rfl | rfl <;> simp

/-- The files of the zones can be read where the path of zones is not too long. -/
theorem read_coresBeside (h : (coresBeside counter).locate true root = .ok (.present ["zones"]))
    (hshort : root.text.utf8ByteSize + 25 < pathLimit) (z file : String) {content : ByteArray}
    (hz : z ∈ ["intel-rapl:0", "intel-rapl:0:0"]) (hfile : file ∈ ["name", "energy_uj"])
    (hlook : Tree.lookUp (fun rest => (coresBeside counter).find? (["zones"] ++ rest)) [z, file] =
      .ok (.file .newFile content)) :
    (coresBeside counter).view.read ((root.join z).join file) = .ok content := by
  have hbelow : root.below [z, file] = (root.join z).join file := rfl
  have hzone : z.utf8ByteSize ≤ 14 ∧ (ZoneName.parse? z).isSome := by
    rcases List.mem_pair.1 hz with rfl | rfl <;> decide
  have hlast : file.utf8ByteSize ≤ 9 ∧ file ∈ zoneFiles := by
    rcases List.mem_pair.1 hfile with rfl | rfl <;> decide
  have hnames : root.Takes [z, file] := by
    have hsize := (Path.size_join root z).2
    have hsize' := (Path.size_join (root.join z) file).2
    refine ⟨List.cons_ne_nil _ _, ?_, ?_⟩
    · simp [ZoneName.plainName hzone.2, (plainName_of_zoneFile hlast.2).1]
    · rw [hbelow]
      omega
  have hlinks : (coresBeside counter).Linkless ["zones"] [z, file] :=
    (flatLayout_coresBeside h).linkless_before hzone.2
  have hread : (coresBeside counter).read (root.below [z, file]) = .ok content :=
    Tree.read_below h hnames hlinks hlook rfl
  exact hread

/-- The zones are listed, and no package is named twice. -/
theorem lists_coresBeside (h : (coresBeside counter).locate true root = .ok (.present ["zones"])) :
    NamedOnce (coresBeside counter).view root ∧ ∀ name ∈ ["intel-rapl:0", "intel-rapl:0:0"],
      (coresBeside counter).view.Lists root name := by
  have hlist : (coresBeside counter).view.list root = .ok ["intel-rapl:0", "intel-rapl:0:0"] := by
    have hlocated := Tree.list_of_locate h
    exact hlocated
  have hone : ∀ a ∈ ["intel-rapl:0", "intel-rapl:0:0"], ∀ b ∈ ["intel-rapl:0", "intel-rapl:0:0"],
      ZoneName.parse? a = ZoneName.parse? b → a = b := by decide
  refine ⟨fun id a b ha hb hpa hpb => ?_, fun name hname => ⟨_, hlist, hname⟩⟩
  obtain ⟨names, hnames, ha⟩ := ha
  obtain ⟨names', hnames', hb⟩ := hb
  cases hlist.symm.trans hnames
  cases hlist.symm.trans hnames'
  exact hone a ha b hb (hpa.trans hpb.symm)

/-- The package can be metered. -/
theorem usable_coresBeside (h : (coresBeside counter).locate true root = .ok (.present ["zones"]))
    (hshort : root.text.utf8ByteSize + 25 < pathLimit) :
    UsableZone (coresBeside counter).view (root.join "intel-rapl:0") := by
  have hname := read_coresBeside h hshort "intel-rapl:0" "name" (by simp) (by simp) rfl
  have hcount := read_coresBeside h hshort "intel-rapl:0" "energy_uj" (by simp) (by simp) rfl
  constructor
  · refine ⟨"package-0", ?_, by decide⟩
    rw [Sensor.text, View.text, hname]
    rfl
  · refine ⟨1, ?_⟩
    rw [Sensor.count, Sensor.text, View.text, hcount]
    rfl

/-- So can its cores. -/
theorem detect_coresBeside (h : (coresBeside "5").locate true root = .ok (.present ["zones"]))
    (hshort : root.text.utf8ByteSize + 25 < pathLimit) :
    ∃ m, (CpuMeter.detect (coresBeside "5").view root).value = .ok (some m) ∧
      (m.gauge? ⟨0, .cores⟩).isSome := by
  obtain ⟨honce, hlists⟩ := lists_coresBeside h
  have hstands : StandsFor (coresBeside "5").view .cores (root.join "intel-rapl:0:0") := by
    have hname := read_coresBeside h hshort "intel-rapl:0:0" "name" (by simp) (by simp) rfl
    have hcount := read_coresBeside h hshort "intel-rapl:0:0" "energy_uj" (by simp) (by simp)
      rfl
    constructor
    · refine ⟨"core", rfl, ?_⟩
      rw [Sensor.text, View.text, hname]
      rfl
    · refine ⟨5, ?_⟩
      rw [Sensor.count, Sensor.text, View.text, hcount]
      rfl
  have husable : Usable (coresBeside "5").view root 0 :=
    ⟨"intel-rapl:0", hlists _ (by simp), by decide, usable_coresBeside h hshort⟩
  obtain ⟨m, hm, hid⟩ := (found_iff_usable honce).2 husable
  obtain ⟨entry, row, hown, hrow, hholds⟩ := exists_sortedCandidates hm hid
  have hcandidate : Candidate (coresBeside "5").view root 0 (root.join entry)
      (root.join "intel-rapl:0:0") :=
    .beside (hlists "intel-rapl:0:0" (by simp)) (k := 0) (by decide)
  exact ⟨m, hm, (hholds .cores (by decide)).present.2
    ⟨_, (hrow.mem _).2 hcandidate, hstands⟩⟩

end Cores

/-- The directory of zones is found by its name, also without the zone of the cores. -/
theorem found_zones (counter : String) :
    (coresBeside counter).locate true ⟨"zones"⟩ = .ok (.present ["zones"]) ∧
      (coresMove ⟨"zones"⟩).RootApart ["zones"] (coresBeside counter) := by
  have hlocate : ∀ {t : Tree}, t.advance linkLimit [] (.entry "zones") =
      .goes linkLimit ["zones"] [] → t.locate true ⟨"zones"⟩ = .ok (.present ["zones"]) := by
    intro t hstep
    have hleads : t.Leads linkLimit [] (Path.steps ⟨"zones"⟩) linkLimit ["zones"] :=
      .cons hstep (.nil _ _)
    rw [Tree.locate, if_neg (by decide), if_neg (by decide), if_neg (by decide)]
    exact hleads.walk_eq
  have hfound := hlocate (t := coresBeside counter) rfl
  exact ⟨hfound, (flatLayout_coresBeside hfound).rootApart (proper_ofPackages _ _ _)
    (hlocate (t := (coresMove ⟨"zones"⟩).without ["zones"] (coresBeside counter)) rfl)⟩

/-- The zone of the cores, moved into the directory of its package: meters of its cores are found
in both places, and after the counter has gone on they read alike. -/
theorem layouts_metered_alike_of_cores :
    let root : Path := ⟨"zones"⟩
    let k := coresMove root
    let t := coresBeside "5"
    let u := k.nest ["zones"] t
    let moments : List TreeMoment := [⟨coresBeside "9",
      u.put ["zones", "intel-rapl:0", "intel-rapl:0:0", "energy_uj"] (.file .newFile "9".toUTF8),
      .read (.components none)⟩]
    ∃ m m', (CpuMeter.detect t.view root).value = .ok (some m) ∧
      (CpuMeter.detect u.view root).value = .ok (some m') ∧ (m'.gauge? ⟨0, .cores⟩).isSome ∧
      List.Forall₂ (TwinAnswer k (zonesOf (t.names ["zones"])))
        (runCalls CpuCall.perform m (moments.map fun x => (x.before.view, x.call))).1
        (runCalls CpuCall.perform m' (moments.map fun x => (x.after.view, x.call))).1 := by
  intro root k t u moments
  have hflat : ∀ counter, FlatLayout k ["zones"] (coresBeside counter) :=
    fun counter => flatLayout_coresBeside (found_zones counter).1
  have hk : k.Proper := proper_ofPackages _ _ _
  have hsame : SameZones (.ofPackages root (t.names ["zones"]) fun _ => true) ["zones"] t u :=
    ⟨hflat "5", (found_zones "5").2, .refl _⟩
  have hshort : k.Short (zonesOf (t.names ["zones"])) := by
    have hsizes : ∀ z ∈ ["intel-rapl:0", "intel-rapl:0:0"], ∀ file ∈ zoneFiles,
        ((k.after z).join file).text.utf8ByteSize < pathLimit := by decide
    exact fun z hz _ file hfile => hsizes z (List.mem_filter.1 hz).1 file hfile
  obtain ⟨hdetect, hchanges, hruns⟩ := layouts_metered_alike hsame
    (lists_coresBeside (found_zones "5").1).1 hshort
  obtain ⟨m, hm, hcores⟩ := detect_coresBeside (found_zones "5").1 (by decide)
  rw [hm] at hdetect
  generalize hm' : (CpuMeter.detect u.view root).value = found at hdetect
  cases hdetect with
  | @meters _ m' htwins =>
    obtain ⟨-, -, hgauges, hcalls⟩ := hruns m m' hm hm'
    have hcores' : (m'.gauge? ⟨0, .cores⟩).isSome := by
      have hgauge := hgauges ⟨0, .cores⟩
      generalize m.gauge? ⟨0, .cores⟩ = g at hgauge hcores
      generalize m'.gauge? ⟨0, .cores⟩ = g' at hgauge
      cases hgauge with
      | none => exact hcores
      | some => rfl
    refine ⟨m, m', hm, rfl, hcores', (hcalls moments ?_).1⟩
    intro x hx
    rw [List.mem_singleton.1 hx]
    have hhome : k.home? "intel-rapl:0:0" = some "intel-rapl:0" := by decide
    have hout : ¬ k.Target ["zones"] ["zones", "intel-rapl:0:0", "energy_uj"] :=
      not_target_of_home hk hhome
    have hput := hchanges.put t (hflat "5") _ (.file .newFile "9".toUTF8) hout
    have hnew : k.nest ["zones"] (coresBeside "9") =
        u.put ["zones", "intel-rapl:0", "intel-rapl:0:0", "energy_uj"]
          (.file .newFile "9".toUTF8) :=
      hput
    exact ⟨hflat "9", (found_zones "9").2, hnew ▸ .refl _⟩

/-- Through the zone of the cores the directory of zones is found only before it is moved. -/
theorem lost_through_zone :
    let root : Path := ⟨"zones/intel-rapl:0:0/.."⟩
    let k := coresMove root
    let t := coresBeside "5"
    FlatLayout k ["zones"] t ∧ NamedOnce t.view root ∧ k.Short (zonesOf (t.names ["zones"])) ∧
      (∃ m, (CpuMeter.detect t.view root).value = .ok (some m) ∧ (m.gauge? ⟨0, .cores⟩).isSome) ∧
      (CpuMeter.detect (k.nest ["zones"] t).view root).value = .ok none := by
  intro root k t
  have hsteps : root.steps = [.entry "zones", .entry "intel-rapl:0:0", .up] := by decide
  have hwalk : ∀ t : Tree, t.locate true root =
      t.walk true linkLimit [] [.entry "zones", .entry "intel-rapl:0:0", .up] := by
    intro t
    rw [Tree.locate, if_neg (by decide), if_neg (by decide), if_neg (by decide), hsteps]
  have hfound : t.locate true root = .ok (.present ["zones"]) := by
    have hleads : t.Leads linkLimit [] [.entry "zones", .entry "intel-rapl:0:0", .up] linkLimit
        ["zones"] := .cons rfl (.cons rfl (.cons rfl (.nil _ _)))
    rw [hwalk]
    exact hleads.walk_eq
  have hlost : (k.nest ["zones"] t).list root = .error .notFound := by
    have hzones : (k.nest ["zones"] t).advance linkLimit [] (.entry "zones") =
        .goes linkLimit ["zones"] [] := rfl
    have hcores : (k.nest ["zones"] t).advance linkLimit ["zones"] (.entry "intel-rapl:0:0") =
        .missing ["zones", "intel-rapl:0:0"] := rfl
    have hlocate : (k.nest ["zones"] t).locate true root = .error .notFound := by
      rw [hwalk, Tree.walk_cons, hzones]
      simp only [List.nil_append]
      rw [Tree.walk_cons, hcores]
      rfl
    rw [Tree.list, Tree.open?, hlocate]
  have hshort : k.Short (zonesOf (t.names ["zones"])) := by
    have hsizes : ∀ z ∈ ["intel-rapl:0", "intel-rapl:0:0"], ∀ file ∈ zoneFiles,
        ((k.after z).join file).text.utf8ByteSize < pathLimit := by decide
    exact fun z hz _ file hfile => hsizes z (List.mem_filter.1 hz).1 file hfile
  refine ⟨flatLayout_coresBeside hfound, (lists_coresBeside hfound).1, hshort,
    detect_coresBeside hfound (by decide), ?_⟩
  have hview : (k.nest ["zones"] t).view.list root = .error .notFound := hlost
  rw [CpuMeter.detect, hview]

/-- The path of the directory of zones behind slashes. -/
def slashed (n : Nat) : Path := ⟨String.ofList (List.replicate n '/' ++ "zones".toList)⟩

/-- It has as many bytes more. -/
theorem size_slashed (n : Nat) : (slashed n).text.utf8ByteSize = n + 5 := by
  have hslash : '/'.utf8Size = 1 := by decide
  rw [slashed, String.utf8ByteSize_ofList]
  induction n with
  | zero => decide
  | succ n ih =>
    rw [List.replicate_succ, List.cons_append, String.utf8Len_cons, ih, hslash, Nat.add_right_comm]

/-- It leads to the directory of zones. -/
theorem locate_slashed {n : Nat} (hshort : n + 5 < pathLimit) (t : Tree) :
    t.locate true (slashed n) = t.walk true linkLimit [] [.entry "zones"] := by
  have hlist : (slashed n).text.toList = List.replicate n '/' ++ "zones".toList :=
    String.toList_ofList
  have hnamed : (slashed n).namedSteps = [.entry "zones"] := by
    rw [Path.namedSteps, hlist]
    induction n with
    | zero => decide
    | succ n ih =>
      have hpart := splitAt_append_cons '/' [] (List.replicate n '/' ++ "zones".toList)
      rw [List.nil_append] at hpart
      rw [List.replicate_succ, List.cons_append, hpart, List.filterMap_append,
        ih (by omega) String.toList_ofList]
      rfl
  have hend : (slashed n).endsWithSlash = false := by
    rw [Path.endsWithSlash, hlist, List.getLast?_append]
    rfl
  have hsteps : (slashed n).steps = [.entry "zones"] := by
    rw [← hnamed, Path.steps, hend]
    rfl
  have hzero : ¬ (slashed n).text.toList.contains '\x00' = true := by
    rw [hlist, List.contains_iff_mem]
    intro hmem
    rcases List.mem_append.1 hmem with hmem | hmem
    · exact absurd (List.eq_of_mem_replicate hmem) (by decide)
    · exact absurd hmem (by decide)
  have htext : (slashed n).text ≠ "" := by
    intro hempty
    have hsize := size_slashed n
    rw [hempty] at hsize
    simp at hsize
  rw [Tree.locate, if_neg hzero, if_neg htext, size_slashed, if_neg (Nat.not_le.2 hshort), hsteps]

/-- After the move the package alone is listed, and in its directory the zone of the cores. -/
theorem lists_coresMoved {root : Path} {u : Tree}
    (hu : (coresMove root).nest ["zones"] (coresBeside "5") = u)
    (hfound : u.locate true root = .ok (.present ["zones"])) :
    u.view.Lists root "intel-rapl:0" ∧ (∀ name, u.view.Lists root name → name = "intel-rapl:0") ∧
      ∀ name n j, u.view.Lists (root.join "intel-rapl:0") name →
        ZoneName.parse? name = some (.inner n j) → name = "intel-rapl:0:0" := by
  have hlist : u.list root = .ok ["intel-rapl:0"] := by
    rw [Tree.list_of_locate hfound, ← hu]
    rfl
  refine ⟨⟨_, hlist, List.mem_singleton_self _⟩, ?_, ?_⟩
  · rintro name ⟨names, hnames, hname⟩
    cases hlist.symm.trans hnames
    exact List.mem_singleton.1 hname
  · rintro name n j ⟨names, hnames, hname⟩ hparse
    have hdirectory : u.find? ["zones", "intel-rapl:0"] = some (.directory .newDirectory) := by
      rw [← hu]
      rfl
    have hinner : names = ["name", "energy_uj", "intel-rapl:0:0"] := by
      rw [Tree.list_join hfound (ZoneName.plainName (by decide))
        (fun target htarget => by cases hdirectory.symm.trans htarget) hnames, ← hu]
      rfl
    have hothers : ZoneName.parse? "name" = none ∧ ZoneName.parse? "energy_uj" = none := by decide
    rw [hinner] at hname
    simp only [List.mem_cons, List.not_mem_nil, or_false] at hname
    rcases hname with rfl | rfl | rfl
    · cases hothers.1.symm.trans hparse
    · cases hothers.2.symm.trans hparse
    · rfl

/-- Where the path of zones leaves room for the zone of the cores, but not in the directory of its
package, the cores are found only before it is moved. -/
theorem lost_for_length {root : Path}
    (hfound : (coresBeside "5").locate true root = .ok (.present ["zones"]))
    (hapart : (coresMove root).RootApart ["zones"] (coresBeside "5"))
    (hsize : root.text.utf8ByteSize + 25 < pathLimit)
    (hlong : pathLimit ≤ root.text.utf8ByteSize + 35) :
    ∃ m m', (CpuMeter.detect (coresBeside "5").view root).value = .ok (some m) ∧
      (CpuMeter.detect ((coresMove root).nest ["zones"] (coresBeside "5")).view root).value =
        .ok (some m') ∧ (m.gauge? ⟨0, .cores⟩).isSome ∧ m'.gauge? ⟨0, .cores⟩ = none := by
  have hk : (coresMove root).Proper := proper_ofPackages _ _ _
  have hparse : ZoneName.parse? "intel-rapl:0" = some (.package 0) := by decide
  generalize hu : (coresMove root).nest ["zones"] (coresBeside "5") = u
  have hzones : SameZones (coresMove root) ["zones"] (coresBeside "5") u :=
    ⟨flatLayout_coresBeside hfound, hapart, hu ▸ .refl _⟩
  have hsame : ∀ file ∈ zoneFiles, u.view.read ((root.join "intel-rapl:0").join file) =
      (coresBeside "5").view.read ((root.join "intel-rapl:0").join file) := fun file hfile =>
    hzones.read_beside hk (Tree.leads_of_locate hfound).1 (by rw [hparse]; rfl)
      (ZoneMove.home?_package hparse) hfile
  obtain ⟨hpackage, hlists, hinside⟩ := lists_coresMoved hu ((hzones.locate_eq hk).trans hfound)
  have husable : Usable u.view root 0 := by
    obtain ⟨hnamed, hcounted⟩ := usable_coresBeside hfound hsize
    refine ⟨"intel-rapl:0", hpackage, hparse, ?_, ?_⟩
    · rw [Sensor.text_congr (hsame "name" (by decide))]
      exact hnamed
    · rw [Sensor.count_congr (hsame "energy_uj" (by decide))]
      exact hcounted
  obtain ⟨m, hm, hcores⟩ := detect_coresBeside hfound hsize
  obtain ⟨m', hm', hid⟩ := (found_iff_usable fun _ _ _ ha hb _ _ =>
    (hlists _ ha).trans (hlists _ hb).symm).2 husable
  obtain ⟨entry, row, hown, hrow, hholds⟩ := exists_sortedCandidates hm' hid
  refine ⟨m, m', hm, hm', hcores, Option.not_isSome_iff_eq_none.1 fun hsome => ?_⟩
  obtain ⟨z, hz, hstands⟩ := (hholds .cores (by decide)).present.1 hsome
  obtain ⟨n, hn⟩ := hstands.counted
  -- The zone of the cores alone is left in the package, and the path of its counter is too long.
  rcases (hrow.mem z).1 hz with @⟨name, j, hlisted, hinner⟩ | @⟨name, n, j, -, hlisted, hinner⟩
  · obtain rfl := hlists _ hlisted
    cases hparse.symm.trans hinner
  · obtain rfl : entry = "intel-rapl:0" := hlists _ hown.named.1
    obtain rfl := hinside _ _ _ hlisted hinner
    have hshort := (open?_of_count hn).1
    have houter := (Path.size_join root "intel-rapl:0").1
    have hzone := (Path.size_join (root.join "intel-rapl:0") "intel-rapl:0:0").1
    have hcounter :=
      (Path.size_join ((root.join "intel-rapl:0").join "intel-rapl:0:0") "energy_uj").1
    have hsizes : "intel-rapl:0".utf8ByteSize = 12 ∧ "intel-rapl:0:0".utf8ByteSize = 14 ∧
        "energy_uj".utf8ByteSize = 9 := by decide
    omega

/-- Two things set the places of zones apart: where the directory of zones is found through a zone
that is moved no meter is found any more, and where a file gets too long a path its component is
lost. -/
theorem layouts_differ :
    (let root : Path := ⟨"zones/intel-rapl:0:0/.."⟩
      let k := coresMove root
      let t := coresBeside "5"
      FlatLayout k ["zones"] t ∧ NamedOnce t.view root ∧ k.Short (zonesOf (t.names ["zones"])) ∧
        (∃ m, (CpuMeter.detect t.view root).value = .ok (some m) ∧ (m.gauge? ⟨0, .cores⟩).isSome) ∧
        (CpuMeter.detect (k.nest ["zones"] t).view root).value = .ok none) ∧
    (let root := slashed 4060
      let k := coresMove root
      let t := coresBeside "5"
      FlatLayout k ["zones"] t ∧ NamedOnce t.view root ∧ k.RootApart ["zones"] t ∧
        ∃ m m', (CpuMeter.detect t.view root).value = .ok (some m) ∧
          (CpuMeter.detect (k.nest ["zones"] t).view root).value = .ok (some m') ∧
          (m.gauge? ⟨0, .cores⟩).isSome ∧ m'.gauge? ⟨0, .cores⟩ = none) := by
  refine ⟨lost_through_zone, ?_⟩
  have hlocate : ∀ {t : Tree}, t.advance linkLimit [] (.entry "zones") =
      .goes linkLimit ["zones"] [] → t.locate true (slashed 4060) = .ok (.present ["zones"]) := by
    intro t hstep
    have hleads : t.Leads linkLimit [] [.entry "zones"] linkLimit ["zones"] :=
      .cons hstep (.nil _ _)
    rw [locate_slashed (by decide)]
    exact hleads.walk_eq
  have hfound := hlocate (t := coresBeside "5") rfl
  have hflat := flatLayout_coresBeside hfound
  have hapart := hflat.rootApart (proper_ofPackages _ _ _) (l := ["zones"])
    (hlocate (t := (coresMove (slashed 4060)).without ["zones"] (coresBeside "5")) rfl)
  refine ⟨hflat, (lists_coresBeside hfound).1, hapart, lost_for_length hfound hapart ?_ ?_⟩ <;>
    (rw [size_slashed]; decide)

end EnergyMeter.Rapl
