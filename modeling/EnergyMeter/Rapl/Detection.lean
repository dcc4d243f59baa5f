import EnergyMeter.Rapl.CpuMeter
import EnergyMeter.Rapl.Zone

/-!
# Finding the CPU packages

The zones stand in one directory. A package is usable if its zone is named as a
package and its counter can be read. Whatever is wrong with one zone leaves the
others alone: it is told and the zone is left out. Only a directory of zones
that is there and cannot be listed is an error.
-/

namespace EnergyMeter.Rapl

open Files Log

/-- What looking at one package gives. -/
structure FoundPackage where
  /-- The number of the package. -/
  id : UInt32
  /-- The gauges of the package; none if it is not usable. -/
  gauges : List (Slot × Gauge)
  /-- The events. -/
  events : List Event
  /-- The gauges are in reading order, that of the whole among them. -/
  proper : Slot.Proper (slotsOf gauges)
  /-- All gauges are the package's own. -/
  own : ∀ s ∈ slotsOf gauges, s.package = id

/-- A package that is not usable. -/
def FoundPackage.unusable (id : UInt32) (e : Event) : FoundPackage :=
  ⟨id, [], [e], .nil, fun _ h => absurd h List.not_mem_nil⟩

/-- Looks at the zone of a package. Its inner zones are examined only if its own
counter can be read. -/
def lookAt (v : View) (root : Path) (names : List String) (zone : Path) (id : UInt32) :
    FoundPackage :=
  let name := Sensor.textOrEmpty v (zone.join "name")
  if "package".toList.isPrefixOf name.toList then
    match startZone v zone with
    | .error e => .unusable id (.packageUnreadable zone e)
    | .ok whole =>
      let zones := (innerZones v root names id zone).map (examine v)
      { id := id
        gauges := packageGauges id whole zones
        events := zones.flatMap (·.events) ++ [.packageFound id name zone]
        proper := proper_packageGauges id whole zones
        own := fun _ h => package_of_mem_packageGauges h }
  else .unusable id (.zoneSkipped zone name)

/-- Looking at a package finds that package. -/
theorem id_lookAt (v : View) (root : Path) (names : List String) (zone : Path) (id : UInt32) :
    (lookAt v root names zone id).id = id := by
  simp only [lookAt]
  split
  · split <;> rfl
  · rfl

/-- Puts a number into an ascending row, once. -/
def insertId (id : UInt32) : List UInt32 → List UInt32
  | [] => [id]
  | n :: rest =>
    if id < n then id :: n :: rest
    else if id = n then n :: rest
    else n :: insertId id rest

/-- The row holds the number and what it held before. -/
theorem mem_insertId {id n : UInt32} {ids : List UInt32} :
    n ∈ insertId id ids ↔ n = id ∨ n ∈ ids := by
  induction ids with
  | nil => simp [insertId]
  | cons m rest ih =>
    rw [insertId]
    split
    · simp
    · split
      · rename_i h
        subst h
        simp
      · rw [List.mem_cons, ih, List.mem_cons]
        exact or_left_comm

/-- The row stays ascending. -/
theorem ascending_insertId {id : UInt32} {ids : List UInt32} (h : ids.Pairwise (· < ·)) :
    (insertId id ids).Pairwise (· < ·) := by
  induction ids with
  | nil => simp [insertId]
  | cons n rest ih =>
    obtain ⟨hn, hr⟩ := List.pairwise_cons.1 h
    rw [insertId]
    split
    · rename_i hlt
      refine List.pairwise_cons.2 ⟨fun m hm => ?_, h⟩
      rcases List.mem_cons.1 hm with rfl | hm
      · exact hlt
      · exact UInt32.lt_trans hlt (hn m hm)
    · split
      · exact h
      · rename_i hlt hne
        refine List.pairwise_cons.2 ⟨fun m hm => ?_, ih hr⟩
        rcases mem_insertId.1 hm with rfl | hm
        · exact UInt32.lt_of_le_of_ne (UInt32.not_lt.1 hlt) (Ne.symm hne)
        · exact hn m hm

/-- Adds the number of the package that a name stands for. -/
def addId (ids : List UInt32) (name : String) : List UInt32 :=
  match ZoneName.parse? name with
  | some (.package id) => insertId id ids
  | _ => ids

/-- The numbers of the packages that names stand for, ascending. -/
def packageIds (names : List String) : List UInt32 :=
  names.foldl addId []

/-- The numbers of the packages are ascending. -/
theorem ascending_packageIds (names : List String) : (packageIds names).Pairwise (· < ·) := by
  have step : ∀ (names : List String) (ids : List UInt32), ids.Pairwise (· < ·) →
      (names.foldl addId ids).Pairwise (· < ·) := by
    intro names
    induction names with
    | nil => exact fun _ h => h
    | cons s rest ih =>
      intro ids h
      rw [List.foldl_cons]
      refine ih _ ?_
      rw [addId]
      split
      · exact ascending_insertId h
      · exact h
  exact step names [] .nil

/-- The path of a package's own zone. -/
def zoneOf (root : Path) (names : List String) (id : UInt32) : Path :=
  root.join ((names.filter (ZoneName.isPackageOf id)).getLast?.getD "")

/-- Looks at every package in ascending order. -/
def lookAtAll (v : View) (root : Path) (names : List String) : List FoundPackage :=
  (packageIds names).map fun id => lookAt v root names (zoneOf root names id) id

/-- The packages are looked at in ascending order. -/
theorem ascending_lookAtAll (v : View) (root : Path) (names : List String) :
    (lookAtAll v root names).Pairwise (·.id < ·.id) := by
  simp only [lookAtAll, List.pairwise_map, id_lookAt]
  exact ascending_packageIds names

/-- The gauges of packages in ascending order are in reading order. -/
theorem proper_flatMap {found : List FoundPackage} (h : found.Pairwise (·.id < ·.id)) :
    Slot.Proper (slotsOf (found.flatMap (·.gauges))) := by
  induction found with
  | nil => exact .nil
  | cons p rest ih =>
    obtain ⟨hp, hr⟩ := List.pairwise_cons.1 h
    have hrest := ih hr
    simp only [slotsOf, List.flatMap_cons, List.map_append] at hrest ⊢
    have later : ∀ s ∈ (rest.flatMap (·.gauges)).map Prod.fst, p.id < s.package := by
      intro s hs
      obtain ⟨x, hx, rfl⟩ := List.mem_map.1 hs
      obtain ⟨q, hq, hxq⟩ := List.mem_flatMap.1 hx
      rw [q.own x.1 (List.mem_map_of_mem hxq)]
      exact hp q hq
    refine ⟨List.pairwise_append.2 ⟨p.proper.ascending, hrest.ascending, ?_⟩, ?_⟩
    · intro a ha b hb
      exact Or.inl (p.own a ha ▸ later b hb)
    · intro s hs
      rcases List.mem_append.1 hs with hs | hs
      · exact List.mem_append_left _ (p.proper.rooted s hs)
      · exact List.mem_append_right _ (hrest.rooted s hs)

/-- The meter with the gauges of packages that were found. -/
def CpuMeter.ofFound (found : List FoundPackage) (h : found.Pairwise (·.id < ·.id)) : CpuMeter :=
  ⟨found.flatMap (·.gauges), proper_flatMap h⟩

/-- Finds the usable packages below a directory of zones. There is no meter if
the directory is not there or holds no usable package. -/
def CpuMeter.detect (v : View) (root : Path) : Logged (Except Error (Option CpuMeter)) :=
  match v.list root with
  | .error .notFound => ⟨.ok none, [.zonesMissing root]⟩
  | .error fault => ⟨.error (.io fault), []⟩
  | .ok names =>
    let found := lookAtAll v root names
    let meter := ofFound found (ascending_lookAtAll v root names)
    let events := found.flatMap (·.events)
    if meter.gauges.isEmpty then ⟨.ok none, events ++ [.noPackages root]⟩
    else ⟨.ok (some meter), events⟩

end EnergyMeter.Rapl
