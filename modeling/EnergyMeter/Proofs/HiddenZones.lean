import EnergyMeter.Proofs.ZoneCandidates

/-!
# What stands inside a package that cannot be read

Looking for packages reads three files in a zone, and those of the zones inside a package only
if the package's own counter can be read. So where it cannot, nothing inside the package counts:
its zones may come, go or change, and what is found and told is the same.
-/

namespace EnergyMeter

open Files

namespace Rapl

/-- That two file systems differ at most inside a package: in the files of the zones that may be
inside it, and in what stands in the directory of its own zone. -/
structure SameOutside (v v' : View) (root : Path) (id : UInt32) (zone : Path) : Prop where
  /-- Other directories hold the same. -/
  list : ∀ p, p ≠ zone → v'.list p = v.list p
  /-- Other files hold the same. -/
  read : ∀ p, (∀ z file, Candidate v root id zone z → '/' ∉ file.toList → p ≠ z.join file) →
    v'.read p = v.read p

section Inside

variable {v v' : View} {root zone z : Path} {names : List String} {id j : UInt32}
  {entry other : String}

/-- Examining a zone is settled by the files in it. -/
theorem examine_congr
    (h : ∀ file, '/' ∉ file.toList → v'.read (z.join file) = v.read (z.join file)) :
    startZone v' z = startZone v z ∧ examine v' z = examine v z := by
  have hname := Sensor.text_congr (h "name" (by decide))
  have hcount := Sensor.count_congr (h "energy_uj" (by decide))
  have hrange := Sensor.count_congr (h "max_energy_range_uj" (by decide))
  have hstart : startZone v' z = startZone v z := by
    unfold startZone Gauge.start
    rw [hcount, hrange]
  unfold examine
  rw [hname, hstart]
  exact ⟨rfl, rfl⟩

/-- Where only the inside of a package differs, the files of every other zone are the same. -/
theorem SameOutside.read_eq (h : SameOutside v v' root id (root.join entry))
    {directory : Path} {name file : String} (hname : PlainName name) (hfile : '/' ∉ file.toList)
    (hother : ¬ Candidate v root id (root.join entry) (directory.join name)) :
    v'.read ((directory.join name).join file) = v.read ((directory.join name).join file) := by
  refine h.read _ fun z file' hz hfile' hsame => ?_
  obtain ⟨directory', name', hname', rfl⟩ := hz.exists_join
  obtain ⟨hzone, -⟩ := join_join_inj hname hname' hfile hfile' hsame
  exact hother (hzone ▸ hz)

/-- Looking at a package is settled by its name, its counter and, if that can be read, the
zones inside. -/
theorem lookAt_congr (hname : Sensor.textOrEmpty v' (zone.join "name") =
      Sensor.textOrEmpty v (zone.join "name")) (hstart : startZone v' zone = startZone v zone)
    (hzones : ∀ g, startZone v zone = .ok g →
      (innerZones v' root names id zone).map (examine v') =
        (innerZones v root names id zone).map (examine v)) :
    lookAt v' root names zone id = lookAt v root names zone id := by
  unfold lookAt
  simp only [hname, hstart]
  split
  · cases hg : startZone v zone with
    | error e => rfl
    | ok g => simp only [hzones g hg]
  · rfl

/-- Other packages are told of alike. -/
theorem SameOutside.lookAt_other (h : SameOutside v v' root id (root.join entry))
    (hentry : ZoneName.parse? entry = some (.package id)) (hlist : v.list root = .ok names)
    (hother : ZoneName.parse? other = some (.package j)) (hne : j ≠ id) :
    lookAt v' root names (root.join other) j = lookAt v root names (root.join other) j := by
  have hfiles : ∀ {directory name}, PlainName name →
      ¬ Candidate v root id (root.join entry) (Path.join directory name) →
        startZone v' (directory.join name) = startZone v (directory.join name) ∧
          examine v' (directory.join name) = examine v (directory.join name) :=
    fun hname hnot => examine_congr fun file hfile => h.read_eq hname hfile hnot
  have hplain := plainName_of_parse? hother
  have hnot : ¬ Candidate v root id (root.join entry) (root.join other) :=
    fun hz => hz.ne_package hentry hother rfl
  have hzone : root.join other ≠ root.join entry := by
    intro hsame
    rw [join_right_inj hsame, hentry] at hother
    cases hother
    exact hne rfl
  refine lookAt_congr ?_ (hfiles hplain hnot).1 fun g _ => ?_
  · unfold Sensor.textOrEmpty
    rw [Sensor.text_congr (h.read_eq hplain (by decide) hnot)]
  · have hrow : innerZones v' root names j (root.join other) =
        innerZones v root names j (root.join other) := by
      unfold innerZones
      rw [h.list _ hzone]
    rw [hrow]
    refine List.map_congr_left fun z hz => ?_
    have hcandidate := ((sortedCandidates_innerZones hlist).mem z).1 hz
    obtain ⟨directory, name, hname, rfl⟩ := hcandidate.exists_join
    refine (hfiles hname fun hz' => hne ?_).2
    exact hcandidate.package_unique hother hz' hentry

/-- A package that cannot be read is told of alike. -/
theorem SameOutside.lookAt_unreadable {e : Error}
    (h : SameOutside v v' root id (root.join entry))
    (hentry : ZoneName.parse? entry = some (.package id))
    (he : Sensor.count v ((root.join entry).join "energy_uj") = .error e) :
    lookAt v' root names (root.join entry) id = lookAt v root names (root.join entry) id := by
  have hread : ∀ file, '/' ∉ file.toList →
      v'.read ((root.join entry).join file) = v.read ((root.join entry).join file) :=
    fun file hfile => h.read_eq (plainName_of_parse? hentry) hfile
      fun hz => hz.ne_package hentry hentry rfl
  refine lookAt_congr ?_ (examine_congr hread).1 fun g hg => ?_
  · unfold Sensor.textOrEmpty
    rw [Sensor.text_congr (hread "name" (by decide))]
  · cases (startZone_eq_error.2 he).symm.trans hg

/-- Nothing inside a package that cannot be read counts in looking for packages. -/
theorem SameOutside.detect_eq {e : Error} (h : SameOutside v v' root id (root.join entry))
    (hown : OwnEntry v root id entry) (hlist : v.list root = .ok names)
    (he : Sensor.count v ((root.join entry).join "energy_uj") = .error e) :
    CpuMeter.detect v' root = CpuMeter.detect v root := by
  have hroot : root ≠ root.join entry := by
    intro hsame
    have hsize := (Path.size_join root entry).1
    have hname := ZoneName.two_le_size (s := entry) (by simp [hown.named.2])
    rw [← hsame] at hsize
    omega
  have hlist' : v'.list root = .ok names := (h.list root hroot).trans hlist
  have hfound : lookAtAll v' root names = lookAtAll v root names := by
    refine List.map_congr_left fun j hj => ?_
    obtain ⟨own, hown'⟩ := exists_ownEntry_of_mem hlist hj
    rw [hown'.zoneOf_eq hlist]
    by_cases hne : j = id
    · subst hne
      rw [hown'.unique hown]
      exact h.lookAt_unreadable hown.named.2 he
    · exact h.lookAt_other hown.named.2 hlist hown'.named.2 hne
  simp only [CpuMeter.detect, hlist, hlist', hfound]

end Inside

end Rapl

end EnergyMeter
