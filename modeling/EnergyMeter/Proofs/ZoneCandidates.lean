import EnergyMeter.Proofs.InnerZones
import EnergyMeter.Proofs.ZoneNames

/-!
# Zones of different packages

The zones that may be inside a package stand at paths that no other package's zones have, and
none of them is the zone of a package itself: what a name says settles which package it belongs
to, and names hold no slashes. So where directories list each name once, the zones of all
packages are different, and so are the files in them.
-/

namespace EnergyMeter

open Files

namespace Files

/-- That a directory lists each name once. -/
def View.ListsOnce (v : View) : Prop := ∀ p names, v.list p = .ok names → names.Nodup

section Paths

variable {p q : Path} {a b name other : String}

/-- A row is cut at its last separator in one way. -/
theorem cut_last {α : Type} {c : α} {front front' behind behind' : List α} (h : c ∉ behind)
    (h' : c ∉ behind') (hsame : front ++ c :: behind = front' ++ c :: behind') :
    front = front' ∧ behind = behind' := by
  rcases List.append_eq_append_iff.1 hsame with ⟨more, hfront, hmore⟩ | ⟨more, hfront, hmore⟩
  · cases more with
    | nil =>
      rw [List.nil_append, List.cons.injEq] at hmore
      exact ⟨by simp [hfront], hmore.2⟩
    | cons d more =>
      rw [List.cons_append, List.cons.injEq] at hmore
      exact absurd (by simp [hmore.2]) h
  · cases more with
    | nil =>
      rw [List.nil_append, List.cons.injEq] at hmore
      exact ⟨by simp [hfront], hmore.2.symm⟩
    | cons d more =>
      rw [List.cons_append, List.cons.injEq] at hmore
      exact absurd (by simp [hmore.2]) h'

/-- The paths of two names in a directory differ. -/
theorem join_right_inj (h : p.join a = p.join b) : a = b := by
  obtain ⟨front, hfront⟩ := text_join p
  have htext := congrArg Path.text h
  rw [hfront, hfront] at htext
  exact String.append_right_inj front |>.1 htext

/-- A path that ends with the name of an entry is joined by a slash. -/
theorem text_join_join (hname : PlainName name) (p : Path) (a : String) :
    ((p.join name).join a).text.toList = (p.join name).text.toList ++ '/' :: a.toList := by
  obtain ⟨front, hfront⟩ := text_join p
  obtain ⟨init, c, hlast, hc⟩ := hname.exists_last
  have htext : (p.join name).text.toList = (front.toList ++ init) ++ [c] := by
    rw [hfront, String.toList_append, hlast, List.append_assoc]
  have hsome : (p.join name).text ≠ "" := by
    intro hnil
    rw [hnil] at htext
    simp at htext
  have hend : (p.join name).endsWithSlash = false := by
    rw [Path.endsWithSlash, htext, List.getLast?_concat]
    simpa using hc
  rw [Path.join, hend]
  simp [hsome, String.toList_append]

/-- Files in directories with the name of an entry are the same only if their directories and
their names are. -/
theorem join_join_inj (hname : PlainName name) (hother : PlainName other) (ha : '/' ∉ a.toList)
    (hb : '/' ∉ b.toList) (h : (p.join name).join a = (q.join other).join b) :
    p.join name = q.join other ∧ a = b := by
  have htext := congrArg (fun path => path.text.toList) h
  simp only [text_join_join hname, text_join_join hother] at htext
  obtain ⟨hdirectory, hfile⟩ := cut_last ha hb htext
  exact ⟨congrArg Path.mk (String.toList_injective hdirectory), String.toList_injective hfile⟩

/-- An entry of a directory is no entry of a directory inside. -/
theorem join_ne_join_join (hname : PlainName name) (hother : PlainName other) (b : String) :
    p.join name ≠ (p.join other).join b := by
  intro h
  obtain ⟨front, hfront⟩ := text_join p
  have htext := congrArg (fun path => path.text.toList) h
  simp only [text_join_join hother, hfront, String.toList_append, List.append_assoc,
    List.append_cancel_left_eq] at htext
  exact hname.slash (by simp [htext])

end Paths

end Files

namespace Rapl

section Candidates

variable {v : View} {root z : Path} {entry other : String} {id j k : UInt32}
  {names : List String}

/-- What is named as a zone stands at a plain name. -/
theorem plainName_of_parse? {n : ZoneName} (h : ZoneName.parse? entry = some n) :
    PlainName entry :=
  ZoneName.plainName (by simp [h])

/-- A candidate stands in some directory by the name of a zone inside a package. -/
theorem Candidate.exists_join (h : Candidate v root id (root.join entry) z) :
    ∃ directory name, PlainName name ∧ z = Path.join directory name := by
  cases h with
  | beside _ hparse => exact ⟨root, _, plainName_of_parse? hparse, rfl⟩
  | nested _ _ hparse => exact ⟨root.join entry, _, plainName_of_parse? hparse, rfl⟩

/-- A candidate is no package's own zone. -/
theorem Candidate.ne_package (h : Candidate v root id (root.join entry) z)
    (hentry : ZoneName.parse? entry = some (.package id))
    (hother : ZoneName.parse? other = some (.package j)) : z ≠ root.join other := by
  intro hsame
  cases h with
  | beside _ hparse =>
    rw [join_right_inj hsame, hother] at hparse
    cases hparse
  | nested _ _ hparse =>
    exact join_ne_join_join (plainName_of_parse? hother) (plainName_of_parse? hentry) _ hsame.symm

/-- A candidate is one of a single package. -/
theorem Candidate.package_unique (h : Candidate v root id (root.join entry) z)
    (hentry : ZoneName.parse? entry = some (.package id))
    (h' : Candidate v root j (root.join other) z)
    (hother : ZoneName.parse? other = some (.package j)) : id = j := by
  have hplain := plainName_of_parse? hentry
  have hplain' := plainName_of_parse? hother
  -- Zones beside a package and zones in its directory stand at different depths.
  cases h with
  | @beside name n hname hparse =>
    generalize hz : root.join name = z at h'
    cases h' with
    | beside _ hparse' =>
      rw [join_right_inj hz, hparse'] at hparse
      cases hparse
      rfl
    | nested _ _ _ => exact absurd hz (join_ne_join_join (plainName_of_parse? hparse) hplain' _)
  | @nested name n m _ _ hparse =>
    generalize hz : (root.join entry).join name = z at h'
    cases h' with
    | beside _ hparse' =>
      exact absurd hz.symm (join_ne_join_join (plainName_of_parse? hparse') hplain _)
    | nested _ _ hparse' =>
      have hslash := (plainName_of_parse? hparse).slash
      have hslash' := (plainName_of_parse? hparse').slash
      obtain ⟨hdirectory, -⟩ := join_join_inj hplain hplain' hslash hslash' hz
      rw [join_right_inj hdirectory, hother] at hentry
      cases hentry
      rfl

/-- Where directories list each name once, so does the row of candidates. -/
theorem nodup_innerZones (hv : v.ListsOnce) (h : v.list root = .ok names) (id : UInt32)
    (zone : Path) : (innerZones v root names id zone).Nodup := by
  have hpaths : ∀ (directory : Path) (some : List String), some.Nodup →
      ((some.mergeSort nameLe).map directory.join).Nodup := by
    intro directory some hsome
    have hsorted := (List.mergeSort_perm some nameLe).nodup_iff.2 hsome
    exact hsorted.map fun a b hab => join_right_inj hab
  unfold innerZones
  dsimp only
  split
  · split
    · rename_i nested hnested
      exact hpaths zone _ ((hv zone nested hnested).filter _)
    · exact .nil
  · exact hpaths root _ ((hv root names h).filter _)

end Candidates

end Rapl

end EnergyMeter
