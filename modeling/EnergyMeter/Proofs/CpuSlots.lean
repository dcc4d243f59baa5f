import EnergyMeter.Rapl.CpuMeter
import Mathlib.Data.List.Sort

/-!
# The order of a meter's slots

The gauges of a meter stand in one row. Asked for some packages and some
components, the meter goes through that row from the front, so it meets the
packages by ascending number and, in each, the whole, the cores, the graphics
unit and the memory, as far as the package has them. The order is written out
here package by package and shown to be that of the row.
-/

namespace EnergyMeter.Rapl

namespace Slot

/-- No slot is read before itself. -/
instance : Std.Irrefl Before :=
  ⟨fun a h => by
    rcases h with h | ⟨-, h⟩
    · exact UInt32.lt_irrefl a.package h
    · exact Nat.lt_irrefl _ h⟩

/-- Of two slots at most one is read before the other. -/
theorem Before.asymm {a b : Slot} (hab : a.Before b) : ¬ b.Before a := by
  intro hba
  rcases hab with h | ⟨hp, h⟩
  · rcases hba with h' | ⟨hp', -⟩
    · exact UInt32.lt_asymm h h'
    · rw [hp'] at h
      exact UInt32.lt_irrefl _ h
  · rcases hba with h' | ⟨-, h'⟩
    · rw [hp] at h'
      exact UInt32.lt_irrefl _ h'
    · omega

instance : Std.Antisymm Before :=
  ⟨fun _ _ hab hba => absurd hba hab.asymm⟩

end Slot

/-- The components that a query is about, in reading order. -/
def Query.components (q : Query) : List Component :=
  match q.component with
  | some c => [c]
  | none => Component.all

/-- A query is about the components that it selects. -/
theorem Query.mem_components {q : Query} {c : Component} :
    c ∈ q.components ↔ (q.component.isNone || q.component == some c) = true := by
  unfold Query.components
  cases q.component with
  | some d =>
    rw [List.mem_singleton, Option.isNone_some, Bool.false_or, beq_iff_eq, Option.some.injEq]
    exact eq_comm
  | none => cases c <;> simp [Component.all]

/-- Of the slots of a query, those of one of its components are the slots of the
query for that component alone. -/
theorem Query.selects_and {q : Query} {c : Component} (hc : c ∈ q.components) :
    (fun s => q.selects s && s.component == c) = (Query.mk q.package (some c)).selects := by
  funext s
  rw [Bool.eq_iff_iff]
  simp only [Query.selects, Bool.and_eq_true]
  constructor
  · rintro ⟨⟨hp, -⟩, hsc⟩
    exact ⟨hp, by simp [eq_of_beq hsc]⟩
  · rintro ⟨hp, hsc⟩
    rw [Option.isNone_some, Bool.false_or, beq_iff_eq, Option.some.injEq] at hsc
    rw [← hsc]
    exact ⟨⟨hp, Query.mem_components.1 hc⟩, beq_self_eq_true c⟩

/-- The components stand in reading order, each once. -/
theorem Query.ascending_components (q : Query) :
    q.components.Pairwise (·.rank < ·.rank) := by
  unfold Query.components
  cases q.component with
  | some c => exact List.pairwise_singleton _ c
  | none => decide

namespace CpuMeter

variable {m : CpuMeter} {s : Slot} {g : Gauge} {id : UInt32}

/-- Every slot has one gauge. -/
theorem nodup_slots (m : CpuMeter) : (slotsOf m.gauges).Nodup :=
  m.proper.ascending.nodup

/-- The gauge in a slot is the one that the row has there. -/
theorem gauge?_eq_some : m.gauge? s = some g ↔ (s, g) ∈ m.gauges := by
  unfold gauge?
  have hnodup := m.nodup_slots
  generalize m.gauges = gauges at hnodup
  induction gauges with
  | nil => simp
  | cons x rest ih =>
    obtain ⟨t, h⟩ := x
    obtain ⟨hfresh, hrest⟩ := List.nodup_cons.1 hnodup
    rw [List.lookup_cons, List.mem_cons, Prod.mk.injEq]
    by_cases hst : s = t
    · subst hst
      have habsent : (s, g) ∉ rest := fun hm =>
        hfresh (List.mem_map.2 ⟨(s, g), hm, rfl⟩)
      simp [habsent, eq_comm]
    · have hne : (s == t) = false := beq_false_of_ne hst
      simp [hne, hst, ih hrest]

/-- A slot is present if the row has it. -/
theorem isSome_gauge? : (m.gauge? s).isSome ↔ s ∈ slotsOf m.gauges := by
  rw [Option.isSome_iff_exists]
  constructor
  · rintro ⟨g, hg⟩
    exact List.mem_map_of_mem (f := Prod.fst) (gauge?_eq_some.1 hg)
  · intro hs
    obtain ⟨⟨t, g⟩, hx, rfl⟩ := List.mem_map.1 hs
    exact ⟨g, gauge?_eq_some.2 hx⟩

/-- The packages are those with a gauge for their whole. -/
theorem mem_packages : id ∈ m.packages ↔ (m.gauge? ⟨id, .whole⟩).isSome := by
  rw [isSome_gauge?]
  unfold packages
  simp only [List.mem_filterMap, Option.ite_none_right_eq_some, Option.some.injEq]
  constructor
  · rintro ⟨⟨⟨p, c⟩, g⟩, hx, rfl, rfl⟩
    exact List.mem_map_of_mem (f := Prod.fst) hx
  · intro hs
    obtain ⟨x, hx, hxs⟩ := List.mem_map.1 hs
    exact ⟨x, hx, by rw [hxs], by rw [hxs]⟩

/-- The package of every gauge is one of the packages. -/
theorem package_mem_packages (hs : (m.gauge? s).isSome) : s.package ∈ m.packages := by
  rw [mem_packages, isSome_gauge?]
  exact m.proper.rooted s (isSome_gauge?.1 hs)

/-- The packages are ascending, each once. -/
theorem ascending_packages (m : CpuMeter) : m.packages.Pairwise (· < ·) := by
  have hslots := List.pairwise_map.1 m.proper.ascending
  unfold packages
  rw [List.pairwise_filterMap]
  refine hslots.imp ?_
  intro x y hxy a ha b hb
  obtain ⟨hx, hxa⟩ := Option.ite_none_right_eq_some.1 ha
  obtain ⟨hy, hyb⟩ := Option.ite_none_right_eq_some.1 hb
  cases hxa
  cases hyb
  rcases hxy with h | ⟨-, h⟩
  · exact h
  · rw [hx, hy] at h
    exact absurd h (Nat.lt_irrefl _)

/-- The packages that a query is about. -/
def packagesOf (m : CpuMeter) (q : Query) : List UInt32 :=
  match q.package with
  | some id => [id]
  | none => m.packages

/-- The slots that a query is about: by ascending package, and in a package from
the whole to the memory. Components that a package does not have are left out. -/
def order (m : CpuMeter) (q : Query) : List Slot :=
  (m.packagesOf q).flatMap fun id =>
    (q.components.map (Slot.mk id)).filter fun s => (m.gauge? s).isSome

/-- The packages of a query are ascending. -/
theorem ascending_packagesOf (m : CpuMeter) (q : Query) :
    (m.packagesOf q).Pairwise (· < ·) := by
  unfold packagesOf
  cases q.package with
  | some id => exact List.pairwise_singleton _ id
  | none => exact m.ascending_packages

/-- A query is about the slots that it selects, where there is a gauge. -/
theorem mem_order {q : Query} :
    s ∈ m.order q ↔ s ∈ slotsOf m.gauges ∧ q.selects s = true := by
  have hpackage : (m.gauge? s).isSome →
      (s.package ∈ m.packagesOf q ↔ (q.package.isNone || q.package == some s.package) = true) := by
    intro hs
    unfold packagesOf
    cases q.package with
    | some id =>
      rw [List.mem_singleton, Option.isNone_some, Bool.false_or, beq_iff_eq, Option.some.injEq]
      exact eq_comm
    | none => simp [package_mem_packages hs]
  unfold order
  rw [← isSome_gauge?, Query.selects, Bool.and_eq_true]
  simp only [List.mem_flatMap, List.mem_filter, List.mem_map]
  constructor
  · rintro ⟨id, hid, ⟨c, hc, rfl⟩, hs⟩
    exact ⟨hs, (hpackage hs).1 hid, Query.mem_components.1 hc⟩
  · rintro ⟨hs, hp, hc⟩
    exact ⟨s.package, (hpackage hs).2 hp, ⟨s.component, Query.mem_components.2 hc, rfl⟩, hs⟩

/-- The slots of a query stand in reading order, each once. -/
theorem ascending_order (m : CpuMeter) (q : Query) : (m.order q).Pairwise Slot.Before := by
  unfold order
  rw [List.pairwise_flatMap]
  constructor
  · intro id _
    refine List.Pairwise.filter _ (List.pairwise_map.2 ?_)
    exact q.ascending_components.imp fun h => Or.inr ⟨rfl, h⟩
  · refine (m.ascending_packagesOf q).imp ?_
    intro a b hab s hs t ht
    obtain ⟨c, -, rfl⟩ := List.mem_map.1 (List.mem_of_mem_filter hs)
    obtain ⟨d, -, rfl⟩ := List.mem_map.1 (List.mem_of_mem_filter ht)
    exact Or.inl hab

/-- The order package by package is the order of the row. -/
theorem filter_slots (m : CpuMeter) (q : Query) :
    (slotsOf m.gauges).filter q.selects = m.order q := by
  refine List.Pairwise.eq_of_mem_iff (m.proper.ascending.filter _) (m.ascending_order q) ?_
  intro s
  rw [List.mem_filter, mem_order]

end CpuMeter

end EnergyMeter.Rapl
