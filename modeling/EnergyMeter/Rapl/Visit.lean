import EnergyMeter.Gauge
import EnergyMeter.Rapl.Slot

/-!
# Visiting gauges

Every read and the reset of the CPU meter is a visit of some gauges in order. A
visit stops at the first gauge whose file cannot be read; the gauges before it
keep what they booked, and it and all behind it stay as they were.
-/

namespace EnergyMeter.Rapl

/-- What a visit leaves behind. -/
structure Visit where
  /-- The error that ended the visit early. -/
  failure : Option Error
  /-- All gauges after the visit. -/
  gauges : List (Slot × Gauge)

/-- Acts on the selected gauges in order, up to the first failure. -/
def visit (selects : Slot → Bool) (act : Gauge → Except Error Gauge) :
    List (Slot × Gauge) → Visit
  | [] => ⟨none, []⟩
  | (s, g) :: rest =>
    if selects s then
      match act g with
      | .error e => ⟨some e, (s, g) :: rest⟩
      | .ok g' =>
        let behind := visit selects act rest
        ⟨behind.failure, (s, g') :: behind.gauges⟩
    else
      let behind := visit selects act rest
      ⟨behind.failure, (s, g) :: behind.gauges⟩

/-- The slots of a row of gauges. -/
abbrev slotsOf (gauges : List (Slot × Gauge)) : List Slot :=
  gauges.map Prod.fst

/-- A visit leaves the slots as they are. -/
theorem slotsOf_visit (selects : Slot → Bool) (act : Gauge → Except Error Gauge)
    (gauges : List (Slot × Gauge)) :
    slotsOf (visit selects act gauges).gauges = slotsOf gauges := by
  induction gauges with
  | nil => rfl
  | cons x rest ih =>
    rw [visit]
    split
    · split
      · rfl
      · simp only [slotsOf, List.map_cons] at ih ⊢
        rw [ih]
    · simp only [slotsOf, List.map_cons] at ih ⊢
      rw [ih]

end EnergyMeter.Rapl
