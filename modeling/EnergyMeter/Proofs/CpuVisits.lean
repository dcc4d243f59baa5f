import EnergyMeter.Proofs.CpuSlots

/-!
# How far a visit of the gauges gets

A visit cuts the row of gauges in two. In front of the cut every selected gauge
was acted on; behind it nothing changed. There is nothing behind the cut unless
a gauge failed, and then that gauge is the first behind it. For the meter this
says which slots an action reaches and what it leaves of every gauge.
-/

namespace EnergyMeter.Rapl

variable {selects : Slot → Bool} {f : Gauge → Except Error Gauge}

/-- What a visit makes of a gauge that it passes. -/
def passed (selects : Slot → Bool) (f : Gauge → Except Error Gauge) (x : Slot × Gauge) :
    Slot × Gauge :=
  if selects x.1 then
    match f x.2 with
    | .ok g => (x.1, g)
    | .error _ => x
  else x

/-- Passing a gauge keeps its slot. -/
theorem passed_fst (x : Slot × Gauge) : (passed selects f x).1 = x.1 := by
  unfold passed
  split
  · split <;> rfl
  · rfl

/-- A gauge that is not selected is passed as it is. -/
theorem passed_of_not {x : Slot × Gauge} (h : selects x.1 = false) : passed selects f x = x := by
  unfold passed
  rw [h]
  rfl

/-- A selected gauge is passed as what it was made into. -/
theorem passed_of_ok {s : Slot} {g g' : Gauge} (h : selects s = true) (hf : f g = .ok g') :
    passed selects f (s, g) = (s, g') := by
  simp only [passed, h, hf, if_true]

/-- Where a visit cuts a row of gauges, and what it leaves of the two parts. -/
structure Cut (selects : Slot → Bool) (f : Gauge → Except Error Gauge)
    (gauges before after : List (Slot × Gauge)) : Prop where
  /-- The parts make up the row. -/
  row : gauges = before ++ after
  /-- The gauges in front were passed, those behind are as they were. -/
  left : (visit selects f gauges).gauges = before.map (passed selects f) ++ after
  /-- No selected gauge in front failed. -/
  passable : ∀ x ∈ before, selects x.1 = true → ∃ g, f x.2 = .ok g
  /-- With nothing behind the cut, nothing failed. -/
  whole : after = [] → (visit selects f gauges).failure = none
  /-- The first gauge behind the cut is the one that failed. -/
  stopped : ∀ x ∈ after.head?, selects x.1 = true ∧
    ∃ e, f x.2 = .error e ∧ (visit selects f gauges).failure = some e

/-- A gauge that is passed only moves the cut behind it. -/
theorem Cut.cons {x : Slot × Gauge} {rest before after : List (Slot × Gauge)}
    (h : Cut selects f rest before after)
    (hx : selects x.1 = true → ∃ g, f x.2 = .ok g)
    (hvisit : visit selects f (x :: rest) =
      ⟨(visit selects f rest).failure, passed selects f x :: (visit selects f rest).gauges⟩) :
    Cut selects f (x :: rest) (x :: before) after := by
  constructor
  · rw [h.row, List.cons_append]
  · rw [hvisit, h.left, List.map_cons, List.cons_append]
  · intro y hy
    rcases List.mem_cons.1 hy with rfl | hy
    · exact hx
    · exact h.passable y hy
  · intro hnil
    rw [hvisit]
    exact h.whole hnil
  · intro y hy
    rw [hvisit]
    exact h.stopped y hy

/-- Every visit cuts the row somewhere. -/
theorem visit_cut (selects : Slot → Bool) (f : Gauge → Except Error Gauge)
    (gauges : List (Slot × Gauge)) : ∃ before after, Cut selects f gauges before after := by
  induction gauges with
  | nil => exact ⟨[], [], rfl, rfl, by simp, fun _ => rfl, by simp⟩
  | cons x rest ih =>
    obtain ⟨s, g⟩ := x
    obtain ⟨before, after, h⟩ := ih
    cases hs : selects s with
    | false =>
      refine ⟨(s, g) :: before, after, h.cons ?_ ?_⟩
      · intro hsel
        rw [hs] at hsel
        cases hsel
      · rw [visit, passed_of_not hs, hs]
        rfl
    | true =>
      cases hf : f g with
      | ok g' =>
        refine ⟨(s, g) :: before, after, h.cons (fun _ => ⟨g', hf⟩) ?_⟩
        rw [passed_of_ok hs hf, visit, hf, hs]
        rfl
      | error e =>
        have hvisit : visit selects f ((s, g) :: rest) = ⟨some e, (s, g) :: rest⟩ := by
          rw [visit, hf, hs]
          rfl
        refine ⟨[], (s, g) :: rest, rfl, ?_, by simp, by simp, ?_⟩
        · rw [hvisit]
          rfl
        · intro x hx
          cases hx
          rw [hvisit]
          exact ⟨hs, e, hf, rfl⟩

/-- The slots of the selected gauges. -/
def chosen (selects : Slot → Bool) (gauges : List (Slot × Gauge)) : List Slot :=
  (slotsOf gauges).filter selects

/-- A gauge is chosen if it is selected. -/
theorem chosen_cons {x : Slot × Gauge} {rest : List (Slot × Gauge)} (h : selects x.1 = true) :
    chosen selects (x :: rest) = x.1 :: chosen selects rest := by
  unfold chosen slotsOf
  rw [List.map_cons, List.filter_cons_of_pos h]

/-- The slots in front of the cut come first. -/
theorem chosen_append (before after : List (Slot × Gauge)) :
    chosen selects (before ++ after) = chosen selects before ++ chosen selects after := by
  unfold chosen slotsOf
  rw [List.map_append, List.filter_append]

section Cuts

variable {gauges before after : List (Slot × Gauge)} {s : Slot} {g : Gauge}

/-- A chosen gauge in front of the cut is left as what it was made into. -/
theorem Cut.advanced (h : Cut selects f gauges before after) (hs : s ∈ chosen selects before) :
    ∃ g g', (s, g) ∈ gauges ∧ f g = .ok g' ∧ (s, g') ∈ (visit selects f gauges).gauges := by
  obtain ⟨hmem, hsel⟩ := List.mem_filter.1 hs
  obtain ⟨⟨t, g⟩, hx, rfl⟩ := List.mem_map.1 hmem
  obtain ⟨g', hg'⟩ := h.passable (t, g) hx hsel
  refine ⟨g, g', ?_, hg', ?_⟩
  · rw [h.row]
    exact List.mem_append_left _ hx
  · rw [h.left, ← passed_of_ok hsel hg']
    exact List.mem_append_left _ (List.mem_map_of_mem hx)

/-- A slot that is not chosen in front of the cut is left with its gauge. -/
theorem Cut.kept (h : Cut selects f gauges before after) (hs : s ∉ chosen selects before) :
    (s, g) ∈ (visit selects f gauges).gauges ↔ (s, g) ∈ gauges := by
  have hpassed : ∀ x ∈ before, x.1 = s → passed selects f x = x := by
    rintro x hx rfl
    refine passed_of_not (Bool.eq_false_iff.2 fun hsel => hs ?_)
    exact List.mem_filter.2 ⟨List.mem_map_of_mem hx, hsel⟩
  have hfront : (s, g) ∈ before.map (passed selects f) ↔ (s, g) ∈ before := by
    constructor
    · intro hg
      obtain ⟨x, hx, hxg⟩ := List.mem_map.1 hg
      have hfst : x.1 = s := by rw [← @passed_fst selects f x, hxg]
      rw [hpassed x hx hfst] at hxg
      exact hxg ▸ hx
    · intro hg
      rw [← hpassed (s, g) hg rfl]
      exact List.mem_map_of_mem hg
  rw [h.left, h.row, List.mem_append, List.mem_append, hfront]

/-- If nothing behind the cut is chosen, nothing failed. -/
theorem Cut.completed (h : Cut selects f gauges before after) (hnil : chosen selects after = []) :
    (visit selects f gauges).failure = none := by
  cases after with
  | nil => exact h.whole rfl
  | cons x rest =>
    rw [chosen_cons (h.stopped x rfl).1] at hnil
    cases hnil

/-- The first slot that is chosen behind the cut is the one that failed. -/
theorem Cut.failed (h : Cut selects f gauges before after)
    (hs : s ∈ (chosen selects after).head?) :
    ∃ g e, (s, g) ∈ gauges ∧ f g = .error e ∧ (visit selects f gauges).failure = some e := by
  cases after with
  | nil => cases hs
  | cons x rest =>
    obtain ⟨hsel, e, he, hfailure⟩ := h.stopped x rfl
    rw [chosen_cons hsel] at hs
    cases hs
    refine ⟨x.2, e, ?_, he, hfailure⟩
    rw [h.row]
    exact List.mem_append_right _ List.mem_cons_self

end Cuts

namespace CpuMeter

/-- What an action on slots in some order does to a meter: it gets through the
slots in front and stops at the first of those behind. -/
structure ActsInOrder (f : Gauge → Except Error Gauge) (m m' : CpuMeter)
    (failure : Option Error) (before after : List Slot) : Prop where
  /-- In every slot in front the action succeeded and left what it made. -/
  advanced : ∀ s ∈ before, ∃ g g', m.gauge? s = some g ∧ f g = .ok g' ∧ m'.gauge? s = some g'
  /-- All other slots are as they were. -/
  kept : ∀ s, s ∉ before → m'.gauge? s = m.gauge? s
  /-- With no slot behind, nothing failed. -/
  completed : after = [] → failure = none
  /-- In the first slot behind, the action fails with the failure of the whole. -/
  stopped : ∀ s ∈ after.head?, ∃ g e, m.gauge? s = some g ∧ f g = .error e ∧ failure = some e

/-- An action that did not fail leaves no slot behind. -/
theorem ActsInOrder.after_eq_nil {m m' : CpuMeter} {before after : List Slot}
    (h : ActsInOrder f m m' none before after) : after = [] := by
  cases after with
  | nil => rfl
  | cons s rest =>
    obtain ⟨g, e, -, -, hfailure⟩ := h.stopped s rfl
    cases hfailure

/-- An action on a meter goes through the selected slots in their order. -/
theorem act_in_order (m : CpuMeter) (selects : Slot → Bool) (f : Gauge → Except Error Gauge) :
    ∃ before after, before ++ after = chosen selects m.gauges ∧
      ActsInOrder f m (m.act selects f).2 (m.act selects f).1 before after := by
  obtain ⟨before, after, h⟩ := visit_cut selects f m.gauges
  refine ⟨chosen selects before, chosen selects after, ?_, ?_, ?_, h.completed, ?_⟩
  · rw [h.row, chosen_append]
  · intro s hs
    obtain ⟨g, g', hold, hg, hnew⟩ := h.advanced hs
    exact ⟨g, g', gauge?_eq_some.2 hold, hg, gauge?_eq_some.2 hnew⟩
  · intro s hs
    refine Option.ext fun g => ?_
    rw [gauge?_eq_some, gauge?_eq_some]
    exact h.kept hs
  · intro s hs
    obtain ⟨g, e, hold, he, hfailure⟩ := h.failed hs
    exact ⟨g, e, gauge?_eq_some.2 hold, he, hfailure⟩

/-- An action on all gauges that did not fail made every gauge what it is. -/
theorem made_of_act {m : CpuMeter}
    (h : (m.act (fun _ => true) f).1 = none) :
    ∀ x ∈ (m.act (fun _ => true) f).2.gauges, ∃ g, f g = .ok x.2 := by
  obtain ⟨before, after, horder, hacts⟩ := m.act_in_order (fun _ => true) f
  rw [h] at hacts
  rw [hacts.after_eq_nil, List.append_nil] at horder
  intro x hx
  have hslot : x.1 ∈ before := by
    rw [horder]
    refine List.mem_filter.2 ⟨?_, rfl⟩
    rw [← slotsOf_visit (fun _ => true) f m.gauges]
    exact List.mem_map_of_mem hx
  obtain ⟨g, g', -, hg', hnew⟩ := hacts.advanced x.1 hslot
  have hgauge : x.2 = g' := Option.some.inj ((gauge?_eq_some.2 hx).symm.trans hnew)
  exact ⟨g, hgauge ▸ hg'⟩

end CpuMeter

end EnergyMeter.Rapl
