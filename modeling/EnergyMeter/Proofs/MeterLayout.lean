import EnergyMeter.Proofs.CpuReads
import EnergyMeter.Proofs.GaugeCalls

/-!
# What a meter is over

A gauge is over a file whose counter has some range, and a meter over the files and ranges in
its slots. Actions leave this layout as it is. How far an action gets, which makes gauges anew
from the counts of their files, and with which error it ends depends on the layout and the
files alone, not on what has been counted: it gets through the slots up to the first whose
file holds no count.
-/

namespace EnergyMeter

open Files

section

variable {Answer : Type} {answer : Except Error Answer} {e : Error}

/-- The error that an answer is, if it is one. -/
def failureOf : Except Error Answer → Option Error
  | .ok _ => none
  | .error e => some e

theorem failureOf_eq_none : failureOf answer = none ↔ ∃ value, answer = .ok value := by
  cases answer <;> simp [failureOf]

theorem failureOf_eq_some : failureOf answer = some e ↔ answer = .error e := by
  cases answer <;> simp [failureOf]

end

namespace Gauge

variable {v : View} {g g' : Gauge}

/-- What a gauge is over: its file and the range of the counter there. -/
def site (g : Gauge) : Path × Option UInt64 := (g.file, g.range)

/-- A read leaves a gauge over its site. -/
theorem site_read (h : g.read v = .ok g') : g'.site = g.site := by
  obtain ⟨n, -, rfl⟩ := read_eq_ok.1 h
  rfl

/-- A reset leaves a gauge over its site. -/
theorem site_reset (h : g.reset v = .ok g') : g'.site = g.site := by
  obtain ⟨n, -, rfl⟩ := reset_eq_ok.1 h
  rfl

/-- The error of a file that holds no count. -/
def faultOf (v : View) (file : Path) : Option Error :=
  match Sensor.count v file with
  | .ok _ => none
  | .error e => some e

/-- A read books the count of the file or fails as the file does. -/
theorem read_eq_map : g.read v = (Sensor.count v g.file).map g.book := by
  unfold read
  cases Sensor.count v g.file <;> rfl

/-- A reset starts again at the count of the file or fails as the file does. -/
theorem reset_eq_map : g.reset v = (Sensor.count v g.file).map g.restart := by
  unfold reset
  cases Sensor.count v g.file <;> rfl

end Gauge

namespace Rapl

variable {selects : Slot → Bool} {f : Gauge → Except Error Gauge}

/-- What a row of gauges is over, slot by slot. -/
def layoutOf (gauges : List (Slot × Gauge)) : List (Slot × Path × Option UInt64) :=
  gauges.map fun x => (x.1, x.2.site)

/-- A visit that leaves every gauge over its site leaves the row over its sites. -/
theorem layoutOf_visit (hf : ∀ g g', f g = .ok g' → g'.site = g.site)
    (gauges : List (Slot × Gauge)) :
    layoutOf (visit selects f gauges).gauges = layoutOf gauges := by
  obtain ⟨before, after, h⟩ := visit_cut selects f gauges
  have hpassed : ∀ x ∈ before, ((passed selects f x).1, (passed selects f x).2.site) =
      (x.1, x.2.site) := by
    rintro ⟨s, g⟩ hx
    cases hs : selects s with
    | false => rw [passed_of_not hs]
    | true =>
      obtain ⟨g', hg'⟩ := h.passable (s, g) hx hs
      rw [passed_of_ok hs hg', hf g g' hg']
  rw [h.left, h.row]
  unfold layoutOf
  rw [List.map_append, List.map_append, List.map_map]
  exact congrArg (· ++ _) (List.map_congr_left hpassed)

/-- What getting through some slots leaves of a meter, each gauge there made anew from the
count of its file. -/
structure GetsThrough (v : View) (make : Gauge → UInt64 → Gauge) (through : List Slot)
    (m m' : CpuMeter) : Prop where
  /-- The files in these slots hold counts, and the gauges are made from them. -/
  made : ∀ s ∈ through, ∃ g n, m.gauge? s = some g ∧ Sensor.count v g.file = .ok n ∧
    m'.gauge? s = some (make g n)
  /-- All other slots are as they were. -/
  kept : ∀ s, s ∉ through → m'.gauge? s = m.gauge? s

namespace CpuMeter

variable {v : View} {m a b : CpuMeter} {selects : Slot → Bool} {s : Slot}
  {f : Gauge → Except Error Gauge} {make : Gauge → UInt64 → Gauge}

/-- What a meter is over: its slots with their files and ranges. -/
def layout (m : CpuMeter) : List (Slot × Path × Option UInt64) := layoutOf m.gauges

/-- The error of the file in a slot, if it has a gauge whose file holds no count. -/
def faultAt (v : View) (m : CpuMeter) (s : Slot) : Option Error :=
  (m.gauge? s).bind fun g => Gauge.faultOf v g.file

/-- The slots that an action gets through: of those selected, in order, all up to the first
whose file holds no count. -/
def reach (v : View) (m : CpuMeter) (selects : Slot → Bool) : List Slot :=
  (chosen selects m.gauges).takeWhile fun s => (m.faultAt v s).isNone

/-- The error with which it ends, if one of these files holds no count. -/
def firstFault (v : View) (m : CpuMeter) (selects : Slot → Bool) : Option Error :=
  (chosen selects m.gauges).findSome? (m.faultAt v)

/-- Where an action that makes gauges from the counts of their files succeeds, there is no
fault. -/
theorem faultAt_of_made (hf : ∀ g, f g = (Sensor.count v g.file).map (make g)) {g g' : Gauge}
    (hg : m.gauge? s = some g) (hmade : f g = .ok g') :
    m.faultAt v s = none ∧ ∃ n, Sensor.count v g.file = .ok n ∧ g' = make g n := by
  rw [hf] at hmade
  rw [faultAt, hg, Option.bind_some, Gauge.faultOf]
  cases hn : Sensor.count v g.file with
  | ok n =>
    rw [hn] at hmade
    exact ⟨rfl, n, rfl, (Except.ok.inj hmade).symm⟩
  | error e =>
    rw [hn] at hmade
    cases hmade

/-- Where it fails, the fault is its error. -/
theorem faultAt_of_failed (hf : ∀ g, f g = (Sensor.count v g.file).map (make g)) {g : Gauge}
    {e : Error} (hg : m.gauge? s = some g) (hfailed : f g = .error e) :
    m.faultAt v s = some e := by
  rw [hf] at hfailed
  rw [faultAt, hg, Option.bind_some, Gauge.faultOf]
  cases hn : Sensor.count v g.file with
  | ok n =>
    rw [hn] at hfailed
    cases hfailed
  | error e' =>
    rw [hn] at hfailed
    cases hfailed
    rfl

/-- Such an action gets through the slots up to the first fault, and ends with it. -/
theorem act_reach (hf : ∀ g, f g = (Sensor.count v g.file).map (make g)) (m : CpuMeter)
    (selects : Slot → Bool) :
    GetsThrough v make (m.reach v selects) m (m.act selects f).2 ∧
      (m.act selects f).1 = m.firstFault v selects := by
  obtain ⟨before, after, horder, hacts⟩ := m.act_in_order selects f
  have hbefore : ∀ s ∈ before, m.faultAt v s = none := by
    intro s hs
    obtain ⟨g, g', hg, hmade, -⟩ := hacts.advanced s hs
    exact (faultAt_of_made hf hg hmade).1
  have hafter : ∀ s ∈ after.head?, ∃ e, m.faultAt v s = some e ∧ (m.act selects f).1 = some e := by
    intro s hs
    obtain ⟨g, e, hg, hfailed, hfailure⟩ := hacts.stopped s hs
    exact ⟨e, faultAt_of_failed hf hg hfailed, hfailure⟩
  -- The slots in front are those up to the first fault.
  have hreach : m.reach v selects = before := by
    have hpassed : ∀ s ∈ before, (m.faultAt v s).isNone := fun s hs => by
      rw [hbefore s hs]
      rfl
    rw [reach, ← horder, List.takeWhile_append_of_pos hpassed]
    cases after with
    | nil => exact List.append_nil _
    | cons s rest =>
      obtain ⟨e, hfault, -⟩ := hafter s rfl
      rw [List.takeWhile_cons, hfault]
      exact List.append_nil _
  constructor
  · rw [hreach]
    refine ⟨fun s hs => ?_, hacts.kept⟩
    obtain ⟨g, g', hg, hmade, hg'⟩ := hacts.advanced s hs
    obtain ⟨-, n, hn, rfl⟩ := faultAt_of_made hf hg hmade
    exact ⟨g, n, hg, hn, hg'⟩
  · rw [firstFault, ← horder, List.findSome?_append, List.findSome?_eq_none_iff.2 hbefore,
      Option.none_or]
    cases after with
    | nil => exact hacts.completed rfl
    | cons s rest =>
      obtain ⟨e, hfault, hfailure⟩ := hafter s rfl
      rw [List.findSome?_cons, hfault, hfailure]

/-- Meters with one layout have the same slots. -/
theorem slots_of_layout (h : a.layout = b.layout) : slotsOf a.gauges = slotsOf b.gauges := by
  have hfst : ∀ gauges, (layoutOf gauges).map Prod.fst = slotsOf gauges := by
    intro gauges
    unfold layoutOf
    rw [List.map_map]
    rfl
  rw [← hfst, ← hfst]
  exact congrArg _ h

/-- Meters with one layout have the same packages. -/
theorem packages_of_layout (h : a.layout = b.layout) : a.packages = b.packages := by
  rw [packages_eq_slots, packages_eq_slots, slots_of_layout h]

/-- Meters with one layout have gauges over the same sites in the same slots. -/
theorem site_of_layout (h : a.layout = b.layout) (s : Slot) :
    (a.gauge? s).map Gauge.site = (b.gauge? s).map Gauge.site := by
  have hlookup : ∀ gauges : List (Slot × Gauge),
      (gauges.lookup s).map Gauge.site = (layoutOf gauges).lookup s := by
    intro gauges
    induction gauges with
    | nil => rfl
    | cons x rest ih =>
      unfold layoutOf at ih ⊢
      rw [List.map_cons, List.lookup_cons, List.lookup_cons, ← ih]
      cases s == x.1 <;> rfl
  have hlayout : layoutOf a.gauges = layoutOf b.gauges := h
  unfold CpuMeter.gauge?
  rw [hlookup, hlookup, hlayout]

/-- Meters with one layout have the same faults. -/
theorem faultAt_of_layout (h : a.layout = b.layout) : a.faultAt v = b.faultAt v := by
  have hsite : ∀ (m : CpuMeter) s, m.faultAt v s =
      ((m.gauge? s).map Gauge.site).bind fun x => Gauge.faultOf v x.1 := by
    intro m s
    unfold faultAt
    cases m.gauge? s <;> rfl
  funext s
  rw [hsite, hsite, site_of_layout h s]

/-- An action gets as far on meters with one layout. -/
theorem reach_of_layout (h : a.layout = b.layout) (selects : Slot → Bool) :
    a.reach v selects = b.reach v selects := by
  unfold reach chosen
  rw [slots_of_layout h, faultAt_of_layout h]

/-- It ends alike on meters with one layout. -/
theorem firstFault_of_layout (h : a.layout = b.layout) (selects : Slot → Bool) :
    a.firstFault v selects = b.firstFault v selects := by
  unfold firstFault chosen
  rw [slots_of_layout h, faultAt_of_layout h]

/-- A query names a package that neither has or that both have. -/
theorem unknown?_of_layout (h : a.layout = b.layout) (q : Query) :
    a.unknown? q = b.unknown? q := by
  unfold unknown?
  rw [packages_of_layout h]

end CpuMeter

end Rapl

end EnergyMeter
