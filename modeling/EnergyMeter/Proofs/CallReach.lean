import EnergyMeter.Proofs.CallFrames

/-!
# How far a call gets

A call of the CPU meter goes through the slots that it names, in reading order, up to the
first whose file holds no count. Meters with one layout see a call get as far and end alike,
and what the call makes of a gauge depends on that gauge alone. So the gauges of a meter live
side by side: a difference in one slot shows in no other, whatever is asked later.
-/

namespace EnergyMeter.Rapl

open Files

namespace CpuRead

variable {v : View} {a b : CpuMeter}

/-- The slots that a read gets through. -/
def reach (v : View) (m : CpuMeter) (r : CpuRead) : List Slot :=
  match m.unknown? r.query with
  | some _ => []
  | none => m.reach v r.query.selects

/-- The error with which a read ends. -/
def failure (v : View) (m : CpuMeter) (r : CpuRead) : Option Error :=
  match m.unknown? r.query with
  | some id => some (.unknownPackage id)
  | none => m.firstFault v r.query.selects

/-- Every read books the gauges that it gets through, up to the first fault, and ends with
it. -/
theorem perform_reach (v : View) (m : CpuMeter) (r : CpuRead) :
    GetsThrough v Gauge.book (r.reach v m) m (r.perform v m).2 ∧
      failureOf (r.perform v m).1 = r.failure v m := by
  have hanswer : failureOf (r.perform v m).1 = failureOf (m.read v r.query).1 := by
    rw [r.perform_eq_read]
    cases (m.read v r.query).1 <;> rfl
  rw [hanswer, r.perform_eq_read, reach, failure]
  cases hunknown : m.unknown? r.query with
  | some id =>
    rw [CpuMeter.read_of_unknown hunknown]
    exact ⟨⟨by simp, fun _ _ => rfl⟩, rfl⟩
  | none =>
    obtain ⟨hthrough, hfault⟩ := CpuMeter.act_reach (v := v) (fun _ => Gauge.read_eq_map) m
      r.query.selects
    rw [CpuMeter.read_eq_act hunknown]
    refine ⟨hthrough, ?_⟩
    rw [← hfault]
    cases (m.act r.query.selects (Gauge.read v)).1 <;> rfl

/-- A read gets as far on meters with one layout. -/
theorem reach_of_layout (h : a.layout = b.layout) (r : CpuRead) : r.reach v a = r.reach v b := by
  simp only [reach, CpuMeter.unknown?_of_layout h, CpuMeter.reach_of_layout h]

/-- A read ends alike on meters with one layout. -/
theorem failure_of_layout (h : a.layout = b.layout) (r : CpuRead) :
    r.failure v a = r.failure v b := by
  simp only [failure, CpuMeter.unknown?_of_layout h, CpuMeter.firstFault_of_layout h]

end CpuRead

namespace CpuCall

variable {v : View} {a b : CpuMeter} {s : Slot}

/-- What a call makes of a gauge whose file holds a value. -/
def make : CpuCall → Gauge → UInt64 → Gauge
  | .read _ => Gauge.book
  | .reset => Gauge.restart

/-- The slots that a call gets through. -/
def reach (v : View) (m : CpuMeter) : CpuCall → List Slot
  | .read r => r.reach v m
  | .reset => m.reach v fun _ => true

/-- Every call makes the gauges anew that it gets through, and no others. -/
theorem perform_reach (v : View) (m : CpuMeter) (call : CpuCall) :
    GetsThrough v call.make (call.reach v m) m (call.perform v m).2 := by
  cases call with
  | read r => exact (r.perform_reach v m).1
  | reset =>
    rw [m.perform_reset_snd v]
    exact (CpuMeter.act_reach (fun _ => Gauge.reset_eq_map) m fun _ => true).1

/-- A call gets as far on meters with one layout. -/
theorem reach_of_layout (h : a.layout = b.layout) (call : CpuCall) :
    call.reach v a = call.reach v b := by
  cases call with
  | read r => exact r.reach_of_layout h
  | reset => exact CpuMeter.reach_of_layout h _

/-- On meters with one layout and one gauge in a slot, a call leaves one gauge in it. -/
theorem gauge?_perform_congr (h : a.layout = b.layout) (hs : a.gauge? s = b.gauge? s)
    (call : CpuCall) : (call.perform v a).2.gauge? s = (call.perform v b).2.gauge? s := by
  have hthrough := call.perform_reach v a
  have hthrough' := call.perform_reach v b
  rw [call.reach_of_layout h] at hthrough
  by_cases hmem : s ∈ call.reach v b
  · obtain ⟨g, n, hg, hn, hleft⟩ := hthrough.made s hmem
    obtain ⟨g', n', hg', hn', hleft'⟩ := hthrough'.made s hmem
    rw [hs, hg'] at hg
    cases hg
    cases hn.symm.trans hn'
    rw [hleft, hleft']
  · rw [hthrough.kept s hmem, hthrough'.kept s hmem, hs]

/-- So do calls in a row, each at its moment. -/
theorem gauge?_runCalls_congr (h : a.layout = b.layout) (hs : a.gauge? s = b.gauge? s)
    (calls : List (View × CpuCall)) :
    (runCalls perform a calls).2.gauge? s = (runCalls perform b calls).2.gauge? s := by
  induction calls generalizing a b with
  | nil => exact hs
  | cons x rest ih =>
    obtain ⟨v, call⟩ := x
    have hlayout : (call.perform v a).2.layout = (call.perform v b).2.layout := by
      rw [CpuMeter.layout_perform, CpuMeter.layout_perform, h]
    exact ih hlayout (call.gauge?_perform_congr h hs)

end CpuCall

end EnergyMeter.Rapl
