import EnergyMeter.Hwmon.PlugMeter
import EnergyMeter.Proofs.MeterLayout
import EnergyMeter.Rapl.Detection

/-!
# Starting again

A reset that gets through leaves a meter as if it had just been found: every
gauge stands at the value of its file with nothing counted. What a meter is over
is its layout, the files and ranges of its gauges; no call changes it. A meter
of fresh gauges is determined by its layout and the files, so nothing that
happened before the reset can show in any later answer.
-/

namespace EnergyMeter

open Files

/-- Makes calls one after the other, each at the file system of its moment. Gives
the answers and the state behind the last call. -/
def runCalls {State Call Answer : Type} (perform : View → State → Call → Answer × State)
    (s : State) : List (View × Call) → List Answer × State
  | [] => ([], s)
  | (v, call) :: rest =>
    let first := perform v s call
    let later := runCalls perform first.2 rest
    (first.1 :: later.1, later.2)

/-- That a reset which gets through leaves nothing of the past. Two meters with
one layout, whatever was asked of them before, are the same after a reset at one
moment, and the same as a meter with that layout which is found at that moment.
So the three give the same answers to all later calls. -/
def ForgetsPast {Meter Call Answer Layout : Type}
    (perform : View → Meter → Call → Except Error Answer × Meter) (reset : Call)
    (layout : Meter → Layout)
    (detect : View → Path → Except Error (Option Meter)) : Prop :=
  ∀ (a b : Meter) (pastA pastB : List (View × Call)) (v : View) (done : Answer),
    layout a = layout b →
    (perform v (runCalls perform a pastA).2 reset).1 = .ok done →
    let startedA := perform v (runCalls perform a pastA).2 reset
    let startedB := perform v (runCalls perform b pastB).2 reset
    startedB = startedA ∧
    (∀ later, runCalls perform startedB.2 later = runCalls perform startedA.2 later) ∧
    ∀ root found, detect v root = .ok (some found) → layout found = layout a →
      startedA.2 = found ∧
      ∀ later, (runCalls perform startedA.2 later).1 = (runCalls perform found later).1

section

variable {Meter Call Answer Layout : Type}
  {perform : View → Meter → Call → Except Error Answer × Meter} {layout : Meter → Layout}

/-- Calls that keep the layout one by one keep it in a row. -/
theorem layout_runCalls (hkept : ∀ v m call, layout (perform v m call).2 = layout m) (m : Meter)
    (calls : List (View × Call)) : layout (runCalls perform m calls).2 = layout m := by
  induction calls generalizing m with
  | nil => rfl
  | cons x rest ih =>
    obtain ⟨v, call⟩ := x
    exact (ih (perform v m call).2).trans (hkept v m call)

/-- A reset leaves nothing of the past if it leaves the meter fresh, and if a
fresh meter is determined by its layout. -/
theorem forgetsPast_of_fresh {reset : Call} {detect : View → Path → Except Error (Option Meter)}
    {Fresh : View → Meter → Prop}
    (hkept : ∀ v m call, layout (perform v m call).2 = layout m)
    (hanswer : ∀ v a b, layout a = layout b → (perform v a reset).1 = (perform v b reset).1)
    (hreset : ∀ v m done, (perform v m reset).1 = .ok done → Fresh v (perform v m reset).2)
    (hdetect : ∀ v root m, detect v root = .ok (some m) → Fresh v m)
    (hunique : ∀ v a b, Fresh v a → Fresh v b → layout a = layout b → a = b) :
    ForgetsPast perform reset layout detect := by
  intro a b pastA pastB v done hab hok startedA startedB
  have hlayouts : layout (runCalls perform b pastB).2 = layout (runCalls perform a pastA).2 := by
    rw [layout_runCalls hkept, layout_runCalls hkept, hab]
  have hanswers : startedB.1 = startedA.1 := hanswer v _ _ hlayouts
  have hfreshA : Fresh v startedA.2 := hreset v _ done hok
  have hfreshB : Fresh v startedB.2 := hreset v _ done (hanswers.trans hok)
  have hlayoutA : layout startedA.2 = layout a := by
    rw [hkept, layout_runCalls hkept]
  have hlayoutB : layout startedB.2 = layout b := by
    rw [hkept, layout_runCalls hkept]
  have hstates : startedB.2 = startedA.2 :=
    hunique v _ _ hfreshB hfreshA (by rw [hlayoutA, hlayoutB, hab])
  refine ⟨Prod.ext hanswers hstates, fun later => by rw [hstates], ?_⟩
  intro root found hfound hlayout
  have hsame : startedA.2 = found :=
    hunique v _ _ hfreshA (hdetect v root found hfound) (by rw [hlayoutA, hlayout])
  exact ⟨hsame, fun later => by rw [hsame]⟩

end

namespace Gauge

variable {v : View} {a b g g' : Gauge} {e : Error}

/-- Whether a gauge is as if it had just been started. -/
def Fresh (v : View) (g : Gauge) : Prop := start v g.file g.range = .ok g

/-- A gauge that was started is fresh. -/
theorem fresh_start {file : Path} {range : Option UInt64} (h : start v file range = .ok g) :
    g.Fresh v := by
  obtain ⟨n, -, hg⟩ := start_eq_ok.1 h
  have hfile : g.file = file := by rw [hg]
  have hrange : g.range = range := by rw [hg]
  unfold Fresh
  rw [hfile, hrange, h]

/-- A gauge that was started again is fresh. -/
theorem fresh_reset (h : g.reset v = .ok g') : g'.Fresh v :=
  fresh_start (reset_eq_start.symm.trans h)

/-- Fresh gauges over one site are the same. -/
theorem eq_of_fresh (ha : a.Fresh v) (hb : b.Fresh v) (h : a.site = b.site) : a = b := by
  obtain ⟨hfile, hrange⟩ := Prod.mk.injEq .. ▸ h
  unfold Fresh at ha hb
  rw [hfile, hrange, hb] at ha
  exact (Except.ok.inj ha).symm

end Gauge

namespace Rapl

variable {v : View}

/-- Rows of fresh gauges over the same sites are the same. -/
theorem eq_of_layoutOf {a b : List (Slot × Gauge)} (ha : ∀ x ∈ a, x.2.Fresh v)
    (hb : ∀ x ∈ b, x.2.Fresh v) (h : layoutOf a = layoutOf b) : a = b := by
  induction a generalizing b with
  | nil => exact (List.map_eq_nil_iff.1 h.symm).symm
  | cons x rest ih =>
    cases b with
    | nil => cases h
    | cons y rest' =>
      obtain ⟨hhead, htail⟩ := List.cons.inj h
      obtain ⟨hslot, hsite⟩ := Prod.mk.inj hhead
      have hgauge := Gauge.eq_of_fresh (ha x List.mem_cons_self) (hb y List.mem_cons_self) hsite
      have hrest := ih (fun z hz => ha z (List.mem_cons_of_mem _ hz))
        (fun z hz => hb z (List.mem_cons_of_mem _ hz)) htail
      rw [Prod.ext hslot hgauge, hrest]

/-- A call of the CPU meter. -/
inductive CpuCall where
  /-- One of the reads. -/
  | read (r : CpuRead)
  /-- The reset. -/
  | reset
  deriving DecidableEq, Repr

/-- Carries out a call. -/
def CpuCall.perform (v : View) (m : CpuMeter) : CpuCall → Except Error Reply × CpuMeter
  | .read r => r.perform v m
  | .reset =>
    let answer := m.reset v
    (answer.1.map fun _ => .restarted, answer.2)

namespace CpuMeter

/-- Whether a meter is as if it had just been found. -/
def Fresh (v : View) (m : CpuMeter) : Prop := ∀ x ∈ m.gauges, x.2.Fresh v

/-- Fresh meters with one layout are the same. -/
theorem eq_of_fresh {a b : CpuMeter} (ha : a.Fresh v) (hb : b.Fresh v)
    (h : a.layout = b.layout) : a = b := by
  obtain ⟨gauges, proper⟩ := a
  obtain ⟨gauges', proper'⟩ := b
  have hgauges : gauges = gauges' := eq_of_layoutOf ha hb h
  subst hgauges
  rfl

/-- A read keeps the layout. -/
theorem layout_read (v : View) (q : Query) (m : CpuMeter) :
    (m.read v q).2.layout = m.layout := by
  cases hq : m.unknown? q with
  | some id => rw [read_of_unknown hq]
  | none =>
    rw [read_eq_act hq]
    exact layoutOf_visit (fun _ _ h => Gauge.site_read h) m.gauges

/-- The reset ends with the meter that the visit of all gauges leaves. -/
theorem reset_eq_act (v : View) (m : CpuMeter) :
    m.reset v = ((match (m.act (fun _ => true) (Gauge.reset v)).1 with
      | some e => .error e
      | none => .ok ()), (m.act (fun _ => true) (Gauge.reset v)).2) := by
  unfold reset
  cases h : m.act (fun _ => true) (Gauge.reset v) with
  | mk failure m' => cases failure <;> rfl

/-- A read as a call leaves the meter that the read of its query leaves. -/
theorem perform_read_snd (v : View) (m : CpuMeter) (r : CpuRead) :
    (CpuCall.perform v m (.read r)).2 = (m.read v r.query).2 :=
  congrArg Prod.snd (r.perform_eq_read v m)

/-- A reset as a call leaves the meter that the visit of all gauges leaves. -/
theorem perform_reset_snd (v : View) (m : CpuMeter) :
    (CpuCall.perform v m .reset).2 = (m.act (fun _ => true) (Gauge.reset v)).2 :=
  congrArg Prod.snd (m.reset_eq_act v)

/-- Every call keeps the layout. -/
theorem layout_perform (v : View) (m : CpuMeter) (call : CpuCall) :
    (call.perform v m).2.layout = m.layout := by
  cases call with
  | read r => rw [perform_read_snd, layout_read]
  | reset =>
    rw [perform_reset_snd]
    exact layoutOf_visit (fun _ _ h => Gauge.site_reset h) m.gauges

/-- What a reset answers is settled by the layout and the files. -/
theorem reset_answer {a b : CpuMeter} (v : View) (h : a.layout = b.layout) :
    (CpuCall.perform v a .reset).1 = (CpuCall.perform v b .reset).1 := by
  have hfailure : (a.act (fun _ => true) (Gauge.reset v)).1 =
      (b.act (fun _ => true) (Gauge.reset v)).1 := by
    rw [(act_reach (fun _ => Gauge.reset_eq_map) a _).2,
      (act_reach (fun _ => Gauge.reset_eq_map) b _).2, firstFault_of_layout h]
  simp only [CpuCall.perform, reset_eq_act, hfailure]

/-- A reset that gets through leaves the meter fresh. -/
theorem fresh_reset {done : Reply} {m : CpuMeter}
    (h : (CpuCall.perform v m .reset).1 = .ok done) :
    (CpuCall.perform v m .reset).2.Fresh v := by
  have hnone : (m.act (fun _ => true) (Gauge.reset v)).1 = none := by
    simp only [CpuCall.perform, reset_eq_act] at h
    cases hf : (m.act (fun _ => true) (Gauge.reset v)).1 with
    | none => rfl
    | some e =>
      rw [hf] at h
      cases h
  rw [perform_reset_snd]
  intro x hx
  obtain ⟨g, hg⟩ := made_of_act hnone x hx
  exact Gauge.fresh_reset hg

end CpuMeter

/-- The gauge of a zone is fresh. -/
theorem fresh_startZone {zone : Path} {g : Gauge} (h : startZone v zone = .ok g) : g.Fresh v :=
  Gauge.fresh_start h

/-- The gauge of a zone inside a package is fresh. -/
theorem fresh_examine {zone : Path} {c : Component} {g : Gauge}
    (h : (examine v zone).gauge? = some (c, g)) : g.Fresh v := by
  unfold examine at h
  split at h
  · cases h
  · split at h
    · cases h
    · split at h
      · rename_i hstart
        cases h
        exact fresh_startZone hstart
      · cases h

/-- The last gauge of a component is one of the gauges that were found. -/
theorem fresh_lastOf {zones : List Path} {c : Component} {g : Gauge}
    (h : lastOf c (zones.map (examine v)) = some g) : g.Fresh v := by
  unfold lastOf at h
  obtain ⟨x, hx, rfl⟩ := Option.map_eq_some_iff.1 h
  have hmem := List.mem_of_mem_filter (List.mem_of_getLast? hx)
  obtain ⟨z, hz, hzx⟩ := List.mem_filterMap.1 hmem
  obtain ⟨zone, -, rfl⟩ := List.mem_map.1 hz
  exact fresh_examine hzx

/-- The gauges of a package that was looked at are fresh. -/
theorem fresh_lookAt {root zone : Path} {names : List String} {id : UInt32}
    {x : Slot × Gauge} (hx : x ∈ (lookAt v root names zone id).gauges) : x.2.Fresh v := by
  have hslotted : ∀ (c : Component) (zones : List Path),
      x ∈ slotted id c (lastOf c (zones.map (examine v))) → x.2.Fresh v := by
    intro c zones h
    unfold slotted at h
    obtain ⟨g, hg, rfl⟩ := Option.map_eq_some_iff.1 (Option.mem_toList.1 h)
    exact fresh_lastOf hg
  simp only [lookAt] at hx
  split at hx
  · split at hx
    · cases hx
    · rename_i whole hwhole
      simp only [packageGauges, List.mem_cons, List.mem_append] at hx
      rcases hx with rfl | (hx | hx) | hx
      · exact fresh_startZone hwhole
      · exact hslotted _ _ hx
      · exact hslotted _ _ hx
      · exact hslotted _ _ hx
  · cases hx

/-- A meter that is found is fresh. -/
theorem CpuMeter.fresh_detect {root : Path} {m : CpuMeter}
    (h : (CpuMeter.detect v root).value = .ok (some m)) : m.Fresh v := by
  intro x hx
  unfold CpuMeter.detect at h
  split at h
  · cases h
  · cases h
  · rename_i names hnames
    simp only at h
    split at h
    · cases h
    · cases h
      obtain ⟨p, hp, hxp⟩ := List.mem_flatMap.1 hx
      obtain ⟨id, -, rfl⟩ := List.mem_map.1 hp
      exact fresh_lookAt hxp

end Rapl

namespace Hwmon

variable {v : View} {m : PlugMeter}

/-- A call of the meter at the plug. -/
inductive PlugCall where
  /-- The read. -/
  | read
  /-- The reset. -/
  | reset
  deriving DecidableEq, Repr

/-- Carries out a call. -/
def PlugCall.perform (v : View) (m : PlugMeter) : PlugCall → Except Error Reply × PlugMeter
  | .read =>
    let answer := m.joules v
    (answer.1.map .joules, answer.2)
  | .reset =>
    let answer := m.reset v
    (answer.1.map fun _ => .restarted, answer.2)

namespace PlugMeter

/-- What a meter is over: what it is called, its file and its range. -/
def layout (m : PlugMeter) : String × Path × Option UInt64 := (m.label, m.gauge.site)

/-- Whether a meter is as if it had just been found. -/
def Fresh (v : View) (m : PlugMeter) : Prop := m.gauge.Fresh v

/-- Fresh meters with one layout are the same. -/
theorem eq_of_fresh {a b : PlugMeter} (ha : a.Fresh v) (hb : b.Fresh v)
    (h : a.layout = b.layout) : a = b := by
  obtain ⟨label, gauge⟩ := a
  obtain ⟨label', gauge'⟩ := b
  obtain ⟨hlabel, hsite⟩ := Prod.mk.inj h
  have hgauge : gauge = gauge' := Gauge.eq_of_fresh ha hb hsite
  subst hlabel hgauge
  rfl

/-- Every call keeps the layout. -/
theorem layout_perform (v : View) (m : PlugMeter) (call : PlugCall) :
    (call.perform v m).2.layout = m.layout := by
  cases call with
  | read =>
    simp only [PlugCall.perform, joules]
    cases h : m.gauge.read v with
    | ok g => simp only [layout, Gauge.site_read h]
    | error e => rfl
  | reset =>
    simp only [PlugCall.perform, reset]
    cases h : m.gauge.reset v with
    | ok g => simp only [layout, Gauge.site_reset h]
    | error e => rfl

/-- What a reset answers is settled by the layout and the file. -/
theorem reset_answer {a b : PlugMeter} (v : View) (h : a.layout = b.layout) :
    (PlugCall.perform v a .reset).1 = (PlugCall.perform v b .reset).1 := by
  obtain ⟨-, hsite⟩ := Prod.mk.inj h
  obtain ⟨hfile, hrange⟩ := Prod.mk.inj hsite
  have hreset : a.gauge.reset v = b.gauge.reset v := by
    rw [Gauge.reset_eq_start, Gauge.reset_eq_start, hfile, hrange]
  simp only [PlugCall.perform, reset, hreset]
  cases b.gauge.reset v <;> rfl

/-- A reset that gets through leaves the meter fresh. -/
theorem fresh_reset {done : Reply} (h : (PlugCall.perform v m .reset).1 = .ok done) :
    (PlugCall.perform v m .reset).2.Fresh v := by
  simp only [PlugCall.perform, reset] at h ⊢
  cases hr : m.gauge.reset v with
  | ok g => exact Gauge.fresh_reset hr
  | error e =>
    rw [hr] at h
    cases h

/-- The first usable input is started where it is found. -/
theorem fresh_firstUsable {inputs : List Input} (h : (firstUsable v inputs).1 = some m) :
    m.Fresh v := by
  induction inputs with
  | nil => cases h
  | cons i rest ih =>
    rw [firstUsable] at h
    split at h
    · rename_i g hg
      cases h
      exact Gauge.fresh_start hg
    · exact ih h

/-- A meter that is found is fresh. -/
theorem fresh_detect {root : Path} (h : (PlugMeter.detect v root).value = .ok (some m)) :
    m.Fresh v := by
  unfold PlugMeter.detect at h
  split at h
  · cases h
  · cases h
  · exact fresh_firstUsable (Except.ok.inj h)

end PlugMeter

end Hwmon

/-- After a reset that gets through, neither meter can be told from one that has
just been found: nothing of what was asked before is left. -/
theorem reset_forgets_past :
    ForgetsPast Rapl.CpuCall.perform .reset Rapl.CpuMeter.layout
      (fun v root => (Rapl.CpuMeter.detect v root).value) ∧
    ForgetsPast Hwmon.PlugCall.perform .reset Hwmon.PlugMeter.layout
      (fun v root => (Hwmon.PlugMeter.detect v root).value) := by
  constructor
  · exact forgetsPast_of_fresh Rapl.CpuMeter.layout_perform
      (fun v _ _ h => Rapl.CpuMeter.reset_answer v h)
      (fun _ _ _ h => Rapl.CpuMeter.fresh_reset h)
      (fun _ _ _ h => Rapl.CpuMeter.fresh_detect h)
      (fun _ _ _ ha hb h => Rapl.CpuMeter.eq_of_fresh ha hb h)
  · exact forgetsPast_of_fresh Hwmon.PlugMeter.layout_perform
      (fun v _ _ h => Hwmon.PlugMeter.reset_answer v h)
      (fun _ _ _ h => Hwmon.PlugMeter.fresh_reset h)
      (fun _ _ _ h => Hwmon.PlugMeter.fresh_detect h)
      (fun _ _ _ ha hb h => Hwmon.PlugMeter.eq_of_fresh ha hb h)

/-- A package whose zone is found, and whose counter stands at a value. -/
def Files.View.packageAt (value : String) : View :=
  .listing ⟨"zones"⟩ ["intel-rapl:0"]
    [("zones/intel-rapl:0/name", "package-0"), ("zones/intel-rapl:0/energy_uj", value)]

/-- A chip with one energy input that stands at a value. -/
def Files.View.inputAt (value : String) : View :=
  .listing ⟨"chips"⟩ ["hwmon0"]
    [("chips/hwmon0/name", "meter"), ("chips/hwmon0/energy1_input", value)]

/-- Meters that were found, read and started again at the value at which they
were found are the meters that were found. -/
theorem reset_forgets_past_of_read :
    (∃ m, (Rapl.CpuMeter.detect (.packageAt "100") ⟨"zones"⟩).value = .ok (some m) ∧
      (Rapl.CpuCall.perform (.packageAt "100")
        (runCalls Rapl.CpuCall.perform m [(.packageAt "170", .read .joules)]).2 .reset).2 = m) ∧
    ∃ m, (Hwmon.PlugMeter.detect (.inputAt "100") ⟨"chips"⟩).value = .ok (some m) ∧
      (Hwmon.PlugCall.perform (.inputAt "100")
        (runCalls Hwmon.PlugCall.perform m [(.inputAt "170", .read)]).2 .reset).2 = m := by
  obtain ⟨hcpu, hplug⟩ := reset_forgets_past
  have hinputs : Hwmon.allInputs (.inputAt "100") ⟨"chips"⟩ ["hwmon0"] =
      Hwmon.inputsOf (.inputAt "100") ⟨"chips/hwmon0"⟩ := by
    simp [Hwmon.allInputs]
    rfl
  have hfound : (Hwmon.PlugMeter.detect (.inputAt "100") ⟨"chips"⟩).value = .ok (some
      ⟨"meter energy1", ⟨⟨"chips/hwmon0/energy1_input"⟩, none, 100, 0, signBit_zero⟩⟩) := by
    show Except.ok (Hwmon.firstUsable _ (Hwmon.allInputs _ _ ["hwmon0"])).1 = _
    rw [hinputs]
    rfl
  constructor
  · refine ⟨_, rfl, ?_⟩
    exact ((hcpu _ _ _ [] _ .restarted rfl rfl).2.2 ⟨"zones"⟩ _ rfl rfl).1
  · refine ⟨_, hfound, ?_⟩
    exact ((hplug _ _ _ [] _ .restarted rfl rfl).2.2 ⟨"chips"⟩ _ hfound rfl).1
end EnergyMeter
