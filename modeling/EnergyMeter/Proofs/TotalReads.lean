import EnergyMeter.Meters
import EnergyMeter.Proofs.RepeatedReads

/-!
# Reads of a meter's total

Whatever a machine measures with, a read of it goes through the gauges of one total: those of
the packages as wholes, or the one at the plug. The read gets through if all their files hold
counts. Each of these gauges then books the count of its file and no other gauge changes, so
that the total of any amounts behind the read is one of amounts in front of it.
-/

namespace EnergyMeter

open Files

/-- The place of a gauge among the meters. -/
inductive Place where
  /-- A slot of the meter of the packages. -/
  | slot (s : Rapl.Slot)
  /-- The meter at the plug. -/
  | plug

/-- The gauge at a place, if there is one. -/
def Meters.gauge? (m : Meters) : Place → Option Gauge
  | .slot s => m.cpus.bind (·.gauge? s)
  | .plug => m.plug.map (·.gauge)

/-- Whether the gauge at a place is part of the total of the meter of a kind. -/
def MeterKind.Counts : MeterKind → Place → Prop
  | .cpus, .slot s => s.component = .whole
  | .plug, .plug => True
  | _, _ => False

/-- The total of the meter of a kind: that of its gauges, added up package by package. -/
def Meters.total? (m : Meters) : MeterKind → Option Float
  | .cpus => m.cpus.map fun c => c.sumOf .whole c.packages
  | .plug => m.plug.map (·.gauge.total)

/-- Whether all gauges of a total can be read. -/
def Meters.TotalReadable (v : View) (kind : MeterKind) (m : Meters) : Prop :=
  ∀ place g, kind.Counts place → m.gauge? place = some g → g.Readable v

/-- The total of the meter of a kind, some amount taken for each of its gauges. -/
def Meters.totalOf? (amount : Gauge → Float) (m : Meters) : MeterKind → Option Float
  | .cpus => m.cpus.map fun c => Rapl.sumAcross amount c .whole
  | .plug => m.plug.map fun p => amount p.gauge

/-- What a read of a total that gets through does to the meters. -/
structure ReadsTotal (v : View) (kind : MeterKind) (m m' : Meters) (total : Float) : Prop where
  /-- Every gauge of the total books the count of its file. -/
  booked : ∀ place g, kind.Counts place → m.gauge? place = some g →
    ∃ n, Sensor.count v g.file = .ok n ∧ m'.gauge? place = some (g.book n)
  /-- All other gauges are as they were. -/
  kept : ∀ place, ¬ kind.Counts place → m'.gauge? place = m.gauge? place
  /-- No gauge appears. -/
  absent : ∀ place, m.gauge? place = none → m'.gauge? place = none
  /-- The answer is the total. -/
  total : m'.total? kind = some total
  /-- The same meters are there. -/
  has : m'.has = m.has

section

variable {m m' : Meters} {kind : MeterKind} {v : View} {x : Float}

/-- The meter of the packages reads the gauges of its packages as wholes, or fails at one of
them. -/
theorem reads_cpus (v : View) (c : Rapl.CpuMeter) (plug : Option Hwmon.PlugMeter) :
    (∃ total c', c.joules v = (.ok total, c') ∧
      Meters.TotalReadable v .cpus ⟨some c, plug⟩ ∧
      ReadsTotal v .cpus ⟨some c, plug⟩ ⟨some c', plug⟩ total) ∨
    ∃ e c', c.joules v = (.error e, c') ∧ ¬ Meters.TotalReadable v .cpus ⟨some c, plug⟩ := by
  have hread : c.joules v = c.readAmount v .whole none := rfl
  have hreadable : Meters.TotalReadable v .cpus ⟨some c, plug⟩ ↔
      (c.act (Rapl.Query.across .whole).selects (Gauge.read v)).1 = none := by
    rw [Rapl.CpuMeter.act_eq_none_iff]
    constructor
    · intro h s g hg hs
      exact Gauge.exists_read_iff.2 (h (.slot s) g (Rapl.Query.selects_across.1 hs) hg)
    · intro h place g hplace hg
      cases place with
      | plug => exact hplace.elim
      | slot s => exact Gauge.exists_read_iff.1 (h s g hg (Rapl.Query.selects_across.2 hplace))
  rw [hread, Rapl.CpuMeter.readAmount_eq_act, hreadable]
  cases hok : (c.act (Rapl.Query.across .whole).selects (Gauge.read v)).1 with
  | some e => exact Or.inr ⟨e, _, rfl, by simp⟩
  | none =>
    refine Or.inl ⟨_, _, rfl, rfl, ?_, ?_, ?_, rfl, ?_⟩
    · intro place g hplace hg
      cases place with
      | plug => exact hplace.elim
      | slot s =>
        obtain ⟨g', hread, hg'⟩ :=
          Rapl.CpuMeter.gauge?_act_of_selected hok (Rapl.Query.selects_across.2 hplace) hg
        obtain ⟨n, hn, rfl⟩ := Gauge.read_eq_ok.1 hread
        exact ⟨n, hn, hg'⟩
    · intro place hplace
      cases place with
      | plug => rfl
      | slot s =>
        exact Rapl.CpuMeter.gauge?_act_of_not_selected fun hs =>
          hplace (Rapl.Query.selects_across.1 hs)
    · intro place hg
      cases place with
      | plug => exact hg
      | slot s => exact Rapl.CpuMeter.gauge?_act_of_none hg
    · funext other
      cases other <;> rfl

/-- The meter at the plug reads its gauge, or fails. -/
theorem reads_plug (v : View) (cpus : Option Rapl.CpuMeter) (p : Hwmon.PlugMeter) :
    (∃ total p', p.joules v = (.ok total, p') ∧
      Meters.TotalReadable v .plug ⟨cpus, some p⟩ ∧
      ReadsTotal v .plug ⟨cpus, some p⟩ ⟨cpus, some p'⟩ total) ∨
    ∃ e p', p.joules v = (.error e, p') ∧ ¬ Meters.TotalReadable v .plug ⟨cpus, some p⟩ := by
  have hreadable : Meters.TotalReadable v .plug ⟨cpus, some p⟩ ↔ p.gauge.Readable v := by
    constructor
    · exact fun h => h .plug p.gauge trivial rfl
    · intro h place g hplace hg
      cases place with
      | slot s => exact hplace.elim
      | plug =>
        cases hg
        exact h
  rw [hreadable, ← Gauge.exists_read_iff, Hwmon.PlugMeter.joules]
  cases hread : p.gauge.read v with
  | error e => exact Or.inr ⟨e, p, rfl, by simp⟩
  | ok g =>
    obtain ⟨n, hn, rfl⟩ := Gauge.read_eq_ok.1 hread
    refine Or.inl ⟨_, _, rfl, ⟨_, rfl⟩, ?_, ?_, ?_, rfl, ?_⟩
    · intro place g hplace hg
      cases place with
      | slot s => exact hplace.elim
      | plug =>
        cases hg
        exact ⟨n, hn, rfl⟩
    · intro place hplace
      cases place with
      | slot s => rfl
      | plug => exact absurd trivial hplace
    · intro place hg
      cases place with
      | slot s => exact hg
      | plug => cases hg
    · funext other
      cases other <;> rfl

/-- A read of a meter that is there reads its total, or fails at one of its gauges. -/
theorem Meters.joules?_cases (m : Meters) (v : View) (hkind : m.has kind = true) :
    (∃ total m', m.joules? v kind = some (.ok total, m') ∧ m.TotalReadable v kind ∧
      ReadsTotal v kind m m' total) ∨
    ∃ e m', m.joules? v kind = some (.error e, m') ∧ ¬ m.TotalReadable v kind := by
  obtain ⟨cpus, plug⟩ := m
  cases kind with
  | cpus =>
    obtain ⟨c, rfl⟩ := Option.isSome_iff_exists.1 hkind
    have hjoules : Meters.joules? v ⟨some c, plug⟩ .cpus =
        some ((c.joules v).1, ⟨some (c.joules v).2, plug⟩) := rfl
    rw [hjoules]
    obtain ⟨total, c', hread, h⟩ | ⟨e, c', hread, h⟩ := reads_cpus v c plug
    · rw [hread]
      exact Or.inl ⟨total, _, rfl, h⟩
    · rw [hread]
      exact Or.inr ⟨e, _, rfl, h⟩
  | plug =>
    obtain ⟨p, rfl⟩ := Option.isSome_iff_exists.1 hkind
    have hjoules : Meters.joules? v ⟨cpus, some p⟩ .plug =
        some ((p.joules v).1, ⟨cpus, some (p.joules v).2⟩) := rfl
    rw [hjoules]
    obtain ⟨total, p', hread, h⟩ | ⟨e, p', hread, h⟩ := reads_plug v cpus p
    · rw [hread]
      exact Or.inl ⟨total, _, rfl, h⟩
    · rw [hread]
      exact Or.inr ⟨e, _, rfl, h⟩

/-- A read that gets through reads the total. -/
theorem readsTotal_of_joules? (hkind : m.has kind = true)
    (h : m.joules? v kind = some (.ok x, m')) :
    m.TotalReadable v kind ∧ ReadsTotal v kind m m' x := by
  obtain ⟨total, m'', hread, hall⟩ | ⟨e, m'', hread, -⟩ := m.joules?_cases v hkind
  · cases h.symm.trans hread
    exact hall
  · cases h.symm.trans hread

/-- A gauge that is there after a read of a total was there before it, over the same file. -/
theorem ReadsTotal.exists_before (h : ReadsTotal v kind m m' x) {place : Place} {g' : Gauge}
    (hplace : kind.Counts place) (hg' : m'.gauge? place = some g') :
    ∃ g, m.gauge? place = some g ∧ g'.file = g.file := by
  cases hg : m.gauge? place with
  | none =>
    rw [h.absent place hg] at hg'
    cases hg'
  | some g =>
    obtain ⟨n, -, hbooked⟩ := h.booked place g hplace hg
    cases hg'.symm.trans hbooked
    exact ⟨g, rfl, rfl⟩

/-- After a read of a total the same files decide whether it can be read. -/
theorem ReadsTotal.totalReadable_iff (h : ReadsTotal v kind m m' x) (later : View) :
    m'.TotalReadable later kind ↔ m.TotalReadable later kind := by
  constructor
  · intro hall place g hplace hg
    obtain ⟨n, -, hbooked⟩ := h.booked place g hplace hg
    exact hall place (g.book n) hplace hbooked
  · intro hall place g' hplace hg'
    obtain ⟨g, hg, hfile⟩ := h.exists_before hplace hg'
    unfold Gauge.Readable
    rw [hfile]
    exact hall place g hplace hg

/-- A total is that of the amounts that its gauges have counted. -/
theorem Meters.total?_eq_totalOf? (m : Meters) (kind : MeterKind) :
    m.total? kind = m.totalOf? (·.total) kind := by
  cases kind <;> rfl

/-- What is told of the gauges of a total after a read of it can be told of them before, if it
is so for every gauge that books the count of its file. -/
theorem ReadsTotal.map_gauge? {α : Type} {after before : Gauge → α}
    (h : ReadsTotal v kind m m' x)
    (hbook : ∀ g n, Sensor.count v g.file = .ok n → after (g.book n) = before g) (place : Place)
    (hplace : kind.Counts place) : (m'.gauge? place).map after = (m.gauge? place).map before := by
  cases hg : m.gauge? place with
  | none =>
    rw [h.absent place hg]
    rfl
  | some g =>
    obtain ⟨n, hn, hbooked⟩ := h.booked place g hplace hg
    rw [hbooked, Option.map_some, Option.map_some, hbook g n hn]

section Packages

variable {c c' : Rapl.CpuMeter} {plug plug' : Option Hwmon.PlugMeter}

/-- So it is for the packages as wholes. -/
theorem ReadsTotal.map_whole {α : Type} {after before : Gauge → α}
    (h : ReadsTotal v .cpus ⟨some c, plug⟩ ⟨some c', plug'⟩ x)
    (hbook : ∀ g n, Sensor.count v g.file = .ok n → after (g.book n) = before g) (id : UInt32) :
    (c'.gauge? ⟨id, .whole⟩).map after = (c.gauge? ⟨id, .whole⟩).map before :=
  h.map_gauge? hbook (.slot ⟨id, .whole⟩) rfl

/-- The same packages are there. -/
theorem ReadsTotal.packages_eq (h : ReadsTotal v .cpus ⟨some c, plug⟩ ⟨some c', plug'⟩ x) :
    c'.packages = c.packages := by
  refine List.Pairwise.eq_of_mem_iff c'.ascending_packages c.ascending_packages fun id => ?_
  have hunit : (c'.gauge? ⟨id, .whole⟩).map (fun _ => ()) =
      (c.gauge? ⟨id, .whole⟩).map fun _ => () := h.map_whole (fun _ _ _ => rfl) id
  have hfilled := congrArg Option.isSome hunit
  rw [Option.isSome_map, Option.isSome_map] at hfilled
  rw [Rapl.CpuMeter.mem_packages, Rapl.CpuMeter.mem_packages, hfilled]

/-- A sum over the packages after the read is one before it. -/
theorem ReadsTotal.sumAcross_eq {after before : Gauge → Float}
    (h : ReadsTotal v .cpus ⟨some c, plug⟩ ⟨some c', plug'⟩ x)
    (hbook : ∀ g n, Sensor.count v g.file = .ok n → after (g.book n) = before g) :
    Rapl.sumAcross after c' .whole = Rapl.sumAcross before c .whole := by
  unfold Rapl.sumAcross
  rw [h.packages_eq]
  refine List.foldl_ext _ _ _ fun sum id _ => ?_
  rw [h.map_whole hbook id]

end Packages

/-- The total of some amounts after a read is that of other amounts before it, if booking the
count of its file makes the one amount of a gauge out of the other. -/
theorem ReadsTotal.totalOf?_eq (h : ReadsTotal v kind m m' x) {after before : Gauge → Float}
    (hbook : ∀ g n, Sensor.count v g.file = .ok n → after (g.book n) = before g) :
    m'.totalOf? after kind = m.totalOf? before kind := by
  cases kind with
  | plug =>
    have hplug := h.map_gauge? hbook .plug trivial
    simpa only [Meters.totalOf?, Meters.gauge?, Option.map_map, Function.comp_def] using hplug
  | cpus =>
    obtain ⟨cpus, plug⟩ := m
    obtain ⟨cpus', plug'⟩ := m'
    have hhas : cpus'.isSome = cpus.isSome := congrFun h.has .cpus
    cases cpus with
    | none =>
      cases cpus' with
      | none => simp only [Meters.totalOf?, Option.map_none]
      | some c' => cases hhas
    | some c =>
      cases cpus' with
      | none => cases hhas
      | some c' => simp only [Meters.totalOf?, Option.map_some, h.sumAcross_eq hbook]

end

end EnergyMeter
