import EnergyMeter.Proofs.InnerZones
import EnergyMeter.Proofs.FreshStart
import EnergyMeter.Proofs.CpuReads

/-!
# Meters over zones that were moved

Two file systems show the same zones, some of them in different places. Gauges over the same
zones are twins: they differ in the paths of their files alone. Reads and resets keep meters
twins. They answer alike, and where one of them fails at a zone the other one fails there too,
for the same reason.
-/

namespace EnergyMeter.Rapl

open Files

/-- Zones below a directory, those of some packages to be moved into the zone of their package.
-/
structure ZoneMove where
  /-- The directory of zones. -/
  root : Path
  /-- The name of the package's zone that the zones of a package are moved into. -/
  home : UInt32 → Option String

namespace ZoneMove

/-- The zone that a zone of this name is moved into; none if it stays. -/
def home? (k : ZoneMove) (name : String) : Option String :=
  match ZoneName.parse? name with
  | some (.inner id _) => k.home id
  | _ => none

/-- The path of a zone before the move. -/
def before (k : ZoneMove) (zone : String) : Path := k.root.join zone

/-- The path of a zone after the move. -/
def after (k : ZoneMove) (zone : String) : Path :=
  match k.home? zone with
  | some package => (k.root.join package).join zone
  | none => k.root.join zone

end ZoneMove

/-- The files of a zone. -/
def zoneFiles : List String := ["name", "energy_uj", "max_energy_range_uj"]

/-- That zones read alike, each from its place. -/
def ReadAlike (k : ZoneMove) (zones : List String) (v v' : View) : Prop :=
  ∀ z ∈ zones, ∀ file ∈ zoneFiles,
    v'.read ((k.after z).join file) = v.read ((k.before z).join file)

/-- Gauges over the same zone, each over its file. -/
def TwinGauge (k : ZoneMove) (zones : List String) (g g' : Gauge) : Prop :=
  ∃ z ∈ zones, g.file = (k.before z).join "energy_uj" ∧
    g' = { g with file := (k.after z).join "energy_uj" }

/-- Errors for the same reason, each naming its file. -/
inductive TwinError (k : ZoneMove) (zones : List String) : Error → Error → Prop
  /-- An error that names no file of a zone. -/
  | same (e : Error) : TwinError k zones e e
  /-- The file of a zone holds no number. -/
  | parse {z : String} (hz : z ∈ zones) (value : String) :
      TwinError k zones (.parse ((k.before z).join "energy_uj") value)
        (.parse ((k.after z).join "energy_uj") value)
  /-- The file of a zone may not be read. -/
  | denied {z : String} (hz : z ∈ zones) :
      TwinError k zones (Sensor.denied ((k.before z).join "energy_uj"))
        (Sensor.denied ((k.after z).join "energy_uj"))

/-- Answers that are the same, or errors for the same reason. -/
inductive TwinAnswer (k : ZoneMove) (zones : List String) {α : Type} :
    Except Error α → Except Error α → Prop
  /-- The same value. -/
  | ok (value : α) : TwinAnswer k zones (.ok value) (.ok value)
  /-- Errors for the same reason. -/
  | error {e e' : Error} (h : TwinError k zones e e') : TwinAnswer k zones (.error e) (.error e')

/-- Rows of gauges in the same slots, over the same zones. -/
def TwinRows (k : ZoneMove) (zones : List String) :
    List (Slot × Gauge) → List (Slot × Gauge) → Prop :=
  List.Forall₂ fun x x' => x'.1 = x.1 ∧ TwinGauge k zones x.2 x'.2

section Sensors

variable {v v' : View} {p p' : Path}

/-- Files that read alike hold the same text, or fail alike. -/
theorem text_alike (h : v'.read p' = v.read p) :
    (∃ s, Sensor.text v p = .ok s ∧ Sensor.text v' p' = .ok s) ∨
      ∃ fault, Sensor.text v p = .error (Sensor.errorOf p fault) ∧
        Sensor.text v' p' = .error (Sensor.errorOf p' fault) := by
  have htext : v'.text p' = v.text p := by rw [View.text, View.text, h]
  unfold Sensor.text
  rw [htext]
  cases v.text p with
  | ok s => exact Or.inl ⟨_, rfl, rfl⟩
  | error fault => exact Or.inr ⟨fault, rfl, rfl⟩

/-- Files that read alike hold the same texts. -/
theorem text_eq_ok_iff (h : v'.read p' = v.read p) {s : String} :
    Sensor.text v' p' = .ok s ↔ Sensor.text v p = .ok s := by
  rcases text_alike h with ⟨s', hs, hs'⟩ | ⟨fault, hs, hs'⟩
  · rw [hs, hs']
  · rw [hs, hs']
    simp

/-- Files that read alike hold the same count, or fail alike. -/
theorem count_alike (h : v'.read p' = v.read p) :
    (∃ n, Sensor.count v p = .ok n ∧ Sensor.count v' p' = .ok n) ∨
    (∃ s, Sensor.count v p = .error (.parse p s) ∧ Sensor.count v' p' = .error (.parse p' s)) ∨
      ∃ fault, Sensor.count v p = .error (Sensor.errorOf p fault) ∧
        Sensor.count v' p' = .error (Sensor.errorOf p' fault) := by
  unfold Sensor.count
  rcases text_alike h with ⟨s, hs, hs'⟩ | ⟨fault, hs, hs'⟩
  · rw [hs, hs']
    simp only
    cases Text.Numeral.word64? s with
    | some n => exact Or.inl ⟨n, rfl, rfl⟩
    | none => exact Or.inr (Or.inl ⟨s, rfl, rfl⟩)
  · rw [hs, hs']
    exact Or.inr (Or.inr ⟨fault, rfl, rfl⟩)

/-- Files that read alike hold the same counts. -/
theorem toOption_count (h : v'.read p' = v.read p) :
    (Sensor.count v' p').toOption = (Sensor.count v p).toOption := by
  rcases count_alike h with ⟨n, hn, hn'⟩ | ⟨s, hs, hs'⟩ | ⟨fault, hs, hs'⟩
  · rw [hn, hn']
  · rw [hs, hs']
    rfl
  · rw [hs, hs']
    rfl

/-- A count is held by both files or by none. -/
theorem count_eq_ok_iff (h : v'.read p' = v.read p) {n : UInt64} :
    Sensor.count v' p' = .ok n ↔ Sensor.count v p = .ok n := by
  rcases count_alike h with ⟨m, hm, hm'⟩ | ⟨s, hs, hs'⟩ | ⟨fault, hs, hs'⟩
  · rw [hm, hm']
  · rw [hs, hs']
    simp
  · rw [hs, hs']
    simp

end Sensors

section Twins

variable {k : ZoneMove} {zones : List String} {v v' : View} {g g' : Gauge}
  {gauges gauges' : List (Slot × Gauge)} {m m' : CpuMeter} {selects : Slot → Bool}

/-- Twin answers are one value, or two errors. -/
theorem TwinAnswer.value_or_error {α : Type} {a a' : Except Error α} (h : TwinAnswer k zones a a') :
    (∃ value, a = .ok value ∧ a' = .ok value) ∨
      ∃ e e', a = .error e ∧ a' = .error e' ∧ TwinError k zones e e' := by
  cases h with
  | ok value => exact Or.inl ⟨value, rfl, rfl⟩
  | error h => exact Or.inr ⟨_, _, rfl, rfl, h⟩

/-- The files of twins hold the same count, or fail for the same reason. -/
theorem TwinGauge.count (hv : ReadAlike k zones v v') (h : TwinGauge k zones g g') :
    TwinAnswer k zones (Sensor.count v g.file) (Sensor.count v' g'.file) := by
  obtain ⟨z, hz, hfile, rfl⟩ := h
  rw [hfile]
  have hread := hv z hz "energy_uj" (by simp [zoneFiles])
  rcases count_alike hread with ⟨n, hn, hn'⟩ | ⟨s, hs, hs'⟩ | ⟨fault, hs, hs'⟩
  · rw [hn, hn']
    exact .ok n
  · rw [hs, hs']
    exact .error (.parse hz s)
  · rw [hs, hs']
    cases fault with
    | permissionDenied => exact .error (.denied hz)
    | _ => exact .error (.same _)

/-- A way to act on gauges that makes twins of twins, or fails for both for the same reason. -/
def ActsAlike (k : ZoneMove) (zones : List String) (f f' : Gauge → Except Error Gauge) : Prop :=
  ∀ g g', TwinGauge k zones g g' →
    (∃ made made', f g = .ok made ∧ f' g' = .ok made' ∧ TwinGauge k zones made made') ∨
      ∃ e e', f g = .error e ∧ f' g' = .error e' ∧ TwinError k zones e e'

/-- What is made of a gauge and a count of its file, whatever the file is, makes twins of
twins. -/
theorem actsAlike_make {make : Gauge → UInt64 → Gauge} {f f' : Gauge → Except Error Gauge}
    (hv : ReadAlike k zones v v') (hf : ∀ g, f g = (Sensor.count v g.file).map (make g))
    (hf' : ∀ g, f' g = (Sensor.count v' g.file).map (make g))
    (hmake : ∀ g n file, make { g with file := file } n = { make g n with file := file } ∧
      (make g n).file = g.file) : ActsAlike k zones f f' := by
  intro g g' h
  rw [hf, hf']
  rcases (h.count hv).value_or_error with ⟨n, hn, hn'⟩ | ⟨e, e', he, he', herror⟩
  · rw [hn, hn']
    obtain ⟨z, hz, hfile, rfl⟩ := h
    obtain ⟨hmoved, hkept⟩ := hmake g n ((k.after z).join "energy_uj")
    exact Or.inl ⟨_, _, rfl, rfl, z, hz, hkept.trans hfile, hmoved⟩
  · rw [he, he']
    exact Or.inr ⟨e, e', rfl, rfl, herror⟩

/-- Reads make twins of twins. -/
theorem actsAlike_read (hv : ReadAlike k zones v v') :
    ActsAlike k zones (Gauge.read v) (Gauge.read v') :=
  actsAlike_make hv (fun _ => Gauge.read_eq_map) (fun _ => Gauge.read_eq_map)
    fun _ _ _ => ⟨rfl, rfl⟩

/-- Resets make twins of twins. -/
theorem actsAlike_reset (hv : ReadAlike k zones v v') :
    ActsAlike k zones (Gauge.reset v) (Gauge.reset v') :=
  actsAlike_make hv (fun _ => Gauge.reset_eq_map) (fun _ => Gauge.reset_eq_map)
    fun _ _ _ => ⟨rfl, rfl⟩

/-- Visits of twin rows get equally far, end for the same reason and leave twin rows. -/
theorem visit_twins {f f' : Gauge → Except Error Gauge} (hf : ActsAlike k zones f f')
    (h : TwinRows k zones gauges gauges') :
    TwinRows k zones (visit selects f gauges).gauges (visit selects f' gauges').gauges ∧
      Option.Rel (TwinError k zones) (visit selects f gauges).failure
        (visit selects f' gauges').failure := by
  -- Twins fail together, so both visits end in front of rows that are still twins.
  induction h with
  | nil => exact ⟨.nil, .none⟩
  | @cons x x' rest rest' hx hrest ih =>
    obtain ⟨s, g⟩ := x
    obtain ⟨s', g'⟩ := x'
    obtain ⟨rfl, htwin⟩ := hx
    cases hs : selects s' with
    | false =>
      rw [visit, visit, hs]
      exact ⟨.cons ⟨rfl, htwin⟩ ih.1, ih.2⟩
    | true =>
      rcases hf g g' htwin with ⟨made, made', hg, hg', hmade⟩ | ⟨e, e', hg, hg', herror⟩
      · rw [visit, visit, hs, hg, hg']
        exact ⟨.cons ⟨rfl, hmade⟩ ih.1, ih.2⟩
      · rw [visit, visit, hs, hg, hg']
        exact ⟨.cons ⟨rfl, htwin⟩ hrest, .some herror⟩

/-- Twin rows have the same slots. -/
theorem TwinRows.slots (h : TwinRows k zones gauges gauges') :
    slotsOf gauges' = slotsOf gauges := by
  induction h with
  | nil => rfl
  | cons hx _ ih => exact congrArg₂ List.cons hx.1 ih

/-- Twin rows have the same sums. -/
theorem TwinRows.tally (h : TwinRows k zones gauges gauges') :
    CpuMeter.tally selects gauges' = CpuMeter.tally selects gauges := by
  have hfold : ∀ b : Breakdown,
      gauges'.foldl (fun b x => if selects x.1 then b.addTo x.1.component x.2.total else b) b =
        gauges.foldl (fun b x => if selects x.1 then b.addTo x.1.component x.2.total else b) b := by
    induction h with
    | nil => exact fun b => rfl
    | cons hx _ ih =>
      intro b
      obtain ⟨hslot, z, -, -, hgauge⟩ := hx
      rw [List.foldl_cons, List.foldl_cons, hslot, hgauge]
      exact ih _
  exact hfold Breakdown.zero

/-- Meters with twin rows of gauges. -/
def TwinMeters (k : ZoneMove) (zones : List String) (m m' : CpuMeter) : Prop :=
  TwinRows k zones m.gauges m'.gauges

/-- Twin meters have the same packages. -/
theorem TwinMeters.packages (h : TwinMeters k zones m m') : m'.packages = m.packages := by
  rw [CpuMeter.packages_eq_slots, CpuMeter.packages_eq_slots, TwinRows.slots h]

/-- To act on twin meters in a way that makes twins of twins leaves twin meters. -/
theorem TwinMeters.act {f f' : Gauge → Except Error Gauge} (hf : ActsAlike k zones f f')
    (h : TwinMeters k zones m m') (selects : Slot → Bool) :
    TwinMeters k zones (m.act selects f).2 (m'.act selects f').2 ∧
      Option.Rel (TwinError k zones) (m.act selects f).1 (m'.act selects f').1 :=
  visit_twins hf h

/-- Reads of twin meters answer alike and leave twin meters. -/
theorem TwinMeters.read (hv : ReadAlike k zones v v') (h : TwinMeters k zones m m') (q : Query) :
    TwinAnswer k zones (m.read v q).1 (m'.read v' q).1 ∧
      TwinMeters k zones (m.read v q).2 (m'.read v' q).2 := by
  have hunknown : m'.unknown? q = m.unknown? q := by
    unfold CpuMeter.unknown?
    rw [h.packages]
  cases hid : m.unknown? q with
  | some id =>
    rw [CpuMeter.read_of_unknown hid, CpuMeter.read_of_unknown (hunknown.trans hid)]
    exact ⟨.error (.same _), h⟩
  | none =>
    rw [CpuMeter.read_eq_act hid, CpuMeter.read_eq_act (hunknown.trans hid)]
    obtain ⟨htwins, hfailure⟩ := h.act (actsAlike_read hv) q.selects
    refine ⟨?_, htwins⟩
    generalize (m.act q.selects (Gauge.read v)).1 = failure at hfailure ⊢
    generalize (m'.act q.selects (Gauge.read v')).1 = failure' at hfailure ⊢
    cases hfailure with
    | none =>
      simp only [TwinRows.tally htwins]
      exact .ok _
    | some herror => exact .error herror

/-- Twin answers stay twin answers when their values are changed. -/
theorem TwinAnswer.map {α β : Type} {a a' : Except Error α} (h : TwinAnswer k zones a a')
    (f : α → β) : TwinAnswer k zones (a.map f) (a'.map f) := by
  cases h with
  | ok value => exact .ok (f value)
  | error h => exact .error h

/-- Calls of twin meters answer alike and leave twin meters. -/
theorem TwinMeters.perform (hv : ReadAlike k zones v v') (h : TwinMeters k zones m m')
    (call : CpuCall) : TwinAnswer k zones (call.perform v m).1 (call.perform v' m').1 ∧
      TwinMeters k zones (call.perform v m).2 (call.perform v' m').2 := by
  cases call with
  | read r =>
    obtain ⟨hanswer, hleft⟩ := h.read hv r.query
    have hperform : ∀ w n, CpuCall.perform w n (.read r) = r.perform w n := fun _ _ => rfl
    rw [hperform, hperform, r.perform_eq_read, r.perform_eq_read]
    exact ⟨hanswer.map _, hleft⟩
  | reset =>
    obtain ⟨htwins, hfailure⟩ := h.act (actsAlike_reset hv) fun _ => true
    refine ⟨?_, ?_⟩
    · simp only [CpuCall.perform, CpuMeter.reset_eq_act]
      generalize (m.act (fun _ => true) (Gauge.reset v)).1 = failure at hfailure ⊢
      generalize (m'.act (fun _ => true) (Gauge.reset v')).1 = failure' at hfailure ⊢
      cases hfailure with
      | none => exact .ok _
      | some herror => exact .error herror
    · rw [CpuMeter.perform_reset_snd, CpuMeter.perform_reset_snd]
      exact htwins

/-- A call at two moments: the files as one meter sees them and as its twin does. -/
structure TwinMoment where
  /-- The files of the one meter. -/
  before : View
  /-- The files of its twin. -/
  after : View
  /-- What both are asked. -/
  call : CpuCall

/-- So do calls in a row, the files of both meters changing as they like so long as they read
alike. -/
theorem TwinMeters.runCalls {moments : List TwinMoment}
    (hmoments : ∀ x ∈ moments, ReadAlike k zones x.before x.after)
    (h : TwinMeters k zones m m') :
    let run := runCalls CpuCall.perform m (moments.map fun x => (x.before, x.call))
    let run' := EnergyMeter.runCalls CpuCall.perform m' (moments.map fun x => (x.after, x.call))
    List.Forall₂ (TwinAnswer k zones) run.1 run'.1 ∧ TwinMeters k zones run.2 run'.2 := by
  induction moments generalizing m m' with
  | nil => exact ⟨.nil, h⟩
  | cons x rest ih =>
    obtain ⟨hx, hrest⟩ := List.forall_mem_cons.1 hmoments
    obtain ⟨hanswer, hleft⟩ := h.perform hx x.call
    obtain ⟨hanswers, hlast⟩ := ih hrest hleft
    exact ⟨.cons hanswer hanswers, hlast⟩

end Twins

end EnergyMeter.Rapl
