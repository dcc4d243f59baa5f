import EnergyMeter.Machine
import EnergyMeter.Proofs.InputDetection

/-!
# Which meters a machine offers

A machine is found unless a directory of sensors is there and cannot be listed; the
directory of zones is looked at first. Its kinds of meters are those for which something
usable is there, the more precise one first, and the first of them is preferred. Calls reach
one meter each: they keep the kinds, and the other meter never learns of them.
-/

namespace EnergyMeter

open Files Log

/-- That a directory is there and cannot be listed. -/
def Unlistable (v : View) (directory : Path) (fault : Fault) : Prop :=
  v.list directory = .error fault ∧ fault ≠ .notFound

/-- The errors with which looking for a machine ends. -/
inductive Unfound (v : View) (roots : SensorRoots) : Error → Prop
  /-- The directory of zones cannot be listed. -/
  | powercap {fault : Fault} (h : Unlistable v roots.powercap fault) : Unfound v roots (.io fault)
  /-- The directory of zones gives no error, and that of chips cannot be listed. -/
  | hwmon {fault : Fault} (hpowercap : ∀ other, ¬ Unlistable v roots.powercap other)
      (h : Unlistable v roots.hwmon fault) : Unfound v roots (.io fault)

/-- What meters are offered, told from the files in which they were found. -/
structure Offers (v : View) (roots : SensorRoots) (m : Meters) : Prop where
  /-- The kinds are listed in their order, each once. -/
  ordered : m.kinds.Pairwise fun a b => a.rank < b.rank
  /-- There is a meter of the packages if one of them is usable. -/
  cpus : .cpus ∈ m.kinds ↔ ∃ id, Rapl.Usable v roots.powercap id
  /-- There is a meter at the plug if an input is usable. -/
  plug : .plug ∈ m.kinds ↔ ∃ i, Hwmon.UsableInput v roots.hwmon i
  /-- The kinds that are listed can be looked up. -/
  present : ∀ kind, (Bench.readable? m kind).isSome ↔ kind ∈ m.kinds
  /-- What is looked up is of that kind, and reads the meter of that kind. -/
  typed : ∀ kind r, Bench.readable? m kind = some r → r.kind = kind ∧
    ∀ w, ∃ answer, m.joules? w kind = some answer ∧ r.joules ⟨w, m⟩ = (answer.1, ⟨w, answer.2⟩)
  /-- The preferred meter is that of the first kind listed. -/
  first : ∀ kind, m.best? = some kind → (Bench.readable? m kind).isSome ∧
    ∃ rest, m.kinds = kind :: rest
  /-- None is preferred if none is listed. -/
  none : m.best? = none ↔ m.kinds = []

/-- A call of one of the meters, directly or by its kind. -/
inductive MeterCall where
  /-- A call of the meter of the packages. -/
  | cpus (call : Rapl.CpuCall)
  /-- A call of the meter at the plug. -/
  | plug (call : Hwmon.PlugCall)
  /-- A read of the meter of a kind. -/
  | joules (kind : MeterKind)
  /-- A reset of the meter of a kind. -/
  | reset (kind : MeterKind)
  /-- A measurement with the meter of a kind, and the files after its wait. -/
  | measure (kind : MeterKind) (seconds : UInt64) (later : View)

namespace MeterCall

/-- The kind of meter that a call is about. -/
def kind : MeterCall → MeterKind
  | .cpus _ => .cpus
  | .plug _ => .plug
  | .joules kind | .reset kind | .measure kind _ _ => kind

/-- The meters after a call; without a meter of its kind nothing happens. -/
def after (v : View) (m : Meters) : MeterCall → Meters
  | .cpus call => ((m.withCpus fun c => call.perform v c).map (·.2)).getD m
  | .plug call => ((m.withPlug fun p => call.perform v p).map (·.2)).getD m
  | .joules kind => ((m.joules? v kind).map (·.2)).getD m
  | .reset kind => ((m.reset? v kind).map (·.2)).getD m
  | .measure kind seconds later =>
    (EnergyMeter.measure (Bench.readable? m kind) seconds (fun b => { b with view := later })
      ⟨v, m⟩).state.meters

/-- The meters after calls one after the other, each at the files of its moment. -/
def run (m : Meters) (calls : List (View × MeterCall)) : Meters :=
  calls.foldl (fun m x => x.2.after x.1 m) m

end MeterCall

/-- That meters have the same meter of a kind. -/
def SameMeter : MeterKind → Meters → Meters → Prop
  | .cpus, a, b => a.cpus = b.cpus
  | .plug, a, b => a.plug = b.plug

/-- What calls leave of the meters. -/
structure KeepsOffer (m m' : Meters) (calls : List (View × MeterCall)) : Prop where
  /-- The kinds are the same. -/
  kinds : m'.kinds = m.kinds
  /-- The same kind is preferred. -/
  best : m'.best? = m.best?
  /-- Looking a kind up gives the same. -/
  readable : ∀ kind, Bench.readable? m' kind = Bench.readable? m kind
  /-- The meter of a kind is as it was if no call was about it. -/
  untouched : ∀ kind, (∀ x ∈ calls, x.2.kind ≠ kind) → SameMeter kind m' m
  /-- It is as it is after the calls about it alone. -/
  alone : ∀ kind, SameMeter kind m' (MeterCall.run m (calls.filter (·.2.kind = kind)))

section Kinds

variable {m : Meters} {kind : MeterKind}

/-- The kinds that are listed are those of the meters that there are. -/
theorem mem_kinds : kind ∈ m.kinds ↔ m.has kind = true := by
  have hall : kind ∈ MeterKind.all := by cases kind <;> decide
  simp [Meters.kinds, hall]

/-- The kinds are listed in their order. -/
theorem ordered_kinds (m : Meters) : m.kinds.Pairwise fun a b => a.rank < b.rank := by
  have hall : MeterKind.all.Pairwise fun a b => a.rank < b.rank := by decide
  exact hall.filter _

/-- A kind can be looked up if there is a meter of that kind. -/
theorem isSome_readable? : (Bench.readable? m kind).isSome ↔ m.has kind = true := by
  unfold Bench.readable?
  cases m.has kind <;> simp

end Kinds

section Detection

variable {v : View} {roots : SensorRoots} {m : Meters} {e : Error}

/-- Looking for meters is looking for that of the packages, then for that at the plug. -/
theorem value_detect (v : View) (roots : SensorRoots) : (Meters.detect v roots).value =
    match (Rapl.CpuMeter.detect v roots.powercap).value with
    | .error e => .error e
    | .ok c => (Hwmon.PlugMeter.detect v roots.hwmon).value.map fun p => ⟨c, p⟩ := by
  simp only [Meters.detect]
  cases (Rapl.CpuMeter.detect v roots.powercap).value with
  | error e => rfl
  | ok c =>
    cases (Hwmon.PlugMeter.detect v roots.hwmon).value with
    | error e => rfl
    | ok p => rfl

/-- Meters are found if neither search ends with an error; they are what the two find. -/
theorem value_detect_eq_ok : (Meters.detect v roots).value = .ok m ↔
    (Rapl.CpuMeter.detect v roots.powercap).value = .ok m.cpus ∧
      (Hwmon.PlugMeter.detect v roots.hwmon).value = .ok m.plug := by
  obtain ⟨cpus, plug⟩ := m
  rw [value_detect]
  cases (Rapl.CpuMeter.detect v roots.powercap).value with
  | error e => simp
  | ok c => cases (Hwmon.PlugMeter.detect v roots.hwmon).value <;> simp [Except.map]

/-- Looking for meters ends with the first error of the two searches. -/
theorem value_detect_eq_error : (Meters.detect v roots).value = .error e ↔
    (Rapl.CpuMeter.detect v roots.powercap).value = .error e ∨
      (∀ e', (Rapl.CpuMeter.detect v roots.powercap).value ≠ .error e') ∧
        (Hwmon.PlugMeter.detect v roots.hwmon).value = .error e := by
  rw [value_detect]
  cases (Rapl.CpuMeter.detect v roots.powercap).value with
  | error e => simp
  | ok c => cases (Hwmon.PlugMeter.detect v roots.hwmon).value <;> simp [Except.map]

/-- Looking for packages ends with an error exactly if their directory cannot be listed. -/
theorem cpus_eq_error (hn : Rapl.NamedOnce v roots.powercap) :
    (Rapl.CpuMeter.detect v roots.powercap).value = .error e ↔
      ∃ fault, Unlistable v roots.powercap fault ∧ e = .io fault := by
  have hfailed := ((Rapl.detected v roots.powercap).findsUsable hn).failed e
  simp only [hfailed, Unlistable]
  tauto

/-- Looking for an input ends with an error exactly if the directory cannot be listed. -/
theorem plug_eq_error (hv : v.Coherent) :
    (Hwmon.PlugMeter.detect v roots.hwmon).value = .error e ↔
      ∃ fault, Unlistable v roots.hwmon fault ∧ e = .io fault := by
  have hfailed := (Hwmon.findsLeast hv roots.hwmon).failed e
  simp only [hfailed, Unlistable]
  tauto

/-- Looking for meters ends with an error exactly if a directory cannot be listed, that of
zones first. -/
theorem value_detect_eq_error_iff (hv : v.Coherent) (hn : Rapl.NamedOnce v roots.powercap) :
    (Meters.detect v roots).value = .error e ↔ Unfound v roots e := by
  have hlisted : (∀ e', (Rapl.CpuMeter.detect v roots.powercap).value ≠ .error e') ↔
      ∀ other, ¬ Unlistable v roots.powercap other := by
    constructor
    · intro h other hother
      exact h (.io other) ((cpus_eq_error hn).2 ⟨other, hother, rfl⟩)
    · intro h e' he
      obtain ⟨other, hother, -⟩ := (cpus_eq_error hn).1 he
      exact h other hother
  rw [value_detect_eq_error, cpus_eq_error hn, plug_eq_error hv, hlisted]
  constructor
  · intro h
    rcases h with ⟨fault, hfault, rfl⟩ | ⟨hpowercap, fault, hfault, rfl⟩
    · exact .powercap hfault
    · exact .hwmon hpowercap hfault
  · intro h
    cases h with
    | powercap hfault => exact Or.inl ⟨_, hfault, rfl⟩
    | hwmon hpowercap hfault => exact Or.inr ⟨hpowercap, _, hfault, rfl⟩

/-- A meter of the packages is found exactly if one of them is usable. -/
theorem isSome_cpus_iff {cpus : Option Rapl.CpuMeter} (hn : Rapl.NamedOnce v roots.powercap)
    (h : (Rapl.CpuMeter.detect v roots.powercap).value = .ok cpus) :
    cpus.isSome ↔ ∃ id, Rapl.Usable v roots.powercap id := by
  constructor
  · intro hsome
    obtain ⟨c, rfl⟩ := Option.isSome_iff_exists.1 hsome
    have hpackages := ((Rapl.detected v roots.powercap).findsUsable hn).packages c h
    obtain ⟨id, hid⟩ := List.exists_mem_of_ne_nil c.packages hpackages.1
    exact ⟨id, (hpackages.2.2 id).1 hid⟩
  · intro husable
    obtain ⟨id, hid⟩ := husable
    obtain ⟨c, hc, -⟩ := (Rapl.found_iff_usable hn).2 hid
    have hsame : cpus = some c := Except.ok.inj (h.symm.trans hc)
    simp [hsame]

/-- A meter at the plug is found exactly if an input is usable. -/
theorem isSome_plug_iff {plug : Option Hwmon.PlugMeter} (hv : v.Coherent)
    (h : (Hwmon.PlugMeter.detect v roots.hwmon).value = .ok plug) :
    plug.isSome ↔ ∃ i, Hwmon.UsableInput v roots.hwmon i := by
  rw [← (Hwmon.findsLeast hv roots.hwmon).found, h, Option.isSome_iff_exists]
  simp

/-- Meters that are found offer what is usable. -/
theorem offers (hv : v.Coherent) (hn : Rapl.NamedOnce v roots.powercap)
    (h : (Meters.detect v roots).value = .ok m) : Offers v roots m := by
  obtain ⟨hcpus, hplug⟩ := value_detect_eq_ok.1 h
  constructor
  case ordered => exact ordered_kinds m
  case cpus => exact mem_kinds.trans (isSome_cpus_iff hn hcpus)
  case plug => exact mem_kinds.trans (isSome_plug_iff hv hplug)
  case present => exact fun kind => isSome_readable?.trans mem_kinds.symm
  case typed =>
    intro kind r hr
    have hhas : m.has kind = true := isSome_readable?.1 (by simp [hr])
    simp only [Bench.readable?, hhas, if_true, Option.some.injEq] at hr
    subst hr
    refine ⟨rfl, fun w => ?_⟩
    obtain ⟨answer, hanswer⟩ := m.exists_joules?_of_has w hhas
    exact ⟨answer, hanswer, by simp [Bench.joules, hanswer]⟩
  case first =>
    intro kind hbest
    obtain ⟨rest, hkinds⟩ := List.head?_eq_some_iff.1 hbest
    have hmem : kind ∈ m.kinds := by simp [hkinds]
    exact ⟨isSome_readable?.2 (mem_kinds.1 hmem), rest, hkinds⟩
  case none => exact List.head?_eq_none_iff

end Detection

section Calls

variable {a b : Meters} {kind : MeterKind} {act : Meters → Meters}

/-- A measurement leaves behind what its reads leave, the second one after the wait. -/
theorem state_measure {σ : Type} (r : Readable σ) (seconds : UInt64) (wait : σ → σ) (s : σ) :
    (measure (some r) seconds wait s).state =
      match (r.joules s).1 with
      | .error _ => (r.joules s).2
      | .ok _ => (r.joules (wait (r.joules s).2)).2 := by
  simp only [measure, Window.begin]
  cases (r.joules s).1 with
  | error e => rfl
  | ok start =>
    simp only [Except.map, Window.close]
    cases (r.joules (wait (r.joules s).2)).1 <;> rfl

/-- To act on the meter of a kind alone, in a way that does not depend on the other one. -/
inductive ActsOn : MeterKind → (Meters → Meters) → Prop
  /-- To act on the meter of the packages. -/
  | cpus (f : Rapl.CpuMeter → Rapl.CpuMeter) : ActsOn .cpus fun m => ⟨m.cpus.map f, m.plug⟩
  /-- To act on the meter at the plug. -/
  | plug (f : Hwmon.PlugMeter → Hwmon.PlugMeter) : ActsOn .plug fun m => ⟨m.cpus, m.plug.map f⟩

/-- What is carried over from the meter of the packages acts on that meter. -/
theorem actsOn_withCpus {α : Type} (act : Rapl.CpuMeter → Except Error α × Rapl.CpuMeter) :
    ActsOn .cpus fun m => ((m.withCpus act).map (·.2)).getD m := by
  have hact : (fun m : Meters => ((m.withCpus act).map (·.2)).getD m) =
      fun m => ⟨m.cpus.map fun c => (act c).2, m.plug⟩ := by
    funext m
    obtain ⟨cpus, plug⟩ := m
    cases cpus <;> rfl
  rw [hact]
  exact .cpus _

/-- What is carried over from the meter at the plug acts on that meter. -/
theorem actsOn_withPlug {α : Type} (act : Hwmon.PlugMeter → Except Error α × Hwmon.PlugMeter) :
    ActsOn .plug fun m => ((m.withPlug act).map (·.2)).getD m := by
  have hact : (fun m : Meters => ((m.withPlug act).map (·.2)).getD m) =
      fun m => ⟨m.cpus, m.plug.map fun p => (act p).2⟩ := by
    funext m
    obtain ⟨cpus, plug⟩ := m
    cases plug <;> rfl
  rw [hact]
  exact .plug _

/-- A measurement acts on the meter that it reads. -/
theorem actsOn_measure (v later : View) (kind : MeterKind) (seconds : UInt64) :
    ActsOn kind fun m => (MeterCall.measure kind seconds later).after v m := by
  cases kind with
  | cpus =>
    have hact : (fun m => (MeterCall.measure .cpus seconds later).after v m) =
        fun m => ⟨m.cpus.map fun c => match (c.joules v).1 with
          | .error _ => (c.joules v).2
          | .ok _ => ((c.joules v).2.joules later).2, m.plug⟩ := by
      funext m
      obtain ⟨cpus, plug⟩ := m
      cases cpus with
      | none => rfl
      | some c =>
        simp only [MeterCall.after, Bench.readable?, Meters.has, Option.isSome_some, if_true,
          state_measure, Bench.joules, Meters.joules?, Meters.withCpus, Option.map_some]
        cases (c.joules v).1 <;> rfl
    rw [hact]
    exact .cpus _
  | plug =>
    have hact : (fun m => (MeterCall.measure .plug seconds later).after v m) =
        fun m => ⟨m.cpus, m.plug.map fun p => match (p.joules v).1 with
          | .error _ => (p.joules v).2
          | .ok _ => ((p.joules v).2.joules later).2⟩ := by
      funext m
      obtain ⟨cpus, plug⟩ := m
      cases plug with
      | none => rfl
      | some p =>
        simp only [MeterCall.after, Bench.readable?, Meters.has, Option.isSome_some, if_true,
          state_measure, Bench.joules, Meters.joules?, Meters.withPlug, Option.map_some]
        cases (p.joules v).1 <;> rfl
    rw [hact]
    exact .plug _

/-- Every call acts on the meter of its kind alone. -/
theorem MeterCall.actsOn (v : View) (call : MeterCall) :
    ActsOn call.kind fun m => call.after v m := by
  cases call with
  | cpus call => exact actsOn_withCpus _
  | plug call => exact actsOn_withPlug _
  | joules kind =>
    cases kind with
    | cpus => exact actsOn_withCpus _
    | plug => exact actsOn_withPlug _
  | reset kind =>
    cases kind with
    | cpus => exact actsOn_withCpus _
    | plug => exact actsOn_withPlug _
  | measure kind seconds later => exact actsOn_measure v later kind seconds

/-- To act on a meter keeps which meters there are. -/
theorem ActsOn.has_eq (h : ActsOn kind act) (m : Meters) : (act m).has = m.has := by
  funext other
  cases h <;> cases other <;> simp [Meters.has]

/-- To act on meters of a kind that are the same leaves them the same. -/
theorem ActsOn.same (h : ActsOn kind act) (hs : SameMeter kind a b) :
    SameMeter kind (act a) (act b) := by
  cases h with
  | cpus f => exact congrArg (Option.map f) hs
  | plug f => exact congrArg (Option.map f) hs

/-- To act on the meter of one kind leaves that of the other as it is. -/
theorem ActsOn.same_of_ne {other : MeterKind} (h : ActsOn other act) (hne : other ≠ kind)
    (hs : SameMeter kind a b) : SameMeter kind (act a) b := by
  cases h <;> cases kind <;> first | exact hs | exact absurd rfl hne

/-- Calls keep which meters there are. -/
theorem has_run (m : Meters) (calls : List (View × MeterCall)) :
    (MeterCall.run m calls).has = m.has := by
  unfold MeterCall.run
  induction calls generalizing m with
  | nil => rfl
  | cons x rest ih =>
    have hstep : (x.2.after x.1 m).has = m.has := (x.2.actsOn x.1).has_eq m
    exact (ih (x.2.after x.1 m)).trans hstep

/-- The meter of a kind behind some calls is as it is behind those about it alone. -/
theorem same_run_filter (calls : List (View × MeterCall)) (hs : SameMeter kind a b) :
    SameMeter kind (MeterCall.run a calls)
      (MeterCall.run b (calls.filter (·.2.kind = kind))) := by
  unfold MeterCall.run
  -- The runs part ways at calls about the other meter, so only this one is compared.
  induction calls generalizing a b with
  | nil => exact hs
  | cons x rest ih =>
    have hacts := x.2.actsOn x.1
    rw [List.foldl_cons, List.filter_cons]
    by_cases hkind : x.2.kind = kind
    · rw [if_pos (decide_eq_true hkind), List.foldl_cons]
      rw [hkind] at hacts
      exact ih (hacts.same hs)
    · rw [if_neg (by simpa using hkind)]
      exact ih (hacts.same_of_ne hkind hs)

/-- Calls keep the offer, and each meter sees only the calls about it. -/
theorem keepsOffer (m : Meters) (calls : List (View × MeterCall)) :
    KeepsOffer m (MeterCall.run m calls) calls := by
  have hhas := has_run m calls
  have hrefl : ∀ kind, SameMeter kind m m := by
    intro kind
    cases kind <;> rfl
  have hkinds : (MeterCall.run m calls).kinds = m.kinds := by
    unfold Meters.kinds
    rw [hhas]
  constructor
  case kinds => exact hkinds
  case best => exact congrArg List.head? hkinds
  case readable =>
    intro kind
    unfold Bench.readable?
    rw [hhas]
  case untouched =>
    intro kind hcalls
    have hnone : calls.filter (·.2.kind = kind) = [] := by simpa using hcalls
    have halone := same_run_filter calls (hrefl kind)
    rw [hnone] at halone
    exact halone
  case alone => exact fun kind => same_run_filter calls (hrefl kind)

end Calls

/-- Looking for a machine where no package is named twice. It ends with an error exactly if
a directory of sensors cannot be listed. Otherwise the machine offers what is usable, and
goes on to offer it whatever is asked of it and happens to the files. -/
theorem machine_offers_usable {v : View} {settings : Settings} (hv : v.Coherent)
    (hn : Rapl.NamedOnce v settings.roots.powercap) :
    (∀ e, (Machine.ofSettings v settings).value = .error e ↔ Unfound v settings.roots e) ∧
    ∀ machine, (Machine.ofSettings v settings).value = .ok machine →
      machine.settings = settings ∧ Offers v settings.roots machine.meters ∧
        ∀ calls, KeepsOffer machine.meters (MeterCall.run machine.meters calls) calls := by
  constructor
  · intro e
    rw [← value_detect_eq_error_iff hv hn]
    simp only [Machine.ofSettings]
    cases (Meters.detect v settings.roots).value <;> simp [Except.map]
  · intro machine hmachine
    have hmeters : (Meters.detect v settings.roots).value = .ok machine.meters ∧
        machine.settings = settings := by
      simp only [Machine.ofSettings] at hmachine
      cases hfound : (Meters.detect v settings.roots).value with
      | error e => simp [hfound, Except.map] at hmachine
      | ok m =>
        simp only [hfound, Except.map, Except.ok.injEq] at hmachine
        simp [← hmachine]
    exact ⟨hmeters.2, offers hv hn hmeters.1, keepsOffer machine.meters⟩

/-- One directory with the zone of a package and a chip with an input. -/
def zonesAndChips : View :=
  .listing ⟨"sensors"⟩ ["hwmon0", "intel-rapl:0"]
    [("sensors/intel-rapl:0/name", "package-0"), ("sensors/intel-rapl:0/energy_uj", "100"),
      ("sensors/hwmon0/name", "meter"), ("sensors/hwmon0/energy1_input", "7")]

/-- The settings that point to this directory. -/
def pointingThere : Settings := ⟨⟨⟨"sensors"⟩, ⟨"sensors"⟩⟩⟩

/-- A machine with both meters offers both, and goes on to offer them after a measurement with
one of them. -/
theorem machine_offers_usable_of_both :
    zonesAndChips.Coherent ∧ Rapl.NamedOnce zonesAndChips pointingThere.roots.powercap ∧
      ∃ machine, (Machine.ofSettings zonesAndChips pointingThere).value = .ok machine ∧
        machine.meters.kinds = [.cpus, .plug] ∧
        (MeterCall.run machine.meters
          [(zonesAndChips, .measure .plug 10 zonesAndChips)]).kinds = [.cpus, .plug] := by
  have hv : zonesAndChips.Coherent := fun _ _ _ => rfl
  have hn : Rapl.NamedOnce zonesAndChips pointingThere.roots.powercap := by
    have hdistinct : ∀ a ∈ ["hwmon0", "intel-rapl:0"], ∀ b ∈ ["hwmon0", "intel-rapl:0"],
        Rapl.ZoneName.parse? a = Rapl.ZoneName.parse? b → a = b := by decide +kernel
    intro id a b hentry hentry' hparse hparse'
    obtain ⟨_, ⟨⟩, ha⟩ := hentry
    obtain ⟨_, ⟨⟩, hb⟩ := hentry'
    exact hdistinct a ha b hb (hparse.trans hparse'.symm)
  have hlist : zonesAndChips.list ⟨"sensors"⟩ = .ok ["hwmon0", "intel-rapl:0"] := rfl
  have hpackage : Rapl.Usable zonesAndChips pointingThere.roots.powercap 0 :=
    ⟨"intel-rapl:0", ⟨_, hlist, by simp⟩, by decide +kernel,
      ⟨"package-0", rfl, by decide +kernel⟩, 100, rfl⟩
  have hinput : Hwmon.UsableInput zonesAndChips pointingThere.roots.hwmon
      ⟨⟨"sensors/hwmon0"⟩, "meter", 1⟩ :=
    ⟨⟨"hwmon0", ⟨_, hlist, by simp⟩, rfl⟩, rfl, by decide +kernel, by decide, 7, rfl⟩
  obtain ⟨hfailed, hfound⟩ := machine_offers_usable hv hn
  refine ⟨hv, hn, ?_⟩
  cases hmachine : (Machine.ofSettings zonesAndChips pointingThere).value with
  | error e =>
    have hlisted : ∀ fault, ¬ Unlistable zonesAndChips ⟨"sensors"⟩ fault := by
      intro fault h
      cases hlist.symm.trans h.1
    cases (hfailed e).1 hmachine with
    | powercap h => exact absurd h (hlisted _)
    | hwmon _ h => exact absurd h (hlisted _)
  | ok machine =>
    obtain ⟨-, hoffers, hkeeps⟩ := hfound machine hmachine
    have hcpus := mem_kinds.1 (hoffers.cpus.2 ⟨0, hpackage⟩)
    have hplug := mem_kinds.1 (hoffers.plug.2 ⟨_, hinput⟩)
    have hkinds : machine.meters.kinds = [.cpus, .plug] := by
      simp [Meters.kinds, MeterKind.all, hcpus, hplug]
    exact ⟨machine, rfl, hkinds, (hkeeps _).kinds.trans hkinds⟩

end EnergyMeter
