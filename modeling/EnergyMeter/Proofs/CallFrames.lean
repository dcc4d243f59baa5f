import EnergyMeter.Proofs.SeparateReads

/-!
# What calls leave alone

Each call of the CPU meter names some slots: those of one component or of all, in one
package or in every one. A call can change the gauges of these slots and nothing else, and
of those only what they have counted. So the packages, the components that each of them has,
the files and the ranges stay as they were found, whatever is asked of the meter; and what a
gauge has not yet counted waits for the next call that names it.
-/

namespace EnergyMeter.Rapl

open Files

/-- The slots that a read names. -/
def CpuRead.Names : CpuRead → Slot → Prop
  | .components none, _ => True
  | .components (some id), s => s.package = id
  | .amount c none, s => s.component = c
  | .amount c (some id), s => s = ⟨id, c⟩
  | .joules, s => s.component = .whole

/-- The slots that a call names; the reset names all of them. -/
def CpuCall.Names : CpuCall → Slot → Prop
  | .read r, s => r.Names s
  | .reset, _ => True

section

variable {v : View} {m : CpuMeter} {s : Slot} {g : Gauge} {c : Component}

/-- A read names the slots that its query selects. -/
theorem CpuRead.names_iff {r : CpuRead} : r.Names s ↔ r.query.selects s = true := by
  cases r with
  | components package =>
    cases package with
    | none => simp [Names, query, Query.selects]
    | some id => exact Query.selects_packageOf.symm
  | amount c package =>
    cases package with
    | none => exact Query.selects_across.symm
    | some id =>
      have hpackage : (Query.mk (some id) none).selects s = true ↔ s.package = id :=
        Query.selects_packageOf
      obtain ⟨n, d⟩ := s
      rw [query, Query.selects_component, hpackage, Names, Slot.mk.injEq]
  | joules => exact Query.selects_across.symm

/-- All that a call can do to a meter is to act on gauges that it names. -/
theorem CpuCall.perform_cases (v : View) (m : CpuMeter) (call : CpuCall) :
    (call.perform v m).2 = m ∨ ∃ selects f, (∀ s, selects s = true → call.Names s) ∧
      (call.perform v m).2 = (m.act selects f).2 := by
  cases call with
  | read r =>
    rw [CpuMeter.perform_read_snd]
    cases hunknown : m.unknown? r.query with
    | some id =>
      rw [CpuMeter.read_of_unknown hunknown]
      exact Or.inl rfl
    | none =>
      rw [CpuMeter.read_eq_act hunknown]
      exact Or.inr ⟨_, _, fun s hs => CpuRead.names_iff.2 hs, rfl⟩
  | reset => exact Or.inr ⟨_, _, fun _ _ => trivial, m.perform_reset_snd v⟩

/-- A call leaves the packages as they are. -/
theorem packages_perform (v : View) (m : CpuMeter) (call : CpuCall) :
    (call.perform v m).2.packages = m.packages := by
  rcases call.perform_cases v m with hsame | ⟨selects, f, -, hact⟩
  · rw [hsame]
  · rw [hact, m.packages_act]

/-- A call leaves the gauges that it does not name as they are. -/
theorem gauge?_perform {call : CpuCall} (hs : ¬ call.Names s) :
    (call.perform v m).2.gauge? s = m.gauge? s := by
  rcases call.perform_cases v m with hsame | ⟨selects, f, hnames, hact⟩
  · rw [hsame]
  · have hsel : ¬ selects s = true := fun hsel => hs (hnames s hsel)
    rw [hact, CpuMeter.gauge?_act_of_not_selected hsel]

/-- Calls leave the gauges that none of them names as they are. -/
theorem gauge?_runCalls {calls : List (View × CpuCall)} (hs : ∀ x ∈ calls, ¬ x.2.Names s) :
    (runCalls CpuCall.perform m calls).2.gauge? s = m.gauge? s := by
  induction calls generalizing m with
  | nil => rfl
  | cons x rest ih =>
    obtain ⟨hfirst, hrest⟩ := List.forall_mem_cons.1 hs
    have hstep : (x.2.perform x.1 m).2.gauge? s = m.gauge? s := gauge?_perform hfirst
    exact (ih hrest).trans hstep

/-- A component that none of some packages has sums up to nothing. -/
theorem sumOf_of_absent {ids : List UInt32} (h : ∀ id ∈ ids, m.gauge? ⟨id, c⟩ = none) :
    m.sumOf c ids = 0 := by
  have hzero : ∀ id ∈ ids, (0 : Float) + m.worth ⟨id, c⟩ = 0 := by
    intro id hid
    rw [CpuMeter.worth_of_none (h id hid)]
    exact zero_add_of_signBit signBit_zero
  unfold CpuMeter.sumOf
  induction ids with
  | nil => rfl
  | cons id rest ih =>
    rw [List.foldl_cons, hzero id List.mem_cons_self]
    exact ih (fun n hn => h n (List.mem_cons_of_mem id hn))
      fun n hn => hzero n (List.mem_cons_of_mem id hn)

/-- A read of a component that is not there gives zero and changes nothing. -/
theorem perform_of_absent {package : Option UInt32} (v : View)
    (hknown : ∀ id, package = some id → id ∈ m.packages)
    (habsent : ∀ s, (CpuRead.amount c package).Names s → m.gauge? s = none) :
    (CpuRead.amount c package).perform v m = (.ok (.joules 0), m) := by
  have hnone : ∀ s, (Query.mk package (some c)).selects s = true → m.gauge? s = none :=
    fun s hs => habsent s (CpuRead.names_iff.2 hs)
  have hunknown : m.unknown? ⟨package, some c⟩ = none := by
    cases package with
    | none => rfl
    | some id => simp [CpuMeter.unknown?, hknown id rfl]
  have hok : (m.act (Query.mk package (some c)).selects (Gauge.read v)).1 = none := by
    rw [CpuMeter.act_eq_none_iff]
    intro s g hg hs
    rw [hnone s hs] at hg
    cases hg
  have hsame : (m.act (Query.mk package (some c)).selects (Gauge.read v)).2 = m :=
    CpuMeter.eq_of_gauge? (CpuMeter.gauge?_act_eq hnone)
  have hzero : m.sumOf c (m.packagesOf ⟨package, some c⟩) = 0 := by
    refine sumOf_of_absent fun id hid => habsent ⟨id, c⟩ ?_
    cases package with
    | none => rfl
    | some n => rw [List.mem_singleton.1 hid, CpuRead.Names]
  have hamount := m.amount_tally_selects (q := ⟨package, some c⟩) (List.mem_singleton_self c)
  rw [hzero] at hamount
  simp only [CpuRead.perform, CpuMeter.readAmount, CpuMeter.read_eq_act hunknown, hok, hsame,
    Except.map, hamount]

/-- A read that answers books, of every gauge that it names, the count of its file. -/
theorem book_of_perform {r : CpuRead} {reply : Reply} (hs : r.Names s)
    (hanswer : (r.perform v m).1 = .ok reply) (hg : m.gauge? s = some g) :
    ∃ n, Sensor.count v g.file = .ok n ∧ (r.perform v m).2.gauge? s = some (g.book n) := by
  rw [r.perform_eq_read] at hanswer ⊢
  cases hunknown : m.unknown? r.query with
  | some id =>
    rw [CpuMeter.read_of_unknown hunknown] at hanswer
    cases hanswer
  | none =>
    rw [CpuMeter.read_eq_act hunknown] at hanswer ⊢
    have hok : (m.act r.query.selects (Gauge.read v)).1 = none := by
      cases hfailure : (m.act r.query.selects (Gauge.read v)).1 with
      | none => rfl
      | some e =>
        rw [hfailure] at hanswer
        cases hanswer
    obtain ⟨g', hread, hg'⟩ :=
      CpuMeter.gauge?_act_of_selected hok (CpuRead.names_iff.1 hs) hg
    obtain ⟨n, hn, rfl⟩ := Gauge.read_eq_ok.1 hread
    exact ⟨n, hn, hg'⟩

/-- A read of a package that the meter does not have is an error that names it, and changes
nothing. -/
theorem perform_of_unknown {r : CpuRead} {id : UInt32} (v : View)
    (hpackage : r.query.package = some id) (hid : id ∉ m.packages) :
    r.perform v m = (.error (.unknownPackage id), m) := by
  have hunknown : m.unknown? r.query = some id := by
    simp [CpuMeter.unknown?, hpackage, hid]
  rw [r.perform_eq_read, CpuMeter.read_of_unknown hunknown]
  rfl

end

/-- What calls leave of a meter, and what the next call can do to it. -/
structure KeepsUnnamed (m m' : CpuMeter) (calls : List (View × CpuCall)) : Prop where
  /-- The packages are the same. -/
  packages : m'.packages = m.packages
  /-- The same slots have gauges, over the same files with the same ranges. -/
  sites : ∀ s, (m'.gauge? s).map Gauge.site = (m.gauge? s).map Gauge.site
  /-- A gauge that no call named is as it was. -/
  unnamed : ∀ s, (∀ x ∈ calls, ¬ x.2.Names s) → m'.gauge? s = m.gauge? s
  /-- Reads of the packages as wholes leave the gauges of all other components as they were. -/
  wholes : ∀ s, s.component ≠ .whole →
    (∀ x ∈ calls, x.2 = .read .joules ∨ x.2 = .read (.amount .whole none)) →
      m'.gauge? s = m.gauge? s
  /-- If a read names a gauge that no call has named, it counts all that the gauge had not
  yet counted before the calls. -/
  pending : ∀ v (r : CpuRead) s g reply, (∀ x ∈ calls, ¬ x.2.Names s) → m.gauge? s = some g →
    r.Names s → (r.perform v m').1 = .ok reply →
      ∃ n, Sensor.count v g.file = .ok n ∧ (r.perform v m').2.gauge? s = some (g.book n)
  /-- The next call changes no gauge that it does not name. -/
  frame : ∀ v (call : CpuCall) s, ¬ call.Names s →
    (call.perform v m').2.gauge? s = m'.gauge? s
  /-- If it names a package that the meter does not have, it says so and changes nothing. -/
  unknown : ∀ v (r : CpuRead) id, r.query.package = some id → id ∉ m.packages →
    r.perform v m' = (.error (.unknownPackage id), m')
  /-- If it reads a component that is not there, it gives zero and changes nothing. -/
  absent : ∀ v c package, (∀ id, package = some id → id ∈ m.packages) →
    (∀ s, (CpuRead.amount c package).Names s → m.gauge? s = none) →
      (CpuRead.amount c package).perform v m' = (.ok (.joules 0), m')

/-- Whatever is asked of a meter, at whatever moments: its packages, its components, their
files and ranges stay, and each call changes only gauges that it names. -/
theorem calls_keep_unnamed (m : CpuMeter) (calls : List (View × CpuCall)) :
    KeepsUnnamed m (runCalls CpuCall.perform m calls).2 calls := by
  have hpackages : (runCalls CpuCall.perform m calls).2.packages = m.packages :=
    layout_runCalls packages_perform m calls
  have hsites : ∀ s, ((runCalls CpuCall.perform m calls).2.gauge? s).map Gauge.site =
      (m.gauge? s).map Gauge.site :=
    CpuMeter.site_of_layout (layout_runCalls CpuMeter.layout_perform m calls)
  constructor
  case packages => exact hpackages
  case sites => exact hsites
  case unnamed => exact fun s hs => gauge?_runCalls hs
  case wholes =>
    intro s hs hcalls
    refine gauge?_runCalls fun x hx hnames => hs ?_
    rcases hcalls x hx with hread | hread
    · rw [hread] at hnames
      exact hnames
    · rw [hread] at hnames
      exact hnames
  case pending =>
    intro v r s g reply hcalls hg hs hanswer
    exact book_of_perform hs hanswer ((gauge?_runCalls hcalls).trans hg)
  case frame => exact fun v call s hs => gauge?_perform hs
  case unknown =>
    intro v r id hpackage hid
    exact perform_of_unknown v hpackage (hpackages ▸ hid)
  case absent =>
    intro v c package hknown habsent
    refine perform_of_absent v (hpackages ▸ hknown) fun s hs => ?_
    have hsite := hsites s
    rw [habsent s hs, Option.map_none, Option.map_eq_none_iff] at hsite
    exact hsite

end EnergyMeter.Rapl
