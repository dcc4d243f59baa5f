import EnergyMeter.Program.Components
import EnergyMeter.Proofs.ProgramRuns
import EnergyMeter.Proofs.RepeatedReads

/-!
# What the program that reports components does

The meter of the CPU packages is started again before the wait, so the totals behind it
are what the counter files show between the two moments, and nothing older. A total is
printed for each component that every package has. Its gauges decide whether there are
totals at all; a gauge of any other component is only read behind them, for the average
power, and can fail with the totals already printed.
-/

namespace EnergyMeter.Components

open Files Log Rapl

/-- Whether every package has a component. -/
def OnEvery (m : CpuMeter) (c : Component) : Prop :=
  ∀ id ∈ m.packages, (m.gauge? ⟨id, c⟩).isSome

/-- Whether every package has a component can be decided. -/
instance (m : CpuMeter) (c : Component) : Decidable (OnEvery m c) :=
  List.decidableBAll (fun id => (m.gauge? ⟨id, c⟩).isSome = true) m.packages

/-- The text of a component's total: what its gauges count between two moments, summed over
the packages. -/
def totalText (now later : View) (m : CpuMeter) (c : Component) : String :=
  Amount.text (sumAcross (consumed now later) m c)

/-- The part of the line for a component, if every package has it. -/
def part (now later : View) (m : CpuMeter) (words : String) (c : Component) : String :=
  if OnEvery m c then words ++ totalText now later m c else ""

/-- The line of totals. -/
def totalLine (now later : View) (m : CpuMeter) : String :=
  "Total Cpus Joules: " ++ totalText now later m .whole ++
    part now later m " Total Cores Joules: " .cores ++
    part now later m " Total Dram Joules: " .dram ++
    part now later m " Total Graphic Joules: " .graphic

/-- Whether all gauges of the components that the line shows can be read. -/
def TotalsReadable (v : View) (m : CpuMeter) : Prop :=
  ∀ c, OnEvery m c → ReadableAll v m c

/-- That meters were looked for, and among them there is one of the packages. -/
def Metered (found : Option Meters) (cpus : CpuMeter) : Prop :=
  ∃ m, found = some m ∧ m.cpus = some cpus

/-- What can be told of every run of the program, by what it finds and which gauges can be
read before and after the wait. -/
structure Reports (now later : View) (found : Option Meters) (stage : Stage) : Prop where
  /-- The packages, over which the totals are sums, are ascending. -/
  ascending : ∀ cpus, Metered found cpus → cpus.packages.Pairwise (· < ·)
  /-- Without settings or a search that gets through, nothing is printed. -/
  unfound : found = none → stage.EndsAtOnce 1 []
  /-- Without a meter of the packages, one line says so, whatever there is at the plug. -/
  absent : ∀ m, found = some m → m.cpus = none →
    stage.EndsAtOnce 1 ["Cpu counters not present on this machine."]
  /-- If some gauge cannot be started again, nothing is printed. -/
  unstarted : ∀ cpus, Metered found cpus → ¬ AllReadable now cpus → stage.EndsAtOnce 1 []
  /-- If some gauge of the totals cannot be read after the wait, there are no totals. -/
  untold : ∀ cpus, Metered found cpus → AllReadable now cpus → ¬ TotalsReadable later cpus →
    stage.EndsAfterWait later ["Sleeping 10 seconds."] 1 ["Sleeping 10 seconds."]
  /-- If all gauges can be read after the wait, the totals are the last line. -/
  told : ∀ cpus, Metered found cpus → AllReadable now cpus → TotalsReadable later cpus →
    (∀ c, ¬ OnEvery cpus c → ReadableAll later cpus c) →
    stage.EndsAfterWait later ["Sleeping 10 seconds."] 0
      ["Sleeping 10 seconds.", totalLine now later cpus]
  /-- A gauge of a component that only some packages have may fail behind the totals. -/
  toldThenFailed : ∀ cpus, Metered found cpus → AllReadable now cpus →
    TotalsReadable later cpus → (∃ c, ¬ OnEvery cpus c ∧ ¬ ReadableAll later cpus c) →
    stage.EndsAfterWait later ["Sleeping 10 seconds."] 1
      ["Sleeping 10 seconds.", totalLine now later cpus]

section

variable {v now later : View} {m m' : CpuMeter} {c : Component}

/-- The meter says of a component whether every package has it. -/
theorem has_eq_true : m.has c = true ↔ OnEvery m c :=
  List.all_eq_true

/-- Every package is there as a whole. -/
theorem onEvery_whole (m : CpuMeter) : OnEvery m .whole :=
  fun _ hid => CpuMeter.mem_packages.1 hid

/-- The texts of totals, joined. -/
def joined (v : View) (m : CpuMeter) (ts : List Title) : String :=
  ts.foldr
    (fun t line => t.words ++ Amount.text (sumAcross (totalAfter v) m t.component) ++ line) ""

/-- Totals whose gauges can be read are the sums after one read of each. -/
theorem totals_of_readable {ts : List Title} (h : PartlyRead v m m')
    (hall : ∀ t ∈ ts, ReadableAll v m t.component) :
    ∃ m'', totals v ts m' = (.ok (joined v m ts), m'') ∧ PartlyRead v m m'' := by
  induction ts generalizing m' with
  | nil => exact ⟨m', rfl, h⟩
  | cons t rest ih =>
    obtain ⟨next, hfirst, hnext⟩ := h.readAmount_of_readable (hall t List.mem_cons_self)
    obtain ⟨m'', hrest, hleft⟩ := ih hnext fun u hu => hall u (List.mem_cons_of_mem t hu)
    refine ⟨m'', ?_, hleft⟩
    simp only [totals, hfirst, hrest]
    rfl

/-- A total with a gauge that cannot be read is an error. -/
theorem totals_of_unreadable {ts : List Title} (h : PartlyRead v m m')
    (hsome : ∃ t ∈ ts, ¬ ReadableAll v m t.component) :
    ∃ e m'', totals v ts m' = (.error e, m'') := by
  induction ts generalizing m' with
  | nil =>
    obtain ⟨t, ht, -⟩ := hsome
    cases ht
  | cons t rest ih =>
    by_cases ht : ReadableAll v m t.component
    · have hrest : ∃ u ∈ rest, ¬ ReadableAll v m u.component := by
        obtain ⟨u, hu, hnot⟩ := hsome
        rcases List.mem_cons.1 hu with rfl | hu
        · exact absurd ht hnot
        · exact ⟨u, hu, hnot⟩
      obtain ⟨next, hfirst, hnext⟩ := h.readAmount_of_readable ht
      obtain ⟨e, m'', hlater⟩ := ih hnext hrest
      simp only [totals, hfirst, hlater]
      exact ⟨e, m'', rfl⟩
    · obtain ⟨e, next, hfirst⟩ := h.readAmount_of_unreadable ht
      simp only [totals, hfirst]
      exact ⟨e, next, rfl⟩

/-- The packages are all read behind the totals if all their gauges can be. -/
theorem averages_eq_none_iff {ids : List UInt32} (h : PartlyRead v m m')
    (hids : ∀ id ∈ ids, id ∈ m.packages) :
    (averages v ids m').2 = none ↔ ∀ id ∈ ids, PackageReadable v m id := by
  induction ids generalizing m' with
  | nil => simp [averages]
  | cons id rest ih =>
    obtain ⟨hnext, hread⟩ := h.read_package (hids id List.mem_cons_self)
    have hrest := ih hnext fun i hi => hids i (List.mem_cons_of_mem id hi)
    rw [List.forall_mem_cons, ← hread, ← hrest, averages]
    generalize m'.read v (.packageOf id) = answer
    obtain ⟨b | b, behind⟩ := answer <;> simp

/-- After a reset the same components are on every package. -/
theorem onEvery_restarted (h : Restarted v m m') : OnEvery m' c ↔ OnEvery m c := by
  unfold OnEvery
  simp only [h.packages, h.isSome_eq]

/-- What stands in the line behind the texts so far. -/
theorem append_part (now later : View) (m : CpuMeter) (words : String) (c : Component)
    (line : String) :
    (if OnEvery m c then words ++ Amount.text (sumAcross (consumed now later) m c) ++ line
      else line) = part now later m words c ++ line := by
  unfold part totalText
  split
  · rfl
  · rw [String.empty_append]

/-- The line that the program joins from its totals. -/
theorem joined_shownTitles (h : Restarted now m m') (later : View) :
    joined later m' (shownTitles m') = totalLine now later m := by
  have hhas : ∀ c, m'.has c = true ↔ OnEvery m c := fun c => has_eq_true.trans (onEvery_restarted h)
  unfold joined shownTitles
  simp only [List.foldr_filter, hhas, h.sumAcross_eq, append_part]
  unfold totalLine titles part totalText
  simp only [List.foldr_cons, List.foldr_nil, if_pos (onEvery_whole m), String.append_empty,
    String.append_assoc]

/-- If no other component is on every package, the line shows the packages as wholes. -/
theorem totalLine_of_whole (honly : ∀ c, OnEvery m c ↔ c = .whole) :
    totalLine now later m = "Total Cpus Joules: " ++ totalText now later m .whole := by
  have hpart : ∀ words c, c ≠ .whole → part now later m words c = "" := fun _ c hc =>
    if_neg fun hevery => hc ((honly c).1 hevery)
  unfold totalLine
  rw [hpart _ .cores (by decide), hpart _ .dram (by decide), hpart _ .graphic (by decide),
    String.append_empty, String.append_empty, String.append_empty]

/-- The line printed before the wait. -/
theorem waitLine_eq : waitLine = "Sleeping 10 seconds." := by
  decide

/-- Every component has a title. -/
theorem exists_title (c : Component) : ∃ t ∈ titles, t.component = c := by
  cases c <;> simp [titles]

/-- After the wait, totals that cannot be read end the program. -/
theorem seen_finish_of_unreadable (f : Filter) (shown : List String) (h : Restarted now m m')
    (hnot : ¬ TotalsReadable later m) :
    (finish f shown m' later).seen = ⟨1, ["Sleeping 10 seconds."], [10]⟩ := by
  have hsome : ∃ t ∈ shownTitles m', ¬ ReadableAll later m' t.component := by
    unfold TotalsReadable at hnot
    push Not at hnot
    obtain ⟨c, hevery, hunreadable⟩ := hnot
    obtain ⟨t, ht, rfl⟩ := exists_title c
    have hshown := has_eq_true.2 ((onEvery_restarted h).2 hevery)
    exact ⟨t, List.mem_filter.2 ⟨ht, hshown⟩, fun hall => hunreadable (h.readableAll_iff.1 hall)⟩
  obtain ⟨e, m'', htotals⟩ := totals_of_unreadable (PartlyRead.refl later m') hsome
  unfold finish
  rw [htotals, waitLine_eq]
  rfl

/-- After the wait, totals that can be read are printed; then the packages are read. -/
theorem seen_finish_of_readable (f : Filter) (shown : List String) (h : Restarted now m m')
    (hall : TotalsReadable later m) {exit : Nat}
    (hexit : (exit = 0 ∧ AllReadable later m) ∨ (exit = 1 ∧ ¬ AllReadable later m)) :
    (finish f shown m' later).seen =
      ⟨exit, ["Sleeping 10 seconds.", totalLine now later m], [10]⟩ := by
  have hshown : ∀ t ∈ shownTitles m', ReadableAll later m' t.component := by
    intro t ht
    have hhas := (List.mem_filter.1 ht).2
    exact h.readableAll_iff.2 (hall _ ((onEvery_restarted h).1 (has_eq_true.1 hhas)))
  obtain ⟨m'', htotals, hread⟩ := totals_of_readable (PartlyRead.refl later m') hshown
  have haverages := averages_eq_none_iff hread fun _ hid => hid
  rw [packageReadable_iff] at haverages
  simp only [AllReadable, h.readableAll_iff] at haverages
  unfold finish
  rw [htotals, waitLine_eq, joined_shownTitles h]
  rcases hexit with ⟨rfl, hwell⟩ | ⟨rfl, hnot⟩
  · simp only [haverages.2 hwell]
    rfl
  · cases hfailure : (averages later m'.packages m'').2 with
    | none => exact absurd (haverages.1 hfailure) hnot
    | some e =>
      simp only [hfailure]
      rfl

/-- Without a meter of the packages the program ends at once. -/
theorem reportMeter_of_none (f : Filter) (shown : List String) {m : Meters} (h : m.cpus = none) :
    (reportMeter f shown now m).EndsAtOnce 1 ["Cpu counters not present on this machine."] := by
  unfold reportMeter
  rw [h]
  exact ⟨_, rfl, rfl⟩

/-- A reset that fails ends the program. -/
theorem reportMeter_of_error (f : Filter) (shown : List String) {m : Meters} {cpus : CpuMeter}
    (h : m.cpus = some cpus) (hnot : ¬ AllReadable now cpus) :
    (reportMeter f shown now m).EndsAtOnce 1 [] := by
  obtain ⟨e, cpus', hreset⟩ := reset_of_unreadable hnot
  unfold reportMeter
  simp only [h, hreset]
  exact ⟨_, rfl, rfl⟩

/-- After a reset the program waits. -/
theorem reportMeter_of_ok (f : Filter) (shown : List String) {m : Meters} {cpus : CpuMeter}
    (h : m.cpus = some cpus) (hall : AllReadable now cpus) :
    ∃ cpus', Restarted now cpus cpus' ∧ reportMeter f shown now m =
      .waiting (.succeed ["Sleeping 10 seconds."] shown [10]) 10 (finish f shown cpus') := by
  obtain ⟨cpus', hreset, hrestarted⟩ := reset_of_readable hall
  refine ⟨cpus', hrestarted, ?_⟩
  unfold reportMeter
  simp only [h, hreset, waitLine_eq]
  rfl

/-- With the meters at hand the program does what it is to do. -/
theorem reports_reportMeter (f : Filter) (shown : List String) (now later : View) (m : Meters) :
    Reports now later (some m) (reportMeter f shown now m) where
  ascending := fun cpus _ => cpus.ascending_packages
  unfound := nofun
  absent := by
    rintro _ ⟨⟩ hnone
    exact reportMeter_of_none f shown hnone
  unstarted := by
    rintro cpus ⟨_, ⟨⟩, hcpus⟩ hnot
    exact reportMeter_of_error f shown hcpus hnot
  untold := by
    rintro cpus ⟨_, ⟨⟩, hcpus⟩ hall hnot
    obtain ⟨cpus', hrestarted, hwaits⟩ := reportMeter_of_ok f shown hcpus hall
    exact ⟨_, _, hwaits, rfl, seen_finish_of_unreadable f shown hrestarted hnot⟩
  told := by
    rintro cpus ⟨_, ⟨⟩, hcpus⟩ hall htotals hothers
    obtain ⟨cpus', hrestarted, hwaits⟩ := reportMeter_of_ok f shown hcpus hall
    have hwell : AllReadable later cpus := by
      intro c
      by_cases hc : OnEvery cpus c
      · exact htotals c hc
      · exact hothers c hc
    exact ⟨_, _, hwaits, rfl,
      seen_finish_of_readable f shown hrestarted htotals (Or.inl ⟨rfl, hwell⟩)⟩
  toldThenFailed := by
    rintro cpus ⟨_, ⟨⟩, hcpus⟩ hall htotals ⟨c, -, hunreadable⟩
    obtain ⟨cpus', hrestarted, hwaits⟩ := reportMeter_of_ok f shown hcpus hall
    exact ⟨_, _, hwaits, rfl, seen_finish_of_readable f shown hrestarted htotals
      (Or.inr ⟨rfl, fun hwell => hunreadable (hwell c)⟩)⟩

end

/-- Without settings or a search that gets through there is nothing else to tell. -/
theorem reports_of_unfound {now later : View} {stage : Stage} (h : stage.EndsAtOnce 1 []) :
    Reports now later none stage where
  ascending := by rintro _ ⟨_, ⟨⟩, -⟩
  unfound := fun _ => h
  absent := nofun
  unstarted := by rintro _ ⟨_, ⟨⟩, -⟩
  untold := by rintro _ ⟨_, ⟨⟩, -⟩
  told := by rintro _ ⟨_, ⟨⟩, -⟩
  toldThenFailed := by rintro _ ⟨_, ⟨⟩, -⟩

/-- So it does with the meters that it finds. -/
theorem reports_start (c : Context) (v later : View) :
    Reports v later (metersFound v c.environment) (start c v) := by
  have hvalue := Machine.here_value v c.environment
  cases hfound : metersFound v c.environment with
  | none =>
    rw [hfound] at hvalue
    obtain ⟨e, hhere⟩ := hvalue
    refine reports_of_unfound ?_
    unfold start
    simp only [hhere]
    exact ⟨_, rfl, rfl⟩
  | some m =>
    rw [hfound] at hvalue
    obtain ⟨machine, hhere, rfl⟩ := hvalue
    unfold start
    simp only [hhere]
    exact reports_reportMeter _ _ v later machine.meters

/-- What is seen of a run is settled by what it finds and the files. -/
theorem Reports.seen_eq {now later : View} {found : Option Meters} {stage stage' : Stage}
    (h : Reports now later found stage) (h' : Reports now later found stage') :
    (stage.run later).seen = (stage'.run later).seen := by
  cases found with
  | none => rw [(h.unfound rfl).seen, (h'.unfound rfl).seen]
  | some m =>
    cases hcpus : m.cpus with
    | none => rw [(h.absent m rfl hcpus).seen, (h'.absent m rfl hcpus).seen]
    | some cpus =>
      have hfound : Metered (some m) cpus := ⟨m, rfl, hcpus⟩
      by_cases hall : AllReadable now cpus
      · by_cases htotals : TotalsReadable later cpus
        · by_cases hothers : ∀ c, ¬ OnEvery cpus c → ReadableAll later cpus c
          · rw [(h.told cpus hfound hall htotals hothers).seen,
              (h'.told cpus hfound hall htotals hothers).seen]
          · push Not at hothers
            rw [(h.toldThenFailed cpus hfound hall htotals hothers).seen,
              (h'.toldThenFailed cpus hfound hall htotals hothers).seen]
        · rw [(h.untold cpus hfound hall htotals).seen,
            (h'.untold cpus hfound hall htotals).seen]
      · rw [(h.unstarted cpus hfound hall).seen, (h'.unstarted cpus hfound hall).seen]

/-- Whatever was asked of the meter before, the program does the same. -/
theorem reportMeter_runCalls (f : Filter) (shown : List String) (now : View) (cpus : CpuMeter)
    (plug : Option Hwmon.PlugMeter) (past : List (View × CpuCall)) :
    reportMeter f shown now ⟨some (runCalls CpuCall.perform cpus past).2, plug⟩ =
      reportMeter f shown now ⟨some cpus, plug⟩ := by
  have hlayout := layout_runCalls CpuMeter.layout_perform cpus past
  unfold reportMeter
  dsimp only
  rcases reset_congr now hlayout with ⟨e, hanswer, hanswer'⟩ | hsame
  · rw [← Prod.mk.eta (p := CpuMeter.reset now _), hanswer,
      ← Prod.mk.eta (p := CpuMeter.reset now cpus), hanswer']
  · rw [hsame]

/-- Every run of the program, whatever the settings, the files and their changes during the
wait, is told by what it finds and which gauges can be read; so it is from meters at hand, of
which some gauges may have become unreadable. What was asked of the meter before has no part in
it, and neither has the log filter. -/
theorem reports_components :
    (∀ (c : Context) (v later : View), Reports v later (metersFound v c.environment) (start c v)) ∧
    (∀ (f : Filter) (shown : List String) (now later : View) (m : Meters),
      Reports now later (some m) (reportMeter f shown now m)) ∧
    (∀ (f : Filter) (shown : List String) (now : View) (cpus : CpuMeter)
      (plug : Option Hwmon.PlugMeter) (past : List (View × CpuCall)),
      reportMeter f shown now ⟨some (runCalls CpuCall.perform cpus past).2, plug⟩ =
        reportMeter f shown now ⟨some cpus, plug⟩) ∧
    ∀ (env : Environment) (filter filter' : Option String) (v later : View),
      ((start ⟨env, filter⟩ v).run later).seen = ((start ⟨env, filter'⟩ v).run later).seen := by
  refine ⟨reports_start, reports_reportMeter, reportMeter_runCalls, ?_⟩
  exact fun env filter filter' v later =>
    (reports_start ⟨env, filter⟩ v later).seen_eq (reports_start ⟨env, filter'⟩ v later)

/-- The files of two packages as wholes. -/
def wholesOnly : View :=
  .listing ⟨"zones"⟩ []
    [("zones/intel-rapl:0/energy_uj", "40"), ("zones/intel-rapl:3/energy_uj", "100170")]

/-- These meters have no other component on every package. -/
theorem onEvery_iff_whole (c : Component) :
    (OnEvery packageMeter c ↔ c = .whole) ∧ (OnEvery unevenMeter c ↔ c = .whole) := by
  cases c <;> decide

/-- The line of a tenth of a joule, counted across a start of the counter, and two tenths. -/
theorem totalLine_packageMeter :
    totalLine (.packagesAt "950000" "100") (.packagesAt "49999" "200100") packageMeter =
      "Total Cpus Joules: 0.30000000000000004" := by
  have hsum : sumAcross (consumed (.packagesAt "950000" "100") (.packagesAt "49999" "200100"))
      packageMeter .whole =
        0 + consumed (.packagesAt "950000" "100") (.packagesAt "49999" "200100") firstPackage +
          consumed (.packagesAt "950000" "100") (.packagesAt "49999" "200100") secondPackage := by
    rfl
  have hfirst : consumed (.packagesAt "950000" "100") (.packagesAt "49999" "200100")
      firstPackage = 0.1 := by rfl
  have hsecond : consumed (.packagesAt "950000" "100") (.packagesAt "49999" "200100")
      secondPackage = 0.2 := by rfl
  rw [totalLine_of_whole fun c => (onEvery_iff_whole c).1, totalText, hsum, hfirst, hsecond]
  decide +kernel

/-- The line of the uneven meter, of whose packages only the wholes can still be read. -/
theorem totalLine_unevenMeter :
    totalLine (.holding "170") wholesOnly unevenMeter = "Total Cpus Joules: 0.100871" := by
  have hsum : sumAcross (consumed (.holding "170") wholesOnly) unevenMeter .whole =
      0.000871 + 0.1 := by rfl
  rw [totalLine_of_whole fun c => (onEvery_iff_whole c).2, totalText, hsum]
  decide +kernel

/-- During the wait the counters of two packages count a tenth of a joule and two tenths: their
floating-point sum is printed. From the uneven meter, whose files for the cores and the memory
are gone after the wait, a total is printed, too, before the program fails. -/
theorem reports_components_of_two :
    let c : Context := ⟨⟨⟨none, some "/root"⟩, none⟩, none⟩
    let later : View := .packagesAt "49999" "200100"
    (start c (.packagesAt "950000" "100")).EndsAfterWait later ["Sleeping 10 seconds."] 0
        ["Sleeping 10 seconds.", "Total Cpus Joules: 0.30000000000000004"] ∧
      (reportMeter (c.filter "info") [] (.holding "170")
        ⟨some unevenMeter, none⟩).EndsAfterWait wholesOnly ["Sleeping 10 seconds."] 1
        ["Sleeping 10 seconds.", "Total Cpus Joules: 0.100871"] := by
  intro c later
  obtain ⟨hstart, hmeter, -⟩ := reports_components
  rw [← totalLine_packageMeter, ← totalLine_unevenMeter]
  constructor
  · have hreports := hstart c (.packagesAt "950000" "100") later
    rw [show metersFound (.packagesAt "950000" "100") c.environment = _ from
      metersFound_packagesAt] at hreports
    have hgauges : ∀ {d id g}, packageMeter.gauge? ⟨id, d⟩ = some g →
        g.Readable (.packagesAt "950000" "100") ∧ g.Readable later := by
      intro d id g hg
      have hmem := CpuMeter.gauge?_eq_some.1 hg
      simp only [packageMeter, List.mem_cons, Prod.mk.injEq, List.not_mem_nil, or_false] at hmem
      obtain ⟨-, rfl⟩ | ⟨-, rfl⟩ := hmem
      · exact ⟨⟨950000, rfl⟩, 49999, rfl⟩
      · exact ⟨⟨100, rfl⟩, 200100, rfl⟩
    exact hreports.told packageMeter ⟨_, rfl, rfl⟩ (fun _ _ _ hg => (hgauges hg).1)
      (fun _ _ _ _ hg => (hgauges hg).2) (fun _ _ _ _ hg => (hgauges hg).2)
  · have hreports :=
      hmeter (c.filter "info") [] (.holding "170") wholesOnly ⟨some unevenMeter, none⟩
    have htotals : TotalsReadable wholesOnly unevenMeter := by
      intro d hd id g hg
      cases (onEvery_iff_whole d).2.1 hd
      have hmem := CpuMeter.gauge?_eq_some.1 hg
      simp only [unevenMeter, List.mem_cons, Prod.mk.injEq, Slot.mk.injEq, reduceCtorEq,
        and_true, and_false, false_and, false_or, List.not_mem_nil, or_false] at hmem
      obtain ⟨-, rfl⟩ | ⟨-, rfl⟩ := hmem
      · exact ⟨40, rfl⟩
      · exact ⟨100170, rfl⟩
    have hcores : ¬ ReadableAll wholesOnly unevenMeter .cores := by
      intro hall
      obtain ⟨n, hn⟩ := hall 0 _ rfl
      cases hn
    exact hreports.toldThenFailed unevenMeter ⟨_, rfl, rfl⟩ (fun _ _ _ _ => ⟨170, rfl⟩) htotals
      ⟨.cores, by decide, hcores⟩

end EnergyMeter.Components
