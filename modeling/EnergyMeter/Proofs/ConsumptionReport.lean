import EnergyMeter.Program.Consumption
import EnergyMeter.Proofs.ProgramRuns
import EnergyMeter.Proofs.TotalReads

/-!
# What the program that reports consumption does

A run goes one of four ways: the meters cannot be looked for or the first read fails,
there is no meter, the second read fails, or both reads succeed. Which way it goes is
settled by the files and the settings alone: a read succeeds if the files of the meter's
total hold counts, and what it gives is told from those counts. The ways exclude each
other, and each settles the exit status, the output and the waits.
-/

namespace EnergyMeter.Consumption

open Files Log

/-- The kind of meter that is preferred: that of the CPU packages, and the one at the plug
only without it. -/
inductive Preferred (m : Meters) : MeterKind → Prop
  /-- There is a meter of the packages. -/
  | cpus (h : m.cpus.isSome) : Preferred m .cpus
  /-- There is only the meter at the plug. -/
  | plug (hnone : m.cpus = none) (h : m.plug.isSome) : Preferred m .plug

/-- That meters were looked for and there is none. -/
def Missing (found : Option Meters) : Prop :=
  ∃ m, found = some m ∧ m.cpus = none ∧ m.plug = none

/-- The joules of a gauge once a read has added what its file counts since the value seen last. -/
def opening (now : View) (g : Gauge) : Float :=
  match Sensor.count now g.file with
  | .ok first => g.total + (countedBetween g.last first g.range).toFloat / 1000000
  | .error _ => 0

/-- Its joules once a second read has added what the file counts since the first one. -/
def closing (now later : View) (g : Gauge) : Float :=
  match Sensor.count now g.file, Sensor.count later g.file with
  | .ok first, .ok second =>
    g.total + (countedBetween g.last first g.range).toFloat / 1000000 +
      (countedBetween first second g.range).toFloat / 1000000
  | _, _ => 0

/-- That the first read of the preferred meter succeeds: all files of its total hold counts. What
it gives is the total of the joules then. -/
def Opened (now : View) (found : Option Meters) (start : Float) : Prop :=
  ∃ m kind, found = some m ∧ Preferred m kind ∧ m.TotalReadable now kind ∧
    m.totalOf? (opening now) kind = some start

/-- That both reads of the preferred meter succeed: all files of its total hold counts, now and
later. What they give are the totals of the joules then. -/
def Closed (now later : View) (found : Option Meters) (start stop : Float) : Prop :=
  ∃ m kind, found = some m ∧ Preferred m kind ∧ m.TotalReadable now kind ∧
    m.TotalReadable later kind ∧ m.totalOf? (opening now) kind = some start ∧
    m.totalOf? (closing now later) kind = some stop

/-- What can be told of every run of the program, by what it finds and how its reads end. -/
structure Reports (now later : View) (found : Option Meters) (stage : Stage) : Prop where
  /-- A run that ends well prints one line. -/
  line : (stage.run later).exit = 0 → ∃ line, (stage.run later).output = [line] ∧ OneLine line
  /-- Every other run prints nothing. -/
  silent : (stage.run later).exit ≠ 0 →
    (stage.run later).exit = 1 ∧ (stage.run later).output = []
  /-- A run ends well if the settings are loaded, the search gets through, and either there
  is no meter or both reads succeed. -/
  well : (stage.run later).exit = 0 ↔
    Missing found ∨ ∃ start stop, Closed now later found start stop
  /-- Without a meter the line says so, and nothing waits. -/
  unavailable : Missing found → stage.EndsAtOnce 0 ["Energy counters not available."]
  /-- No other run says so. -/
  available : "Energy counters not available." ∈ (stage.run later).output → Missing found
  /-- After two reads the line tells the second less the first. -/
  consumed : ∀ start stop, Closed now later found start stop →
    (stage.run later).output =
      ["Consumed " ++ Amount.text (stop - start) ++ " joules in the last 10 seconds."]
  /-- After a first read the program waits once, with nothing printed before. -/
  waits : (∃ start, Opened now found start) →
    ∃ exit output, stage.EndsAfterWait later [] exit output
  /-- Without a first read it never waits. -/
  waitless : (¬ ∃ start, Opened now found start) → ∃ exit output, stage.EndsAtOnce exit output

/-- The four ways of a run. -/
inductive Course (now later : View) (found : Option Meters) (stage : Stage) : Prop
  /-- The meters cannot be looked for, or the first read fails. -/
  | unopened (hmissing : ¬ Missing found) (hopened : ∀ start, ¬ Opened now found start)
      (h : stage.EndsAtOnce 1 [])
  /-- There is no meter. -/
  | missing (hmissing : Missing found) (h : stage.EndsAtOnce 0 [Measurement.unavailable.text])
  /-- The second read fails. -/
  | unclosed (start : Float) (hopened : Opened now found start)
      (hclosed : ∀ start stop, ¬ Closed now later found start stop)
      (h : stage.EndsAfterWait later [] 1 [])
  /-- Both reads succeed. -/
  | closed (start stop : Float) (hclosed : Closed now later found start stop)
      (h : stage.EndsAfterWait later [] 0 [(Measurement.consumed (stop - start) 10).text])

section

variable {now later : View} {m : Meters} {found : Option Meters} {kind : MeterKind}
  {start start' stop stop' : Float} {stage : Stage}

/-- The best kind of meter is the preferred one. -/
theorem best?_eq_some : m.best? = some kind ↔ Preferred m kind := by
  obtain ⟨cpus, plug⟩ := m
  constructor
  · intro h
    cases cpus with
    | some c =>
      cases h
      exact .cpus rfl
    | none =>
      cases plug with
      | some p =>
        cases h
        exact .plug rfl rfl
      | none => cases h
  · rintro (h | ⟨hnone, h⟩)
    · obtain ⟨c, rfl⟩ := Option.isSome_iff_exists.1 h
      rfl
    · obtain ⟨p, rfl⟩ := Option.isSome_iff_exists.1 h
      cases hnone
      rfl

/-- There is no best kind if there is no meter. -/
theorem best?_eq_none : m.best? = none ↔ Missing (some m) := by
  obtain ⟨cpus, plug⟩ := m
  constructor
  · intro h
    cases cpus with
    | some c => cases h
    | none =>
      cases plug with
      | some p => cases h
      | none => exact ⟨_, rfl, rfl, rfl⟩
  · rintro ⟨m, hm, hcpus, hplug⟩
    cases hm
    cases hcpus
    cases hplug
    rfl

/-- Only one kind is preferred. -/
theorem Preferred.unique {kind' : MeterKind} (h : Preferred m kind) (h' : Preferred m kind') :
    kind = kind' :=
  Option.some.inj ((best?_eq_some.2 h).symm.trans (best?_eq_some.2 h'))

/-- A preferred meter is there. -/
theorem Preferred.has (h : Preferred m kind) : m.has kind = true := by
  cases h with
  | cpus h => exact h
  | plug _ h => exact h

/-- The total behind a first read is that of the joules then. -/
theorem total_opening {m' : Meters} (h : ReadsTotal now kind m m' start) :
    m.totalOf? (opening now) kind = some start := by
  rw [← h.total, Meters.total?_eq_totalOf?]
  refine (h.totalOf?_eq fun g n hn => ?_).symm
  simp only [opening, hn]
  rfl

/-- The total behind a second read, too. -/
theorem total_closing {m' m'' : Meters} (h : ReadsTotal now kind m m' start)
    (h' : ReadsTotal later kind m' m'' stop) :
    m.totalOf? (closing now later) kind = some stop := by
  rw [← total_opening h']
  refine (h.totalOf?_eq fun g n hn => ?_).symm
  have hfile : (g.book n).file = g.file := rfl
  simp only [opening, closing, hn, hfile]
  cases Sensor.count later g.file <;> rfl

end

section

variable {now later : View} {m m' m'' : Meters} {found : Option Meters} {kind : MeterKind}
  {start start' stop stop' : Float} {stage : Stage} {f : Filter} {shown : List String} {e : Error}

/-- A meter that was read once is there. -/
theorem Opened.not_missing (h : Opened now found start) : ¬ Missing found := by
  obtain ⟨m, kind, rfl, hkind, -⟩ := h
  rw [← best?_eq_none, best?_eq_some.2 hkind]
  exact Option.some_ne_none kind

/-- A meter that was read twice was read once. -/
theorem Closed.opened (h : Closed now later found start stop) : Opened now found start := by
  obtain ⟨m, kind, hfound, hkind, hnow, -, hstart, -⟩ := h
  exact ⟨m, kind, hfound, hkind, hnow, hstart⟩

/-- What the reads give is settled by the meters and the files. -/
theorem Closed.unique (h : Closed now later found start stop)
    (h' : Closed now later found start' stop') : start = start' ∧ stop = stop' := by
  obtain ⟨m, kind, hfound, hkind, -, -, hstart, hstop⟩ := h
  obtain ⟨n, kind', hfound', hkind', -, -, hstart', hstop'⟩ := h'
  cases hfound.symm.trans hfound'
  cases hkind.unique hkind'
  cases hstart.symm.trans hstart'
  cases hstop.symm.trans hstop'
  exact ⟨rfl, rfl⟩

/-- Without a meter the program ends at once. -/
theorem measureBest_of_none (f : Filter) (shown : List String) (h : m.best? = none) :
    measureBest f shown now m = .ended (.succeed [Measurement.unavailable.text] shown []) := by
  unfold measureBest
  rw [h]

/-- A first read that fails ends the program. -/
theorem measureBest_of_error (f : Filter) (shown : List String) (h : m.best? = some kind)
    (hread : m.joules? now kind = some (.error e, m')) :
    measureBest f shown now m = .ended (.fail e [] shown []) := by
  unfold measureBest Window.begin Bench.joules
  rw [h]
  simp only [hread, Except.map]

/-- After a first read the program waits. -/
theorem measureBest_of_ok (f : Filter) (shown : List String) (h : m.best? = some kind)
    (hread : m.joules? now kind = some (.ok start, m')) :
    measureBest f shown now m =
      .waiting (.succeed [] shown [10]) 10 (finish f shown kind ⟨start, 10⟩ m') := by
  unfold measureBest Window.begin Bench.joules
  rw [h]
  simp only [hread, Except.map]
  rfl

/-- A second read that fails ends the program with nothing printed. -/
theorem seen_finish_of_error {w : Window} (hread : m.joules? later kind = some (.error e, m')) :
    (finish f shown kind w m later).seen = ⟨1, [], [10]⟩ := by
  unfold finish Window.close Bench.joules
  simp only [hread]
  rfl

/-- After a second read the program prints its sentence. -/
theorem seen_finish_of_ok {w : Window} (hread : m.joules? later kind = some (.ok stop, m')) :
    (finish f shown kind w m later).seen =
      ⟨0, [(Measurement.consumed (stop - w.start) w.seconds).text], [10]⟩ := by
  unfold finish Window.close Bench.joules
  simp only [hread]
  rfl

/-- With the meters at hand the program goes one of the four ways. -/
theorem course_measureBest (f : Filter) (shown : List String) (now later : View) (m : Meters) :
    Course now later (some m) (measureBest f shown now m) := by
  cases hbest : m.best? with
  | none => exact .missing (best?_eq_none.1 hbest) ⟨_, measureBest_of_none f shown hbest, rfl⟩
  | some kind =>
    have hkind := best?_eq_some.1 hbest
    obtain ⟨start, m', hfirst, hnow, hopened⟩ | ⟨e, m', hfirst, hnot⟩ :=
      m.joules?_cases now hkind.has
    · have hwaits := measureBest_of_ok f shown hbest hfirst
      have hhas : m'.has kind = true := by rw [hopened.has, hkind.has]
      obtain ⟨stop, m'', hsecond, hlater, hclosed⟩ | ⟨e, m'', hsecond, hnot⟩ :=
        m'.joules?_cases later hhas
      · exact .closed start stop
          ⟨m, kind, rfl, hkind, hnow, (hopened.totalReadable_iff later).1 hlater,
            total_opening hopened, total_closing hopened hclosed⟩
          ⟨_, _, hwaits, rfl, seen_finish_of_ok hsecond⟩
      · refine .unclosed start ⟨m, kind, rfl, hkind, hnow, total_opening hopened⟩
          (fun start stop h => ?_) ⟨_, _, hwaits, rfl, seen_finish_of_error hsecond⟩
        obtain ⟨n, kind', hn, hkind', -, hlater, -⟩ := h
        cases hn
        cases hkind.unique hkind'
        exact hnot ((hopened.totalReadable_iff later).2 hlater)
    · have hmissing : ¬ Missing (some m) := by
        rw [← best?_eq_none, hbest]
        exact Option.some_ne_none kind
      refine .unopened hmissing (fun start h => ?_)
        ⟨_, measureBest_of_error f shown hbest hfirst, rfl⟩
      obtain ⟨n, kind', hn, hkind', hnow, -⟩ := h
      cases hn
      cases hkind.unique hkind'
      exact hnot hnow

/-- The first read succeeds, and gives what it gives, as the files say. -/
theorem opened_iff_read : Opened now found start ↔
    ∃ m kind m', found = some m ∧ Preferred m kind ∧
      m.joules? now kind = some (.ok start, m') := by
  constructor
  · rintro ⟨m, kind, hfound, hkind, hnow, hstart⟩
    obtain ⟨total, m', hread, -, hopened⟩ | ⟨e, m', -, hnot⟩ := m.joules?_cases now hkind.has
    · cases hstart.symm.trans (total_opening hopened)
      exact ⟨m, kind, m', hfound, hkind, hread⟩
    · exact absurd hnow hnot
  · rintro ⟨m, kind, m', hfound, hkind, hread⟩
    obtain ⟨hnow, hopened⟩ := readsTotal_of_joules? hkind.has hread
    exact ⟨m, kind, hfound, hkind, hnow, total_opening hopened⟩

/-- So does the second. -/
theorem closed_iff_read : Closed now later found start stop ↔
    ∃ m kind m' m'', found = some m ∧ Preferred m kind ∧
      m.joules? now kind = some (.ok start, m') ∧
      m'.joules? later kind = some (.ok stop, m'') := by
  constructor
  · rintro ⟨m, kind, hfound, hkind, hnow, hlater, hstart, hstop⟩
    obtain ⟨total, m', hread, -, hopened⟩ | ⟨e, m', -, hnot⟩ := m.joules?_cases now hkind.has
    · cases hstart.symm.trans (total_opening hopened)
      have hhas : m'.has kind = true := by rw [hopened.has, hkind.has]
      obtain ⟨total, m'', hread', -, hclosed⟩ | ⟨e, m'', -, hnot⟩ := m'.joules?_cases later hhas
      · cases hstop.symm.trans (total_closing hopened hclosed)
        exact ⟨m, kind, m', m'', hfound, hkind, hread, hread'⟩
      · exact absurd ((hopened.totalReadable_iff later).2 hlater) hnot
    · exact absurd hnow hnot
  · rintro ⟨m, kind, m', m'', hfound, hkind, hread, hread'⟩
    obtain ⟨hnow, hopened⟩ := readsTotal_of_joules? hkind.has hread
    have hhas : m'.has kind = true := by rw [hopened.has, hkind.has]
    obtain ⟨hlater, hclosed⟩ := readsTotal_of_joules? hhas hread'
    exact ⟨m, kind, hfound, hkind, hnow, (hopened.totalReadable_iff later).1 hlater,
      total_opening hopened, total_closing hopened hclosed⟩

/-- The sentence of a measurement over ten seconds. -/
theorem text_consumed (x : Float) : (Measurement.consumed x 10).text =
    "Consumed " ++ Amount.text x ++ " joules in the last 10 seconds." := by
  have htail : " joules in the last " ++ (toString (10 : UInt64).toNat ++ " seconds.") =
      " joules in the last 10 seconds." := by decide
  show "Consumed " ++ Amount.text x ++ " joules in the last " ++
    toString (10 : UInt64).toNat ++ " seconds." = _
  rw [String.append_assoc, String.append_assoc, htail]

/-- It is not the one for a missing meter. -/
theorem text_consumed_ne (x : Float) :
    (Measurement.consumed x 10).text ≠ "Energy counters not available." := by
  intro h
  rw [text_consumed] at h
  have hlists := congrArg String.toList h
  simp at hlists

/-- It stays on one line. -/
theorem oneLine_consumed (x : Float) : OneLine (Measurement.consumed x 10).text := by
  rw [text_consumed]
  exact (OneLine.append (by decide) (Amount.oneLine_text x)).append (by decide)

/-- A run that ends with an error, be it before or after a wait. -/
theorem reports_of_silent {waits : List UInt64} (hseen : (stage.run later).seen = ⟨1, [], waits⟩)
    (hmissing : ¬ Missing found) (hclosed : ∀ start stop, ¬ Closed now later found start stop)
    (hwaits : (∃ start, Opened now found start) →
      ∃ exit output, stage.EndsAfterWait later [] exit output)
    (hwaitless : (¬ ∃ start, Opened now found start) →
      ∃ exit output, stage.EndsAtOnce exit output) : Reports now later found stage := by
  have hexit : (stage.run later).exit = 1 := congrArg Sight.exit hseen
  have houtput : (stage.run later).output = [] := congrArg Sight.output hseen
  have hfailed : (stage.run later).exit ≠ 0 := by
    rw [hexit]
    exact Nat.one_ne_zero
  exact {
    line := fun h => absurd h hfailed
    silent := fun _ => ⟨hexit, houtput⟩
    well := by
      constructor
      · exact fun h => absurd h hfailed
      · rintro (h | ⟨start, stop, h⟩)
        · exact absurd h hmissing
        · exact absurd h (hclosed start stop)
    unavailable := fun h => absurd h hmissing
    available := fun h => by
      rw [houtput] at h
      cases h
    consumed := fun start stop h => absurd h (hclosed start stop)
    waits := hwaits
    waitless := hwaitless }

/-- What can be told of a run follows from the way that it goes. -/
theorem Course.reports (h : Course now later found stage) : Reports now later found stage := by
  cases h with
  | unopened hmissing hopened h =>
    exact reports_of_silent (h.seen later) hmissing (fun start stop hc => hopened start hc.opened)
      (fun ⟨start, ho⟩ => absurd ho (hopened start)) (fun _ => ⟨1, [], h⟩)
  | unclosed start hopened hclosed h =>
    exact reports_of_silent h.seen hopened.not_missing hclosed
      (fun _ => ⟨1, [], h⟩) (fun hnone => absurd ⟨start, hopened⟩ hnone)
  | missing hmissing h =>
    have hexit : (stage.run later).exit = 0 := congrArg Sight.exit (h.seen later)
    have houtput : (stage.run later).output = [Measurement.unavailable.text] :=
      congrArg Sight.output (h.seen later)
    have hopened : ∀ start, ¬ Opened now found start := fun start ho => ho.not_missing hmissing
    exact {
      line := fun _ => ⟨_, houtput, by decide⟩
      silent := fun hfailed => absurd hexit hfailed
      well := ⟨fun _ => Or.inl hmissing, fun _ => hexit⟩
      unavailable := fun _ => h
      available := fun _ => hmissing
      consumed := fun start stop hc => absurd hc.opened (hopened start)
      waits := fun ⟨start, ho⟩ => absurd ho (hopened start)
      waitless := fun _ => ⟨0, _, h⟩ }
  | closed start stop hclosed h =>
    have hexit : (stage.run later).exit = 0 := congrArg Sight.exit h.seen
    have houtput : (stage.run later).output = [(Measurement.consumed (stop - start) 10).text] :=
      congrArg Sight.output h.seen
    have hmissing : ¬ Missing found := hclosed.opened.not_missing
    exact {
      line := fun _ => ⟨_, houtput, oneLine_consumed _⟩
      silent := fun hfailed => absurd hexit hfailed
      well := ⟨fun _ => Or.inr ⟨start, stop, hclosed⟩, fun _ => hexit⟩
      unavailable := fun hm => absurd hm hmissing
      available := fun hsaid => by
        rw [houtput, List.mem_singleton] at hsaid
        exact absurd hsaid.symm (text_consumed_ne _)
      consumed := fun start' stop' hclosed' => by
        obtain ⟨rfl, rfl⟩ := hclosed.unique hclosed'
        rw [houtput, text_consumed]
      waits := fun _ => ⟨0, _, h⟩
      waitless := fun hnone => absurd ⟨start, hclosed.opened⟩ hnone }

end

/-- So it does with the meters that it finds. -/
theorem course_start (c : Context) (v later : View) :
    Course v later (metersFound v c.environment) (start c v) := by
  have hvalue := Machine.here_value v c.environment
  cases hfound : metersFound v c.environment with
  | none =>
    rw [hfound] at hvalue
    obtain ⟨e, hhere⟩ := hvalue
    have hends : (start c v).EndsAtOnce 1 [] := by
      unfold start
      simp only [hhere]
      exact ⟨_, rfl, rfl⟩
    refine .unopened ?_ ?_ hends
    · rintro ⟨m, hm, -⟩
      cases hm
    · rintro start ⟨m, kind, hm, -⟩
      cases hm
  | some m =>
    rw [hfound] at hvalue
    obtain ⟨machine, hhere, rfl⟩ := hvalue
    unfold start
    simp only [hhere]
    exact course_measureBest _ _ v later machine.meters

/-- The ways of a run settle what is seen of it. -/
theorem Course.seen_eq {now later : View} {found : Option Meters} {stage stage' : Stage}
    (h : Course now later found stage) (h' : Course now later found stage') :
    (stage.run later).seen = (stage'.run later).seen := by
  cases h with
  | unopened hmissing hopened h =>
    cases h' with
    | unopened _ _ h' => rw [h.seen, h'.seen]
    | missing hmissing' _ => exact absurd hmissing' hmissing
    | unclosed start hopened' _ _ => exact absurd hopened' (hopened start)
    | closed start _ hclosed _ => exact absurd hclosed.opened (hopened start)
  | missing hmissing h =>
    cases h' with
    | unopened hmissing' _ _ => exact absurd hmissing hmissing'
    | missing _ h' => rw [h.seen, h'.seen]
    | unclosed _ hopened _ => exact absurd hmissing hopened.not_missing
    | closed _ _ hclosed _ => exact absurd hmissing hclosed.opened.not_missing
  | unclosed start hopened hclosed h =>
    cases h' with
    | unopened _ hopened' _ => exact absurd hopened (hopened' start)
    | missing hmissing _ => exact absurd hmissing hopened.not_missing
    | unclosed _ _ _ h' => rw [h.seen, h'.seen]
    | closed start' stop' hclosed' _ => exact absurd hclosed' (hclosed start' stop')
  | closed start stop hclosed h =>
    cases h' with
    | unopened _ hopened _ => exact absurd hclosed.opened (hopened start)
    | missing hmissing _ => exact absurd hmissing hclosed.opened.not_missing
    | unclosed _ _ hclosed' _ => exact absurd hclosed (hclosed' start stop)
    | closed _ _ hclosed' h' =>
      obtain ⟨rfl, rfl⟩ := hclosed.unique hclosed'
      rw [h.seen, h'.seen]

/-- Every run of the program, whatever the settings, the files and their changes during the
wait, is told by what it finds and whether the files of its total hold counts before and after;
so it is from meters at hand, of which one may have become unreadable. The reads succeed, and
give the totals that they give, as these files say. The log filter has no part in it. -/
theorem reports_consumption :
    (∀ (c : Context) (v later : View), Reports v later (metersFound v c.environment) (start c v)) ∧
    (∀ (f : Filter) (shown : List String) (now later : View) (m : Meters),
      Reports now later (some m) (measureBest f shown now m)) ∧
    (∀ (now : View) (found : Option Meters) (start : Float), Opened now found start ↔
      ∃ m kind m', found = some m ∧ Preferred m kind ∧
        m.joules? now kind = some (.ok start, m')) ∧
    (∀ (now later : View) (found : Option Meters) (start stop : Float),
      Closed now later found start stop ↔
        ∃ m kind m' m'', found = some m ∧ Preferred m kind ∧
          m.joules? now kind = some (.ok start, m') ∧
          m'.joules? later kind = some (.ok stop, m'')) ∧
    ∀ (env : Environment) (filter filter' : Option String) (v later : View),
      ((start ⟨env, filter⟩ v).run later).seen = ((start ⟨env, filter'⟩ v).run later).seen := by
  refine ⟨fun c v later => (course_start c v later).reports, ?_, fun _ _ _ => opened_iff_read,
    fun _ _ _ _ _ => closed_iff_read, ?_⟩
  · exact fun f shown now later m => (course_measureBest f shown now later m).reports
  · exact fun env filter filter' v later =>
      (course_start ⟨env, filter⟩ v later).seen_eq (course_start ⟨env, filter'⟩ v later)

/-- What the meter of two packages gives before and after its counters have gone on. -/
theorem joules?_packageMeter : ∃ m m',
    Meters.joules? (.packagesAt "950000" "100") ⟨some packageMeter, none⟩ .cpus =
        some (.ok 0, m) ∧
      m.joules? (.packagesAt "49999" "200100") .cpus = some (.ok (0 + 0.1 + 0.2), m') :=
  ⟨_, _, rfl, rfl⟩

/-- Two packages count a tenth of a joule, across a start of the counter, and two tenths during the
wait; their floating-point sum is reported. If the counter of one of them holds no number after
the wait, nothing is. -/
theorem reports_consumption_of_two :
    let c : Context := ⟨⟨⟨none, some "/root"⟩, none⟩, none⟩
    let stage := start c (.packagesAt "950000" "100")
    (stage.run (.packagesAt "49999" "200100")).seen =
        ⟨0, ["Consumed 0.30000000000000004 joules in the last 10 seconds."], [10]⟩ ∧
      (stage.run (.packagesAt "49999" "lost")).seen = ⟨1, [], [10]⟩ := by
  intro c stage
  obtain ⟨hstart, -, -, hcloses, -⟩ := reports_consumption
  have hreports : ∀ later, Reports (.packagesAt "950000" "100") later
      (some ⟨some packageMeter, none⟩) stage := by
    intro later
    have hrun := hstart c (.packagesAt "950000" "100") later
    rwa [show metersFound (.packagesAt "950000" "100") c.environment = _ from
      metersFound_packagesAt] at hrun
  obtain ⟨m, m', hfirst, hsecond⟩ := joules?_packageMeter
  have hclosed : Closed (.packagesAt "950000" "100") (.packagesAt "49999" "200100")
      (some ⟨some packageMeter, none⟩) 0 (0 + 0.1 + 0.2) :=
    (hcloses _ _ _ _ _).2 ⟨_, .cpus, m, m', rfl, .cpus rfl, hfirst, hsecond⟩
  have hwaits : ∀ later, (stage.run later).waits = [10] := by
    intro later
    obtain ⟨exit, output, hends⟩ := (hreports later).waits ⟨0, hclosed.opened⟩
    exact congrArg Sight.waits hends.seen
  constructor
  · have hexit := (hreports _).well.2 (Or.inr ⟨_, _, hclosed⟩)
    have houtput := (hreports _).consumed _ _ hclosed
    have htext : Amount.text (0 + 0.1 + 0.2 - 0) = "0.30000000000000004" := by decide +kernel
    rw [htext] at houtput
    rw [Run.seen, hexit, houtput, hwaits]
    decide
  · have hlost : (stage.run (.packagesAt "49999" "lost")).exit ≠ 0 := by
      intro hexit
      obtain ⟨n, hn, hnone, -⟩ | ⟨start, stop, n, kind, hn, hkind, -, hlater, -⟩ :=
        (hreports _).well.1 hexit
      · cases hn
        cases hnone
      · cases hn
        cases hkind with
        | plug hnone _ => cases hnone
        | cpus _ =>
          obtain ⟨n, hn⟩ := hlater (.slot ⟨1, .whole⟩) secondPackage rfl rfl
          cases hn
    obtain ⟨hexit, houtput⟩ := (hreports _).silent hlost
    rw [Run.seen, hexit, houtput, hwaits]

end EnergyMeter.Consumption
