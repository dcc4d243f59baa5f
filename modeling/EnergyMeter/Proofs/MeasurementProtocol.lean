import EnergyMeter.Measurement
import Mathlib.Algebra.BigOperators.Group.List.Basic
import Mathlib.Algebra.Order.Ring.Nat

/-!
# How measurements read and wait

A measurement without a meter does nothing. With one it reads, waits and reads again; a read
that fails ends it with its error, the first one before the wait. So a measurement takes none,
one or two of the meter's readings, and its outcome tells how many. Of measurements made one
after the other each works on the readings behind those that the earlier ones took, however
many of them failed. Reads and waits are seen here by a meter and waits that write them down.
-/

namespace EnergyMeter

open Log

/-- A measurement that is asked for. -/
structure MeasureCall (σ : Type) where
  /-- Whether there is a meter to measure with. -/
  metered : Bool
  /-- How long to measure. -/
  seconds : UInt64
  /-- What the wait does to the state. -/
  wait : σ → σ

/-- What a measurement gives to the one who asked for it. -/
structure Outcome where
  /-- The measurement, or the error of the read that failed. -/
  result : Except Error Measurement
  /-- The seconds waited; none if there was no wait. -/
  waited : Option UInt64

/-- How many readings a measurement with this outcome took. -/
def Outcome.taken (o : Outcome) : Nat :=
  match o.result, o.waited with
  | .ok .unavailable, _ => 0
  | _, none => 1
  | _, some _ => 2

/-- The outcome of everything that a measurement does. -/
def Measured.outcome {σ : Type} (m : Measured σ) : Outcome := ⟨m.result, m.waited⟩

/-- Something that is done during measurements. -/
inductive Deed where
  /-- The meter is read and answers. -/
  | read (answer : Except Error Float)
  /-- Some seconds pass. -/
  | wait (seconds : UInt64)

/-- The answers of the meter among what is done, in order. -/
def answersOf (deeds : List Deed) : List (Except Error Float) :=
  deeds.filterMap fun
    | .read answer => some answer
    | .wait _ => none

/-- The reading at a place of a row; behind its end the readings fail. -/
def readingAt (readings : List (Except Error Float)) (i : Nat) : Except Error Float :=
  readings[i]?.getD (.error (.permissionDenied "no more readings"))

/-- What a measurement comes to and does, told from the two readings that it may take. -/
inductive Comes (metered : Bool) (seconds : UInt64) (first second : Except Error Float) :
    Outcome → List Deed → Prop
  /-- Without a meter nothing is read and nothing waits. -/
  | absent (h : metered = false) : Comes metered seconds first second ⟨.ok .unavailable, none⟩ []
  /-- A first read that fails ends the measurement before the wait. -/
  | unopened {e : Error} (h : metered = true) (hfirst : first = .error e) :
      Comes metered seconds first second ⟨.error e, none⟩ [.read first]
  /-- A second read that fails ends it after the wait. -/
  | unclosed {start : Float} {e : Error} (h : metered = true) (hfirst : first = .ok start)
      (hsecond : second = .error e) :
      Comes metered seconds first second ⟨.error e, some seconds⟩
        [.read first, .wait seconds, .read second]
  /-- After two reads the measurement is the second less the first. -/
  | closed {start stop : Float} (h : metered = true) (hfirst : first = .ok start)
      (hsecond : second = .ok stop) :
      Comes metered seconds first second ⟨.ok (.consumed (stop - start) seconds), some seconds⟩
        [.read first, .wait seconds, .read second]

section Runs

variable {σ : Type}

/-- Carries out a measurement. -/
def MeasureCall.perform (r : Readable σ) (s : σ) (c : MeasureCall σ) : Measured σ :=
  measure (if c.metered then some r else none) c.seconds c.wait s

/-- Carries out measurements one after the other. Gives what each does and the state behind
the last. -/
def measureAll (r : Readable σ) (s : σ) : List (MeasureCall σ) → List (Measured σ) × σ
  | [] => ([], s)
  | c :: rest =>
    let done := c.perform r s
    let later := measureAll r done.state rest
    (done :: later.1, later.2)

/-- The outcomes of measurements one after the other. -/
def outcomes (r : Readable σ) (s : σ) (calls : List (MeasureCall σ)) : List Outcome :=
  (measureAll r s calls).1.map Measured.outcome

/-- A meter that writes its answers down. -/
def Readable.observed (r : Readable σ) : Readable (σ × List Deed) where
  kind := r.kind
  joules x := ((r.joules x.1).1, ((r.joules x.1).2, x.2 ++ [.read (r.joules x.1).1]))

/-- A measurement that writes its wait down. -/
def MeasureCall.observed (c : MeasureCall σ) : MeasureCall (σ × List Deed) :=
  ⟨c.metered, c.seconds, fun x => (c.wait x.1, x.2 ++ [.wait c.seconds])⟩

/-- The number of readings that the first outcomes of a row took. -/
def offset (row : List Outcome) (k : Nat) : Nat := ((row.take k).map Outcome.taken).sum

/-- That measurements follow a row of readings: each comes to what the readings say that stand
behind those taken before. -/
structure FollowsReadings (readings : List (Except Error Float)) (calls : List (MeasureCall σ))
    (row : List Outcome) (deeds : List (List Deed)) : Prop where
  /-- Every call has an outcome. -/
  answered : row.length = calls.length
  /-- Every call does something or nothing. -/
  done : deeds.length = calls.length
  /-- A call comes to what the two readings say that stand at its offset. -/
  each : ∀ (k : Nat) (c : MeasureCall σ) (o : Outcome) (d : List Deed), calls[k]? = some c →
    row[k]? = some o → deeds[k]? = some d →
      Comes c.metered c.seconds (readingAt readings (offset row k))
        (readingAt readings (offset row k + 1)) o d

/-- The same from a place of the row on, call by call. -/
inductive FollowsFrom (readings : List (Except Error Float)) :
    Nat → List (MeasureCall σ) → List Outcome → List (List Deed) → Prop
  /-- No calls take no readings. -/
  | nil (i : Nat) : FollowsFrom readings i [] [] []
  /-- A call works on the next readings, and the others on those behind the ones it took. -/
  | cons {i : Nat} {c : MeasureCall σ} {rest : List (MeasureCall σ)} {o : Outcome}
      {row : List Outcome} {d : List Deed} {deeds : List (List Deed)}
      (h : Comes c.metered c.seconds (readingAt readings i) (readingAt readings (i + 1)) o d)
      (hrest : FollowsFrom readings (i + o.taken) rest row deeds) :
      FollowsFrom readings i (c :: rest) (o :: row) (d :: deeds)

variable {r : Readable σ} {s : σ} {calls : List (MeasureCall σ)} {metered : Bool}
  {seconds : UInt64} {first second : Except Error Float} {o : Outcome} {d : List Deed}
  {readings : List (Except Error Float)} {i : Nat}

/-- What was done before and what is done later are answered one after the other. -/
theorem answersOf_append (before later : List Deed) :
    answersOf (before ++ later) = answersOf before ++ answersOf later :=
  List.filterMap_append

/-- A measurement takes as many readings as its outcome tells. -/
theorem Comes.length_answersOf (h : Comes metered seconds first second o d) :
    (answersOf d).length = o.taken := by
  cases h <;> rfl

/-- What a measurement comes to is settled by the readings that it took. -/
theorem Comes.of_taken (h : Comes metered seconds first second o d)
    (hread : ∀ j x, (answersOf d)[j]? = some x → readingAt readings (i + j) = x) :
    Comes metered seconds (readingAt readings i) (readingAt readings (i + 1)) o d := by
  cases h with
  | absent hmetered => exact .absent hmetered
  | unopened hmetered hfirst =>
    have h₀ : readingAt readings i = first := hread 0 first rfl
    rw [← h₀] at hfirst ⊢
    exact .unopened hmetered hfirst
  | unclosed hmetered hfirst hsecond =>
    have h₀ : readingAt readings i = first := hread 0 first rfl
    have h₁ : readingAt readings (i + 1) = second := hread 1 second rfl
    rw [← h₀] at hfirst ⊢
    rw [← h₁] at hsecond ⊢
    exact .unclosed hmetered hfirst hsecond
  | closed hmetered hfirst hsecond =>
    have h₀ : readingAt readings i = first := hread 0 first rfl
    have h₁ : readingAt readings (i + 1) = second := hread 1 second rfl
    rw [← h₀] at hfirst ⊢
    rw [← h₁] at hsecond ⊢
    exact .closed hmetered hfirst hsecond

/-- A first read that fails ends a measurement. -/
theorem measure_of_unopened {e : Error} (hfirst : (r.joules s).1 = .error e) (wait : σ → σ) :
    measure (some r) seconds wait s = ⟨.error e, none, [], (r.joules s).2⟩ := by
  simp only [measure, Window.begin, hfirst, Except.map]

/-- A second read that fails ends it behind the wait. -/
theorem measure_of_unclosed {start : Float} {e : Error} {wait : σ → σ}
    (hfirst : (r.joules s).1 = .ok start)
    (hsecond : (r.joules (wait (r.joules s).2)).1 = .error e) :
    measure (some r) seconds wait s =
      ⟨.error e, some seconds, [], (r.joules (wait (r.joules s).2)).2⟩ := by
  simp only [measure, Window.begin, hfirst, Except.map, Window.close, hsecond]

/-- Two reads that succeed give the second less the first. -/
theorem measure_of_closed {start stop : Float} {wait : σ → σ}
    (hfirst : (r.joules s).1 = .ok start)
    (hsecond : (r.joules (wait (r.joules s).2)).1 = .ok stop) :
    measure (some r) seconds wait s =
      ⟨.ok (.consumed (stop - start) seconds), some seconds,
        [.windowClosed r.kind start stop], (r.joules (wait (r.joules s).2)).2⟩ := by
  simp only [measure, Window.begin, hfirst, Except.map, Window.close, hsecond]

/-- A single measurement takes its readings from the meter as it finds it and as the wait
leaves it. Writing down what it does changes nothing else. -/
theorem perform_comes (r : Readable σ) (s : σ) (c : MeasureCall σ) :
    ∃ d, Comes c.metered c.seconds (r.joules s).1 (r.joules (c.wait (r.joules s).2)).1
      (c.perform r s).outcome d ∧
    ∀ log, (c.observed.perform r.observed (s, log)).outcome = (c.perform r s).outcome ∧
      (c.observed.perform r.observed (s, log)).state = ((c.perform r s).state, log ++ d) := by
  -- What is written down changes no answer, so each case is that of the plain measurement.
  obtain ⟨metered, seconds, wait⟩ := c
  cases metered with
  | false => exact ⟨[], .absent rfl, fun log => ⟨rfl, Prod.ext rfl (List.append_nil log).symm⟩⟩
  | true =>
    let c : MeasureCall σ := ⟨true, seconds, wait⟩
    have hplain : c.perform r s = measure (some r) seconds wait s := rfl
    have hseen : ∀ log, c.observed.perform r.observed (s, log) =
        measure (some r.observed) seconds c.observed.wait (s, log) := fun log => rfl
    cases hfirst : (r.joules s).1 with
    | error e =>
      have hfirst' : ∀ log, (r.observed.joules (s, log)).1 = .error e := fun log => hfirst
      refine ⟨[.read (.error e)], ?_, fun log => ?_⟩
      · rw [hplain, measure_of_unopened hfirst]
        exact .unopened rfl rfl
      · rw [hplain, hseen, measure_of_unopened hfirst, measure_of_unopened (hfirst' log)]
        exact ⟨rfl, by simp only [Readable.observed, hfirst]⟩
    | ok start =>
      have hfirst' : ∀ log, (r.observed.joules (s, log)).1 = .ok start := fun log => hfirst
      have hsecond' : ∀ log,
          (r.observed.joules (c.observed.wait (r.observed.joules (s, log)).2)).1 =
            (r.joules (wait (r.joules s).2)).1 := fun log => rfl
      cases hsecond : (r.joules (wait (r.joules s).2)).1 with
      | error e =>
        refine ⟨[.read (.ok start), .wait seconds, .read (.error e)], ?_, fun log => ?_⟩
        · rw [hplain, measure_of_unclosed hfirst hsecond]
          exact .unclosed rfl rfl rfl
        · rw [hplain, hseen, measure_of_unclosed hfirst hsecond,
            measure_of_unclosed (hfirst' log) ((hsecond' log).trans hsecond)]
          exact ⟨rfl, by simp [Readable.observed, MeasureCall.observed, c, hfirst, hsecond]⟩
      | ok stop =>
        refine ⟨[.read (.ok start), .wait seconds, .read (.ok stop)], ?_, fun log => ?_⟩
        · rw [hplain, measure_of_closed hfirst hsecond]
          exact .closed rfl rfl rfl
        · rw [hplain, hseen, measure_of_closed hfirst hsecond,
            measure_of_closed (hfirst' log) ((hsecond' log).trans hsecond)]
          exact ⟨rfl, by simp [Readable.observed, MeasureCall.observed, c, hfirst, hsecond]⟩

/-- So do measurements in a row: they follow the answers that were written down. -/
theorem outcomes_observed (r : Readable σ) (s : σ) (calls : List (MeasureCall σ)) :
    ∃ deeds : List (List Deed),
      (∀ log, outcomes r.observed (s, log) (calls.map .observed) = outcomes r s calls ∧
        (measureAll r.observed (s, log) (calls.map .observed)).2 =
          ((measureAll r s calls).2, log ++ deeds.flatten)) ∧
      ∀ readings i, (∀ j x, (answersOf deeds.flatten)[j]? = some x →
        readingAt readings (i + j) = x) →
          FollowsFrom readings i calls (outcomes r s calls) deeds := by
  induction calls generalizing s with
  | nil =>
    refine ⟨[], fun log => ⟨rfl, ?_⟩, fun readings i _ => .nil i⟩
    exact Prod.ext rfl (List.append_nil log).symm
  | cons c rest ih =>
    obtain ⟨d, hcomes, hseen⟩ := perform_comes r s c
    obtain ⟨deeds, hrest, hfollows⟩ := ih (c.perform r s).state
    refine ⟨d :: deeds, fun log => ?_, fun readings i hread => ?_⟩
    · obtain ⟨houtcome, hstate⟩ := hseen log
      obtain ⟨houtcomes, hstates⟩ := hrest (log ++ d)
      have hrow : outcomes r.observed (s, log) ((c :: rest).map .observed) =
          (c.observed.perform r.observed (s, log)).outcome ::
            outcomes r.observed (c.observed.perform r.observed (s, log)).state
              (rest.map .observed) := rfl
      have hlast : (measureAll r.observed (s, log) ((c :: rest).map .observed)).2 =
          (measureAll r.observed (c.observed.perform r.observed (s, log)).state
            (rest.map .observed)).2 := rfl
      rw [hrow, hlast, houtcome, hstate, houtcomes, hstates, List.flatten_cons,
        List.append_assoc]
      exact ⟨rfl, rfl⟩
    · rw [List.flatten_cons, answersOf_append] at hread
      refine .cons (hcomes.of_taken fun j x hx => hread j x ?_) (hfollows readings _ ?_)
      · rw [List.getElem?_append_left (List.getElem?_eq_some_iff.1 hx).1]
        exact hx
      · intro j x hx
        have hplace := hread ((answersOf d).length + j) x
        rw [List.getElem?_append_right (Nat.le_add_right _ j), Nat.add_sub_cancel_left,
          hcomes.length_answersOf, ← Nat.add_assoc] at hplace
        exact hplace hx

/-- What follows a row of readings call by call follows it at every call's offset. -/
theorem FollowsFrom.each {row : List Outcome} {deeds : List (List Deed)}
    (h : FollowsFrom readings i calls row deeds) {k : Nat} {c : MeasureCall σ}
    (hc : calls[k]? = some c) (ho : row[k]? = some o) (hd : deeds[k]? = some d) :
    Comes c.metered c.seconds (readingAt readings (i + offset row k))
      (readingAt readings (i + offset row k + 1)) o d := by
  induction h generalizing k with
  | nil i => cases hc
  | @cons i c' rest o' row d' deeds h _ ih =>
    cases k with
    | zero =>
      cases hc
      cases ho
      cases hd
      exact h
    | succ k =>
      have hoffset : offset (o' :: row) (k + 1) = o'.taken + offset row k := rfl
      rw [hoffset, ← Nat.add_assoc]
      exact ih hc ho hd

/-- A row that is followed has one outcome for every call, and one list of deeds. -/
theorem FollowsFrom.length {row : List Outcome} {deeds : List (List Deed)}
    (h : FollowsFrom readings i calls row deeds) :
    row.length = calls.length ∧ deeds.length = calls.length := by
  induction h with
  | nil => exact ⟨rfl, rfl⟩
  | cons _ _ ih => exact ⟨congrArg (· + 1) ih.1, congrArg (· + 1) ih.2⟩

/-- To follow a row call by call from its front is to follow it. -/
theorem FollowsFrom.follows {row : List Outcome} {deeds : List (List Deed)}
    (h : FollowsFrom readings 0 calls row deeds) : FollowsReadings readings calls row deeds := by
  refine ⟨h.length.1, h.length.2, fun k c o d hc ho hd => ?_⟩
  have heach := h.each hc ho hd
  rw [Nat.zero_add] at heach
  exact heach

/-- A scripted meter gives the first reading of its script and keeps the others. -/
theorem joules_scripted (kind : MeterKind) (script : List (Except Error Float)) :
    (scripted kind).joules script = (readingAt script 0, script.drop 1) := by
  cases script <;> rfl

/-- Behind some readings of a script stand the others. -/
theorem readingAt_drop (script : List (Except Error Float)) (i j : Nat) :
    readingAt (script.drop i) j = readingAt script (i + j) := by
  rw [readingAt, List.getElem?_drop]
  rfl

/-- A measurement on a script comes to what its first readings say, and leaves those that it
did not take. -/
theorem perform_scripted (kind : MeterKind) (script : List (Except Error Float)) (metered : Bool)
    (seconds : UInt64) :
    let done := MeasureCall.perform (scripted kind) script ⟨metered, seconds, id⟩
    (∃ d, Comes metered seconds (readingAt script 0) (readingAt script 1) done.outcome d) ∧
      done.state = script.drop done.outcome.taken := by
  intro done
  have hreads : ((scripted kind).joules (id ((scripted kind).joules script).2)) =
      (readingAt script 1, script.drop 2) := by
    rw [joules_scripted, id, joules_scripted, readingAt_drop, List.drop_drop]
  cases metered with
  | false => exact ⟨⟨[], .absent rfl⟩, rfl⟩
  | true =>
    have hdone : done = measure (some (scripted kind)) seconds id script := rfl
    have hfirst := congrArg Prod.fst (joules_scripted kind script)
    have hsecond := congrArg Prod.fst hreads
    cases h₀ : readingAt script 0 with
    | error e =>
      rw [hdone, measure_of_unopened (hfirst.trans h₀), joules_scripted]
      exact ⟨⟨_, .unopened rfl rfl⟩, rfl⟩
    | ok start =>
      cases h₁ : readingAt script 1 with
      | error e =>
        rw [hdone, measure_of_unclosed (hfirst.trans h₀) (hsecond.trans h₁), hreads]
        exact ⟨⟨_, .unclosed rfl rfl rfl⟩, rfl⟩
      | ok stop =>
        rw [hdone, measure_of_closed (hfirst.trans h₀) (hsecond.trans h₁), hreads]
        exact ⟨⟨_, .closed rfl rfl rfl⟩, rfl⟩

end Runs

/-- Measurements that are asked for by their lengths and by whether there is a meter, and whose
waits leave the script of the meter alone. -/
def scriptCalls (asked : List (Bool × UInt64)) :
    List (MeasureCall (List (Except Error Float))) :=
  asked.map fun a => ⟨a.1, a.2, id⟩

/-- Measurements on a script follow it from the front. -/
theorem outcomes_scripted (kind : MeterKind) (script : List (Except Error Float)) (i : Nat)
    (asked : List (Bool × UInt64)) :
    let row := outcomes (scripted kind) (script.drop i) (scriptCalls asked)
    (∃ deeds, FollowsFrom script i (scriptCalls asked) row deeds) ∧
      (measureAll (scripted kind) (script.drop i) (scriptCalls asked)).2 =
        script.drop (i + offset row asked.length) := by
  induction asked generalizing i with
  | nil => exact ⟨⟨[], .nil i⟩, rfl⟩
  | cons a rest ih =>
    obtain ⟨⟨d, hcomes⟩, hstate⟩ := perform_scripted kind (script.drop i) a.1 a.2
    rw [readingAt_drop, readingAt_drop] at hcomes
    rw [List.drop_drop] at hstate
    obtain ⟨⟨deeds, hfollows⟩, hlast⟩ := ih (i + (MeasureCall.perform (scripted kind)
      (script.drop i) ⟨a.1, a.2, id⟩).outcome.taken)
    rw [← hstate] at hfollows hlast
    refine ⟨⟨d :: deeds, .cons hcomes hfollows⟩, hlast.trans ?_⟩
    rw [Nat.add_assoc]
    rfl

/-- Every stateful meter and every list of measurements, with a meter or without, whatever the
waits do: written down, the deeds of the measurements are those that the meter's answers call
for, each measurement working on the answers from its offset on. On a script of readings and
errors the outcomes follow the script, and what is left of it stands behind the readings
taken. -/
theorem measurements_follow_readings :
    (∀ {σ : Type} (r : Readable σ) (s : σ) (calls : List (MeasureCall σ)),
      ∃ deeds : List (List Deed),
        outcomes r.observed (s, []) (calls.map .observed) = outcomes r s calls ∧
        (measureAll r.observed (s, []) (calls.map .observed)).2 =
          ((measureAll r s calls).2, deeds.flatten) ∧
        FollowsReadings (answersOf deeds.flatten) calls (outcomes r s calls) deeds) ∧
    (∀ (kind : MeterKind) (script : List (Except Error Float)) (asked : List (Bool × UInt64)),
      let row := outcomes (scripted kind) script (scriptCalls asked)
      (∃ deeds, FollowsReadings script (scriptCalls asked) row deeds) ∧
        (measureAll (scripted kind) script (scriptCalls asked)).2 =
          script.drop (offset row asked.length)) ∧
    ∀ {σ : Type} (r : Readable σ) (s : σ) (metered : Bool) (wait : σ → σ) (lengths : List UInt64),
      measureEach (if metered then some r else none) wait lengths s =
        (measureAll r s (lengths.map fun seconds => ⟨metered, seconds, wait⟩)).1 := by
  refine ⟨fun r s calls => ?_, fun kind script asked => ?_, fun r s metered wait lengths => ?_⟩
  · obtain ⟨deeds, hseen, hfollows⟩ := outcomes_observed r s calls
    obtain ⟨houtcomes, hstate⟩ := hseen []
    refine ⟨deeds, houtcomes, hstate, (hfollows _ 0 fun j x hx => ?_).follows⟩
    rw [readingAt, Nat.zero_add, hx]
    rfl
  · obtain ⟨⟨deeds, hfollows⟩, hlast⟩ := outcomes_scripted kind script 0 asked
    rw [Nat.zero_add] at hlast
    exact ⟨⟨deeds, hfollows.follows⟩, hlast⟩
  · induction lengths generalizing s with
    | nil => rfl
    | cons seconds rest ih => exact congrArg _ (ih _)

/-- A first read that fails shifts the readings of the later measurements by one only. -/
example : (outcomes (scripted .plug) [.error (.unknownPackage 0), .ok 5, .ok 7, .ok 1]
    (scriptCalls [(true, 10), (false, 10), (true, 10), (true, 10)])).map Outcome.taken =
      [1, 0, 2, 2] := by
  rfl

end EnergyMeter
