import EnergyMeter.Proofs.CallReach

/-!
# Reads in any order

Of reads that are made at one moment, whatever they are, the order does not matter, though
each of them changes the meter and one that fails leaves it changed in part. How far each
gets is settled by the files beforehand, and what it does to a gauge depends on that gauge
alone; so two reads can be exchanged, and with them the reads of any row. A gauge that was
read stands at the count of its file, so only the first read that gets through it adds
anything.
-/

namespace EnergyMeter.Rapl

open Files

/-- Makes reads one after the other at one moment. -/
def readAll (v : View) (m : CpuMeter) (reads : List CpuRead) :
    List (Except Error Reply) × CpuMeter :=
  runCalls CpuRead.perform m (reads.map fun r => (v, r))

/-- The microjoules that a read books in a slot, if it gets through it. -/
def bookedBy (v : View) (s : Slot) (m : CpuMeter) (r : CpuRead) : Option UInt64 :=
  if s ∈ r.reach v m then
    (m.gauge? s).bind fun g => (Sensor.count v g.file).toOption.map g.step
  else none

/-- The microjoules that reads made one after the other book in a slot, in the order of
booking: one amount for each read that gets through the slot. -/
def booked (v : View) (s : Slot) (m : CpuMeter) : List CpuRead → List UInt64
  | [] => []
  | r :: rest => (bookedBy v s m r).toList ++ booked v s (r.perform v m).2 rest

section

variable {v : View} {s : Slot} {m : CpuMeter} {g : Gauge} {n : UInt64} {reads others : List CpuRead}

/-- A first read is made before the others. -/
theorem readAll_cons (r : CpuRead) (reads : List CpuRead) : readAll v m (r :: reads) =
    ((r.perform v m).1 :: (readAll v (r.perform v m).2 reads).1,
      (readAll v (r.perform v m).2 reads).2) := by
  rfl

/-- A read leaves the layout as it is. -/
theorem layout_perform_read (v : View) (m : CpuMeter) (r : CpuRead) :
    (r.perform v m).2.layout = m.layout :=
  CpuMeter.layout_perform v m (.read r)

/-- A read gets through the same slots whether or not another was made before it. -/
theorem reach_perform (r first : CpuRead) :
    r.reach v (first.perform v m).2 = r.reach v m :=
  r.reach_of_layout (layout_perform_read v m first)

/-- What a read leaves in a slot. -/
theorem gauge?_perform_read (r : CpuRead) : (r.perform v m).2.gauge? s =
    if s ∈ r.reach v m then (m.gauge? s).bind fun g => (g.read v).toOption else m.gauge? s := by
  obtain ⟨hthrough, -⟩ := r.perform_reach v m
  by_cases hs : s ∈ r.reach v m
  · obtain ⟨g, n, hg, hn, hleft⟩ := hthrough.made s hs
    rw [if_pos hs, hleft, hg, Option.bind_some, Gauge.read_eq_map, hn]
    rfl
  · rw [if_neg hs, hthrough.kept s hs]

/-- Two reads leave the same meter in either order. -/
theorem perform_comm (r first : CpuRead) :
    (r.perform v (first.perform v m).2).2 = (first.perform v (r.perform v m).2).2 := by
  refine CpuMeter.eq_of_gauge? fun s => ?_
  simp only [gauge?_perform_read, reach_perform]
  split <;> split <;> rfl

/-- They book the same amounts in either order. -/
theorem bookedBy_comm (r first : CpuRead) :
    (bookedBy v s m first).toList ++ (bookedBy v s (first.perform v m).2 r).toList =
      (bookedBy v s m r).toList ++ (bookedBy v s (r.perform v m).2 first).toList := by
  simp only [bookedBy, gauge?_perform_read, reach_perform]
  split <;> split <;> simp

/-- A row of reads leaves the same meter in any order. -/
theorem readAll_perm (h : reads.Perm others) : (readAll v m others).2 = (readAll v m reads).2 := by
  induction h generalizing m with
  | nil => rfl
  | cons r _ ih => exact ih
  | swap r first rest =>
    rw [readAll_cons, readAll_cons, readAll_cons, readAll_cons]
    dsimp only
    rw [perform_comm]
  | trans _ _ ih ih' => exact ih'.trans ih

/-- In every slot it books the same amounts, one after the other. -/
theorem booked_perm (h : reads.Perm others) : booked v s m others = booked v s m reads := by
  induction h generalizing m with
  | nil => rfl
  | cons r _ ih => exact congrArg ((bookedBy v s m r).toList ++ ·) ih
  | swap r first rest =>
    simp only [booked, ← List.append_assoc]
    rw [bookedBy_comm, perform_comm]
  | trans _ _ ih ih' => exact ih'.trans ih

/-- Each read of a row ends as it would have ended by itself. -/
theorem failures_readAll (v : View) (m : CpuMeter) (reads : List CpuRead) :
    (readAll v m reads).1.map failureOf = reads.map (·.failure v m) := by
  induction reads generalizing m with
  | nil => rfl
  | cons r rest ih =>
    have hrest : rest.map (·.failure v (r.perform v m).2) = rest.map (·.failure v m) :=
      List.map_congr_left fun other _ => other.failure_of_layout (layout_perform_read v m r)
    rw [readAll_cons, List.map_cons, List.map_cons, ih, hrest, (r.perform_reach v m).2]

/-- An answer in a row is an error if the read at its place ends with it by itself. -/
theorem getElem?_readAll_eq_error {i : Nat} {e : Error} :
    (readAll v m reads).1[i]? = some (.error e) ↔
      reads[i]?.map (·.failure v m) = some (some e) := by
  rw [← List.getElem?_map, ← failures_readAll, List.getElem?_map, Option.map_eq_some_iff]
  simp only [failureOf_eq_some, exists_eq_right]

/-- What the gauge in a slot has counted is what it had counted and what was booked. -/
theorem total_readAll (hg : m.gauge? s = some g) : ∃ g', (readAll v m reads).2.gauge? s = some g' ∧
    g'.total = (booked v s m reads).foldl (fun sum n => sum + joulesOf n) g.total := by
  induction reads generalizing m g with
  | nil => exact ⟨g, hg, rfl⟩
  | cons r rest ih =>
    obtain ⟨hthrough, -⟩ := r.perform_reach v m
    rw [readAll_cons, booked, bookedBy]
    by_cases hs : s ∈ r.reach v m
    · obtain ⟨g₁, n, hg₁, hn, hleft⟩ := hthrough.made s hs
      cases hg.symm.trans hg₁
      rw [if_pos hs, hg, Option.bind_some, hn]
      exact ih hleft
    · rw [if_neg hs]
      exact ih ((hthrough.kept s hs).trans hg)

/-- In a slot whose gauge stands at the count of its file, only zeros are booked. -/
theorem booked_of_last (hg : m.gauge? s = some g) (hn : Sensor.count v g.file = .ok g.last) :
    ∃ k, booked v s m reads = List.replicate k 0 := by
  induction reads generalizing m g with
  | nil => exact ⟨0, rfl⟩
  | cons r rest ih =>
    obtain ⟨hthrough, -⟩ := r.perform_reach v m
    rw [booked, bookedBy]
    by_cases hs : s ∈ r.reach v m
    · obtain ⟨g₁, n, hg₁, hn₁, hleft⟩ := hthrough.made s hs
      cases hg.symm.trans hg₁
      cases hn.symm.trans hn₁
      have hzero : g.step g.last = 0 := countedBetween_self
      obtain ⟨k, hk⟩ := ih hleft hn
      refine ⟨k + 1, ?_⟩
      rw [if_pos hs, hg, Option.bind_some, hn, hk, List.replicate_succ, ← hzero]
      rfl
    · rw [if_neg hs]
      exact ih ((hthrough.kept s hs).trans hg) hn

/-- In any slot, nothing is booked, or the step of its gauge to the count of the file and
then zeros. -/
theorem booked_eq (v : View) (s : Slot) (m : CpuMeter) (reads : List CpuRead) :
    booked v s m reads = [] ∨ ∃ g n k, m.gauge? s = some g ∧ Sensor.count v g.file = .ok n ∧
      booked v s m reads = countedBetween g.last n g.range :: List.replicate k 0 := by
  induction reads generalizing m with
  | nil => exact Or.inl rfl
  | cons r rest ih =>
    obtain ⟨hthrough, -⟩ := r.perform_reach v m
    rw [booked, bookedBy]
    by_cases hs : s ∈ r.reach v m
    · obtain ⟨g, n, hg, hn, hleft⟩ := hthrough.made s hs
      have hzeros : ∃ k, booked v s (r.perform v m).2 rest = List.replicate k 0 :=
        booked_of_last hleft hn
      obtain ⟨k, hk⟩ := hzeros
      refine Or.inr ⟨g, n, k, hg, hn, ?_⟩
      rw [if_pos hs, hg, Option.bind_some, hn, hk]
      rfl
    · rw [if_neg hs, ← hthrough.kept s hs]
      exact ih (r.perform v m).2

end

/-- That of two rows of reads, made at one moment from one meter, one does what the other
does. -/
structure SameReads (v : View) (m : CpuMeter) (reads others : List CpuRead) : Prop where
  /-- Both leave the same meter. -/
  left : (readAll v m others).2 = (readAll v m reads).2
  /-- A read fails in one row if and only if it fails in the other, and with the same error,
  at whatever places it stands in them. -/
  failures : ∀ (i j : Nat) (e : Error), reads[i]? = others[j]? →
    ((readAll v m reads).1[i]? = some (.error e) ↔ (readAll v m others).1[j]? = some (.error e))
  /-- In every slot both book the same amounts, one after the other. -/
  amounts : ∀ s, booked v s m others = booked v s m reads
  /-- The first read that gets through a slot books the step of its gauge to the count of the
  file, and each later one nothing. -/
  once : ∀ s, booked v s m reads = [] ∨
    ∃ g n k, m.gauge? s = some g ∧ Sensor.count v g.file = .ok n ∧
      booked v s m reads = countedBetween g.last n g.range :: List.replicate k 0
  /-- These amounts are what the gauges have counted during the reads. -/
  counted : ∀ s g, m.gauge? s = some g → ∃ g', (readAll v m reads).2.gauge? s = some g' ∧
    g'.total = (booked v s m reads).foldl (fun sum n => sum + joulesOf n) g.total

/-- Reads that are made at one moment, failing ones and ones of unknown packages among them,
do the same in any order. -/
theorem reads_in_any_order (v : View) (m : CpuMeter) {reads others : List CpuRead}
    (h : reads.Perm others) : SameReads v m reads others := by
  constructor
  case left => exact readAll_perm h
  case failures =>
    intro i j e hplace
    rw [getElem?_readAll_eq_error, getElem?_readAll_eq_error, hplace]
  case amounts => exact fun s => booked_perm h
  case once => exact fun s => booked_eq v s m reads
  case counted => exact fun s g hg => total_readAll hg

/-- With a file that is gone, some reads of a meter fail, one of them halfway; asked for in
another order, the same reads fail with the same errors, leave the same meter and book the
same 70 microjoules of a package once. -/
theorem reads_in_any_order_of_lost :
    let view := View.listing ⟨"zones"⟩ [] [("zones/intel-rapl:0/energy_uj", "170"),
      ("zones/intel-rapl:3/energy_uj", "9"), ("zones/intel-rapl:3:0/energy_uj", "20")]
    let reads := [CpuRead.components none, .joules, .components (some 7)]
    let others := [CpuRead.components (some 7), .joules, .components none]
    reads.Perm others ∧
      (readAll view unevenMeter others).2 = (readAll view unevenMeter reads).2 ∧
      (readAll view unevenMeter others).1[2]? = some (.error (.io .notFound)) ∧
      (readAll view unevenMeter others).1[0]? = some (.error (.unknownPackage 7)) ∧
      booked view ⟨0, .whole⟩ unevenMeter others = [70, 0] := by
  intro view reads others
  have hperm : reads.Perm others := by decide
  have hsame := reads_in_any_order view unevenMeter hperm
  have hlost : (readAll view unevenMeter reads).1[0]? = some (.error (.io .notFound)) := by rfl
  have hunknown : (readAll view unevenMeter reads).1[2]? = some (.error (.unknownPackage 7)) := by
    rfl
  have hbooked : booked view ⟨0, .whole⟩ unevenMeter reads = [70, 0] := by decide +kernel
  exact ⟨hperm, hsame.left, (hsame.failures 0 2 _ rfl).1 hlost,
    (hsame.failures 2 0 _ rfl).1 hunknown, (hsame.amounts _).trans hbooked⟩

end EnergyMeter.Rapl
