import EnergyMeter.Proofs.FreshStart

/-!
# Several reads at one moment

A program may read some gauges of the CPU meter more than once before the files change.
A gauge that was read books the same value again, and that adds nothing: so it is as
after one read, whichever reads reached it and however often. A read at that moment gets
through if all its gauges could be read at the start, and then sums up what they count
after one read. If they were started again at an earlier moment, that is what the files
show between the two.
-/

namespace EnergyMeter

open Files

/-- No microjoules are zero joules. -/
theorem joulesOf_zero : joulesOf 0 = 0 := by
  rfl

namespace Gauge

variable {v : View} {g g' : Gauge} {value : UInt64}

/-- Whether a gauge's file holds a count. -/
def Readable (v : View) (g : Gauge) : Prop :=
  ∃ n, Sensor.count v g.file = .ok n

/-- A gauge can be read if its file holds a count. -/
theorem exists_read_iff : (∃ g', g.read v = .ok g') ↔ g.Readable v := by
  constructor
  · rintro ⟨g', h⟩
    obtain ⟨n, hn, -⟩ := read_eq_ok.1 h
    exact ⟨n, hn⟩
  · rintro ⟨n, hn⟩
    exact ⟨g.book n, read_eq_ok.2 ⟨n, hn, rfl⟩⟩

/-- A gauge can be started again if its file holds a count. -/
theorem exists_reset_iff : (∃ g', g.reset v = .ok g') ↔ g.Readable v := by
  constructor
  · rintro ⟨g', h⟩
    obtain ⟨n, hn, -⟩ := reset_eq_ok.1 h
    exact ⟨n, hn⟩
  · rintro ⟨n, hn⟩
    exact ⟨g.restart n, reset_eq_ok.2 ⟨n, hn, rfl⟩⟩

/-- Booking a value again adds nothing. -/
theorem book_book : (g.book value).book value = g.book value := by
  have hstep : (g.book value).step value = 0 := countedBetween_self
  have htotal : (g.book value).total + joulesOf ((g.book value).step value) =
      (g.book value).total := by
    rw [hstep, joulesOf_zero]
    exact add_zero_of_signBit (g.book value).unsigned
  unfold book at htotal ⊢
  simp only [htotal]

/-- Reading again at the same moment changes nothing. -/
theorem read_again (h : g.read v = .ok g') : g'.read v = .ok g' := by
  obtain ⟨n, hn, rfl⟩ := read_eq_ok.1 h
  refine read_eq_ok.2 ⟨n, hn, ?_⟩
  exact book_book.symm

end Gauge

namespace Rapl

namespace Query

variable {s : Slot}

/-- A component over all packages selects the slots of that component. -/
theorem selects_across {c : Component} : (across c).selects s = true ↔ s.component = c := by
  simp only [selects, across, Option.isNone_none, Option.isNone_some, Bool.true_or,
    Bool.true_and, Bool.false_or, beq_iff_eq, Option.some.injEq]
  exact eq_comm

/-- A package selects the slots of that package. -/
theorem selects_packageOf {id : UInt32} : (packageOf id).selects s = true ↔ s.package = id := by
  simp only [selects, packageOf, Option.isNone_none, Option.isNone_some, Bool.true_or,
    Bool.and_true, Bool.false_or, beq_iff_eq, Option.some.injEq]
  exact eq_comm

end Query

namespace CpuMeter

variable {m : CpuMeter} {selects : Slot → Bool} {f : Gauge → Except Error Gauge} {s : Slot}
  {g : Gauge}

/-- An action leaves every gauge as it was or as what it made of it. -/
theorem gauge?_act (m : CpuMeter) (selects : Slot → Bool) (f : Gauge → Except Error Gauge)
    (s : Slot) : (m.act selects f).2.gauge? s = m.gauge? s ∨
      ∃ g g', m.gauge? s = some g ∧ f g = .ok g' ∧ (m.act selects f).2.gauge? s = some g' := by
  obtain ⟨before, after, -, hacts⟩ := m.act_in_order selects f
  by_cases hs : s ∈ before
  · exact Or.inr (hacts.advanced s hs)
  · exact Or.inl (hacts.kept s hs)

/-- An action leaves the gauges that are not selected as they were. -/
theorem gauge?_act_of_not_selected (hs : ¬ selects s = true) :
    (m.act selects f).2.gauge? s = m.gauge? s := by
  obtain ⟨before, after, horder, hacts⟩ := m.act_in_order selects f
  refine hacts.kept s fun hbefore => hs ?_
  have hchosen : s ∈ chosen selects m.gauges := horder ▸ List.mem_append_left after hbefore
  exact (List.mem_filter.1 hchosen).2

/-- An action that gets through leaves of every selected gauge what it made of it. -/
theorem gauge?_act_of_selected (h : (m.act selects f).1 = none) (hs : selects s = true)
    (hg : m.gauge? s = some g) :
    ∃ g', f g = .ok g' ∧ (m.act selects f).2.gauge? s = some g' := by
  obtain ⟨before, after, horder, hacts⟩ := m.act_in_order selects f
  rw [h] at hacts
  rw [hacts.after_eq_nil, List.append_nil] at horder
  have hmem : s ∈ before := by
    rw [horder]
    exact List.mem_filter.2 ⟨isSome_gauge?.1 (hg ▸ rfl), hs⟩
  obtain ⟨_, g', hold, hmade, hnew⟩ := hacts.advanced s hmem
  cases hold.symm.trans hg
  exact ⟨g', hmade, hnew⟩

/-- An action gets through if it works on every selected gauge. -/
theorem act_eq_none_iff : (m.act selects f).1 = none ↔
    ∀ s g, m.gauge? s = some g → selects s = true → ∃ g', f g = .ok g' := by
  constructor
  · intro h s g hg hs
    obtain ⟨g', hmade, -⟩ := gauge?_act_of_selected h hs hg
    exact ⟨g', hmade⟩
  · intro h
    obtain ⟨before, after, horder, hacts⟩ := m.act_in_order selects f
    cases after with
    | nil => exact hacts.completed rfl
    | cons s rest =>
      obtain ⟨g, e, hg, hfailed, -⟩ := hacts.stopped s rfl
      have hchosen : s ∈ chosen selects m.gauges := by
        rw [← horder]
        exact List.mem_append_right _ List.mem_cons_self
      obtain ⟨g', hmade⟩ := h s g hg (List.mem_filter.1 hchosen).2
      cases hfailed.symm.trans hmade

/-- A read of a component over all packages acts on its gauges and gives their sum unless one
of them failed. -/
theorem readAmount_eq_act (v : View) (m : CpuMeter) (c : Component) :
    m.readAmount v c none = ((match (m.act (Query.across c).selects (Gauge.read v)).1 with
      | some e => .error e
      | none => .ok ((m.act (Query.across c).selects (Gauge.read v)).2.sumOf c
        (m.act (Query.across c).selects (Gauge.read v)).2.packages)),
      (m.act (Query.across c).selects (Gauge.read v)).2) := by
  have hread : m.read v (Query.across c) = _ := read_eq_act rfl v
  show ((m.read v (Query.across c)).1.map (·.amount c), (m.read v (Query.across c)).2) = _
  rw [hread]
  cases (m.act (Query.across c).selects (Gauge.read v)).1 with
  | none =>
    exact congrArg (fun x => (Except.ok x, _)) (amount_tally_selects _ (List.mem_singleton_self c))
  | some e => rfl

/-- A slot is filled after an action if it was before. -/
theorem isSome_gauge?_act : ((m.act selects f).2.gauge? s).isSome = (m.gauge? s).isSome := by
  rcases m.gauge?_act selects f s with h | ⟨g, g', hg, -, hg'⟩
  · rw [h]
  · rw [hg, hg']
    rfl

/-- A slot that is not filled is not filled after an action. -/
theorem gauge?_act_of_none (h : m.gauge? s = none) : (m.act selects f).2.gauge? s = none := by
  rw [← Option.not_isSome_iff_eq_none] at h ⊢
  rw [isSome_gauge?_act]
  exact h

/-- An action on slots that are not filled does nothing. -/
theorem gauge?_act_eq (h : ∀ s, selects s = true → m.gauge? s = none) (s : Slot) :
    (m.act selects f).2.gauge? s = m.gauge? s := by
  by_cases hs : selects s = true
  · rw [gauge?_act_of_none (h s hs), h s hs]
  · exact gauge?_act_of_not_selected hs

end CpuMeter

/-- How a meter stands to what it was, some of its gauges having been read at one moment,
once or several times. -/
structure PartlyRead (v : View) (m m' : CpuMeter) : Prop where
  /-- The packages are the same. -/
  packages : m'.packages = m.packages
  /-- Every gauge is as it was or as after a read of its own. -/
  gauges : ∀ s, m'.gauge? s = m.gauge? s ∨
    ∃ g g', m.gauge? s = some g ∧ g.read v = .ok g' ∧ m'.gauge? s = some g'

/-- What a gauge has counted after a read. -/
def totalAfter (v : View) (g : Gauge) : Float :=
  match g.read v with
  | .ok g' => g'.total
  | .error _ => 0

/-- The sum over the packages, as they are listed, of some amount of their gauges for a
component; a package without the component adds zero. -/
def sumAcross (amount : Gauge → Float) (m : CpuMeter) (c : Component) : Float :=
  m.packages.foldl (fun sum id => sum + ((m.gauge? ⟨id, c⟩).map amount).getD 0) 0

/-- The joules of a component over the packages that are asked for, its gauges read once; a
package without the component adds zero. -/
def sumAfter (v : View) (m : CpuMeter) (package : Option UInt32) (c : Component) : Float :=
  (m.packagesOf ⟨package, some c⟩).foldl
    (fun sum id => sum + ((m.gauge? ⟨id, c⟩).map (totalAfter v)).getD 0) 0

/-- Whether a read answers: the meter has the package that the query names, if it names one,
and every gauge that the query selects can be read. -/
def Answers (v : View) (m : CpuMeter) (q : Query) : Prop :=
  m.unknown? q = none ∧ ∀ s g, m.gauge? s = some g → q.selects s = true → g.Readable v

/-- Whether all gauges of a component can be read. -/
def ReadableAll (v : View) (m : CpuMeter) (c : Component) : Prop :=
  ∀ id g, m.gauge? ⟨id, c⟩ = some g → g.Readable v

/-- Whether all gauges can be read. -/
def AllReadable (v : View) (m : CpuMeter) : Prop :=
  ∀ c, ReadableAll v m c

/-- Whether all gauges of a package can be read. -/
def PackageReadable (v : View) (m : CpuMeter) (id : UInt32) : Prop :=
  ∀ c g, m.gauge? ⟨id, c⟩ = some g → g.Readable v

/-- The gauges of all packages are all gauges. -/
theorem packageReadable_iff {v : View} {m : CpuMeter} :
    (∀ id ∈ m.packages, PackageReadable v m id) ↔ AllReadable v m := by
  constructor
  · intro hall c id g hg
    have hid : id ∈ m.packages := CpuMeter.package_mem_packages (s := ⟨id, c⟩) (hg ▸ rfl)
    exact hall id hid c g hg
  · exact fun hall id _ c g hg => hall c id g hg

namespace PartlyRead

variable {v : View} {m m' : CpuMeter} {s : Slot} {g : Gauge} {c : Component}

/-- A meter of which nothing was read. -/
theorem refl (v : View) (m : CpuMeter) : PartlyRead v m m :=
  ⟨rfl, fun _ => Or.inl rfl⟩

/-- Of a gauge that was read before, another read makes the same. -/
theorem read_eq (h : PartlyRead v m m') (hg : m.gauge? s = some g) :
    ∃ g', m'.gauge? s = some g' ∧ g'.read v = g.read v := by
  rcases h.gauges s with hkept | ⟨g₁, g', hg₁, hread, hg'⟩
  · exact ⟨g, hkept.trans hg, rfl⟩
  · cases hg₁.symm.trans hg
    exact ⟨g', hg', (Gauge.read_again hread).trans hread.symm⟩

/-- The same slots are filled. -/
theorem isSome_eq (h : PartlyRead v m m') : (m'.gauge? s).isSome = (m.gauge? s).isSome := by
  rcases h.gauges s with hkept | ⟨g, g', hg, -, hg'⟩
  · rw [hkept]
  · rw [hg, hg']
    rfl

/-- A slot that was not filled is not filled. -/
theorem gauge?_eq_none (h : PartlyRead v m m') (hg : m.gauge? s = none) :
    m'.gauge? s = none := by
  rw [← Option.not_isSome_iff_eq_none] at hg ⊢
  rw [h.isSome_eq]
  exact hg

/-- Reading some gauges, or trying to, leaves the meter partly read. -/
theorem act (h : PartlyRead v m m') (selects : Slot → Bool) :
    PartlyRead v m (m'.act selects (Gauge.read v)).2 := by
  refine ⟨(m'.packages_act selects _).trans h.packages, fun s => ?_⟩
  rcases m'.gauge?_act selects (Gauge.read v) s with hkept | ⟨g, g', hg, hread, hg'⟩
  · rw [hkept]
    exact h.gauges s
  · rcases h.gauges s with hsame | ⟨g₁, g₂, hg₁, hread₁, hg₂⟩
    · exact Or.inr ⟨g, g', hsame.symm.trans hg, hread, hg'⟩
    · have hagain := Gauge.read_again hread₁
      cases hg.symm.trans hg₂
      cases hread.symm.trans hagain
      exact Or.inr ⟨g₁, _, hg₁, hread₁, hg'⟩

/-- Any gauges can be read if they could be before. -/
theorem act_eq_none_iff (h : PartlyRead v m m') (selects : Slot → Bool) :
    (m'.act selects (Gauge.read v)).1 = none ↔
      ∀ s g, m.gauge? s = some g → selects s = true → g.Readable v := by
  rw [CpuMeter.act_eq_none_iff]
  constructor
  · intro hall s g hg hs
    obtain ⟨g', hg', hread⟩ := h.read_eq hg
    rw [← Gauge.exists_read_iff, ← hread]
    exact hall s g' hg' hs
  · intro hall s g' hg' hs
    have hfilled : (m.gauge? s).isSome := by
      rw [← h.isSome_eq, hg']
      rfl
    obtain ⟨g, hg⟩ := Option.isSome_iff_exists.1 hfilled
    obtain ⟨g'', hg'', hread⟩ := h.read_eq hg
    cases hg'.symm.trans hg''
    rw [hread, Gauge.exists_read_iff]
    exact hall s g hg hs

/-- After a read that gets through, a selected slot is worth what its gauge has counted
after one read. -/
theorem worth_act (h : PartlyRead v m m') {selects : Slot → Bool}
    (hok : (m'.act selects (Gauge.read v)).1 = none) (hs : selects s = true) :
    (m'.act selects (Gauge.read v)).2.worth s = ((m.gauge? s).map (totalAfter v)).getD 0 := by
  cases hg : m.gauge? s with
  | none => exact CpuMeter.worth_of_none ((h.act selects).gauge?_eq_none hg)
  | some g =>
    obtain ⟨g', hg', hread⟩ := h.read_eq hg
    obtain ⟨g'', hread', hg''⟩ := CpuMeter.gauge?_act_of_selected hok hs hg'
    rw [CpuMeter.worth_of_mem (CpuMeter.gauge?_eq_some.1 hg''), Option.map_some, Option.getD_some,
      totalAfter, ← hread, hread']

/-- The gauges that such a read selects can be read if all of that component can. -/
theorem act_across_eq_none_iff (h : PartlyRead v m m') :
    (m'.act (Query.across c).selects (Gauge.read v)).1 = none ↔ ReadableAll v m c := by
  rw [h.act_eq_none_iff]
  constructor
  · exact fun hall id g hg => hall ⟨id, c⟩ g hg (Query.selects_across.2 rfl)
  · rintro hall ⟨id, d⟩ g hg hs
    cases Query.selects_across.1 hs
    exact hall id g hg

/-- A query is about the same packages after some gauges were read. -/
theorem packagesOf_eq (h : PartlyRead v m m') (q : Query) : m'.packagesOf q = m.packagesOf q := by
  unfold CpuMeter.packagesOf
  rw [h.packages]

/-- After a read that gets through, the sum of a component over the packages that were asked
for is that of the gauges read once. -/
theorem sumOf_act (h : PartlyRead v m m') {q : Query} (hc : c ∈ q.components)
    (hok : (m'.act q.selects (Gauge.read v)).1 = none) :
    (m'.act q.selects (Gauge.read v)).2.sumOf c
      ((m'.act q.selects (Gauge.read v)).2.packagesOf q) = sumAfter v m q.package c := by
  have hselects : ∀ id ∈ m.packagesOf q, q.selects ⟨id, c⟩ = true := by
    intro id hid
    have hpackage : (q.package.isNone || q.package == some id) = true := by
      unfold CpuMeter.packagesOf at hid
      cases hq : q.package with
      | none => rfl
      | some n =>
        rw [hq] at hid
        rw [List.mem_singleton.1 hid]
        exact beq_self_eq_true _
    exact Bool.and_eq_true_iff.2 ⟨hpackage, Query.mem_components.1 hc⟩
  have hworth : ∀ (sum : Float), ∀ id ∈ m.packagesOf q,
      sum + (m'.act q.selects (Gauge.read v)).2.worth ⟨id, c⟩ =
        sum + ((m.gauge? ⟨id, c⟩).map (totalAfter v)).getD 0 := by
    intro sum id hid
    rw [h.worth_act hok (hselects id hid)]
  rw [(h.act q.selects).packagesOf_eq]
  exact List.foldl_ext _ _ _ hworth

/-- A read of a component over all packages gives the sum of its gauges if all of them can
be read. -/
theorem readAmount_of_readable (h : PartlyRead v m m') (hall : ReadableAll v m c) :
    ∃ m'', m'.readAmount v c none = (.ok (sumAcross (totalAfter v) m c), m'') ∧
      PartlyRead v m m'' := by
  have hok := h.act_across_eq_none_iff.2 hall
  have hsum := h.sumOf_act (q := .across c) (List.mem_singleton_self c) hok
  refine ⟨_, ?_, h.act (Query.across c).selects⟩
  rw [CpuMeter.readAmount_eq_act, hok]
  exact congrArg (fun sum => (Except.ok sum, _)) hsum

/-- It fails if one of them cannot be read. -/
theorem readAmount_of_unreadable (h : PartlyRead v m m') (hnot : ¬ ReadableAll v m c) :
    ∃ e m'', m'.readAmount v c none = (.error e, m'') := by
  rw [CpuMeter.readAmount_eq_act]
  cases hfailure : (m'.act (Query.across c).selects (Gauge.read v)).1 with
  | none => exact absurd (h.act_across_eq_none_iff.1 hfailure) hnot
  | some e => exact ⟨e, _, rfl⟩

/-- Reading some gauges changes nothing about which package is unknown. -/
theorem unknown?_eq (h : PartlyRead v m m') (q : Query) : m'.unknown? q = m.unknown? q := by
  unfold CpuMeter.unknown?
  rw [h.packages]

/-- A read after other reads answers if it would have answered before them. Whether or not, it
reads some gauges at most. -/
theorem read (h : PartlyRead v m m') (q : Query) :
    PartlyRead v m (m'.read v q).2 ∧ ((∃ b, (m'.read v q).1 = .ok b) ↔ Answers v m q) := by
  unfold Answers
  rw [← h.unknown?_eq q, ← h.act_eq_none_iff q.selects]
  cases hunknown : m'.unknown? q with
  | some id =>
    rw [CpuMeter.read_of_unknown hunknown]
    exact ⟨h, by simp⟩
  | none =>
    rw [CpuMeter.read_eq_act hunknown]
    refine ⟨h.act q.selects, ?_⟩
    cases (m'.act q.selects (Gauge.read v)).1 <;> simp

/-- A read of one package gets through if all its gauges can be read. -/
theorem read_package (h : PartlyRead v m m') {id : UInt32} (hid : id ∈ m.packages) :
    PartlyRead v m (m'.read v (.packageOf id)).2 ∧
      ((∃ b, (m'.read v (.packageOf id)).1 = .ok b) ↔ PackageReadable v m id) := by
  have hknown : m.unknown? (.packageOf id) = none := by
    simp [CpuMeter.unknown?, Query.packageOf, hid]
  have hanswers : Answers v m (.packageOf id) ↔ PackageReadable v m id := by
    constructor
    · exact fun hall c g hg => hall.2 ⟨id, c⟩ g hg (Query.selects_packageOf.2 rfl)
    · intro hall
      refine ⟨hknown, fun s g hg hs => ?_⟩
      cases Query.selects_packageOf.1 hs
      exact hall s.component g hg
  exact ⟨(h.read _).1, (h.read _).2.trans hanswers⟩

end PartlyRead

/-- How a meter stands to what it was before a reset that got through. -/
structure Restarted (v : View) (m m' : CpuMeter) : Prop where
  /-- The packages are the same. -/
  packages : m'.packages = m.packages
  /-- A slot without a gauge is left without one. -/
  absent : ∀ s, m.gauge? s = none → m'.gauge? s = none
  /-- Every gauge starts again at the count of its file. -/
  restarted : ∀ s g, m.gauge? s = some g →
    ∃ n, Sensor.count v g.file = .ok n ∧ m'.gauge? s = some (g.restart n)

/-- The joules that the file of a gauge shows to be counted from one moment to another, at both
of which it holds a count. -/
def consumed (now later : View) (g : Gauge) : Float :=
  match Sensor.count now g.file, Sensor.count later g.file with
  | .ok first, .ok last => 0 + (countedBetween first last g.range).toFloat / 1000000
  | _, _ => 0

section

variable {v now later : View} {m m' : CpuMeter} {c : Component}

/-- A reset gets through if every gauge can be read. -/
theorem reset_of_readable (hall : AllReadable v m) :
    ∃ m', m.reset v = (.ok (), m') ∧ Restarted v m m' := by
  have hok : (m.act (fun _ => true) (Gauge.reset v)).1 = none := by
    rw [CpuMeter.act_eq_none_iff]
    exact fun s g hg _ => Gauge.exists_reset_iff.2 (hall s.component s.package g hg)
  refine ⟨(m.act (fun _ => true) (Gauge.reset v)).2, ?_, m.packages_act _ _, ?_, ?_⟩
  · rw [CpuMeter.reset_eq_act, hok]
  · intro s hs
    exact CpuMeter.gauge?_act_of_none hs
  · intro s g hg
    obtain ⟨g', hreset, hg'⟩ := CpuMeter.gauge?_act_of_selected hok rfl hg
    obtain ⟨n, hn, rfl⟩ := Gauge.reset_eq_ok.1 hreset
    exact ⟨n, hn, hg'⟩

/-- A reset fails if some gauge cannot be read. -/
theorem reset_of_unreadable (hnot : ¬ AllReadable v m) :
    ∃ e m', m.reset v = (.error e, m') := by
  rw [CpuMeter.reset_eq_act]
  cases hfailure : (m.act (fun _ => true) (Gauge.reset v)).1 with
  | some e => exact ⟨e, _, rfl⟩
  | none =>
    refine absurd (fun c id g hg => ?_) hnot
    exact Gauge.exists_reset_iff.1 (CpuMeter.act_eq_none_iff.1 hfailure ⟨id, c⟩ g hg rfl)

/-- What a gauge has counted after a reset and one read. -/
theorem totalAfter_restart {g : Gauge} {n : UInt64} (hn : Sensor.count now g.file = .ok n)
    (later : View) : totalAfter later (g.restart n) = consumed now later g := by
  have hfile : (g.restart n).file = g.file := rfl
  unfold totalAfter consumed Gauge.read
  rw [hn, hfile]
  cases Sensor.count later g.file <;> rfl

namespace Restarted

/-- The same slots are filled. -/
theorem isSome_eq (h : Restarted v m m') (s : Slot) :
    (m'.gauge? s).isSome = (m.gauge? s).isSome := by
  cases hg : m.gauge? s with
  | none => rw [h.absent s hg]
  | some g =>
    obtain ⟨n, -, hg'⟩ := h.restarted s g hg
    rw [hg']
    rfl

/-- The same gauges can be read. -/
theorem readableAll_iff (h : Restarted v m m') :
    ReadableAll later m' c ↔ ReadableAll later m c := by
  constructor
  · intro hall id g hg
    obtain ⟨n, -, hg'⟩ := h.restarted _ g hg
    exact hall id (g.restart n) hg'
  · intro hall id g' hg'
    cases hg : m.gauge? ⟨id, c⟩ with
    | none =>
      rw [h.absent _ hg] at hg'
      cases hg'
    | some g =>
      obtain ⟨n, -, hrestarted⟩ := h.restarted _ g hg
      cases hg'.symm.trans hrestarted
      exact hall id g hg

/-- A sum after one read is what was counted since the reset. -/
theorem sumAcross_eq (h : Restarted now m m') (later : View) (c : Component) :
    sumAcross (totalAfter later) m' c = sumAcross (consumed now later) m c := by
  have hslot : ∀ (sum : Float), ∀ id ∈ m.packages,
      sum + ((m'.gauge? ⟨id, c⟩).map (totalAfter later)).getD 0 =
        sum + ((m.gauge? ⟨id, c⟩).map (consumed now later)).getD 0 := by
    intro sum id _
    cases hg : m.gauge? ⟨id, c⟩ with
    | none =>
      rw [h.absent _ hg]
      rfl
    | some g =>
      obtain ⟨n, hn, hg'⟩ := h.restarted _ g hg
      rw [hg', Option.map_some, Option.map_some, totalAfter_restart hn]
  unfold sumAcross
  rw [h.packages, List.foldl_ext _ _ _ hslot]

end Restarted

/-- A reset that gets through leaves a fresh meter. -/
theorem fresh_of_reset (h : m.reset v = (.ok (), m')) : m'.Fresh v := by
  have hperform : CpuCall.perform v m .reset = (.ok .restarted, m') := by
    simp only [CpuCall.perform, h]
    rfl
  have hfresh := CpuMeter.fresh_reset (congrArg Prod.fst hperform)
  rw [hperform] at hfresh
  exact hfresh

/-- A reset keeps the layout. -/
theorem layout_reset (v : View) (m : CpuMeter) : (m.reset v).2.layout = m.layout :=
  CpuMeter.layout_perform v m .reset

/-- Meters with one layout are the same after a reset that gets through; else both resets
fail, with the same error. -/
theorem reset_congr {a b : CpuMeter} (v : View) (h : a.layout = b.layout) :
    (∃ e, (a.reset v).1 = .error e ∧ (b.reset v).1 = .error e) ∨ a.reset v = b.reset v := by
  have hanswer := CpuMeter.reset_answer v h
  have hlayout : (a.reset v).2.layout = (b.reset v).2.layout := by
    rw [layout_reset, layout_reset, h]
  simp only [CpuCall.perform] at hanswer
  cases ha : a.reset v with
  | mk answer a' =>
    cases hb : b.reset v with
    | mk answer' b' =>
      rw [ha, hb] at hanswer hlayout
      cases answer <;> cases answer' <;> cases hanswer
      · exact Or.inl ⟨_, rfl, rfl⟩
      · cases CpuMeter.eq_of_fresh (fresh_of_reset ha) (fresh_of_reset hb) hlayout
        exact Or.inr rfl

end

end Rapl

end EnergyMeter
