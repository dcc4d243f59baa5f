import EnergyMeter.Proofs.RepeatedReads

/-!
# The combined read and the separate ones

The joules by component can be asked for together, package by package, or one component
after the other over all packages. Both ways reach the same gauges and read each of them
at least once at one moment, in different orders. What a read answers, and whether it
does, is settled by the meter as it was before any of them; so is the meter left behind,
once it is known which gauges were read. Hence the two ways agree, in whatever order the
components are asked for.
-/

namespace EnergyMeter.Rapl

open Files

namespace Query

variable {package : Option UInt32} {s : Slot} {c : Component}

/-- A query for one component selects the slots of that component among those of the query
for all of them. -/
theorem selects_component : (mk package (some c)).selects s = true ↔
    (mk package none).selects s = true ∧ s.component = c := by
  have hcomponent : (some c == some s.component) = true ↔ s.component = c := by
    rw [beq_iff_eq, Option.some.injEq]
    exact eq_comm
  simp only [selects, Option.isNone_none, Option.isNone_some, Bool.true_or, Bool.false_or,
    Bool.and_true, Bool.and_eq_true, hcomponent]

end Query

namespace CpuMeter

/-- Meters with the same gauge in every slot are the same. -/
theorem eq_of_gauge? {a b : CpuMeter} (h : ∀ s, a.gauge? s = b.gauge? s) : a = b := by
  have hirrefl : Std.Irrefl fun x y : Slot × Gauge => x.1.Before y.1 :=
    ⟨fun x => Std.Irrefl.irrefl x.1⟩
  have hantisymm : Std.Antisymm fun x y : Slot × Gauge => x.1.Before y.1 :=
    ⟨fun x y hxy hyx => absurd hyx hxy.asymm⟩
  have hmem : ∀ x, x ∈ a.gauges ↔ x ∈ b.gauges := by
    intro x
    have ha : a.gauge? x.1 = some x.2 ↔ x ∈ a.gauges := gauge?_eq_some
    have hb : b.gauge? x.1 = some x.2 ↔ x ∈ b.gauges := gauge?_eq_some
    rw [← ha, ← hb, h]
  have hgauges : a.gauges = b.gauges :=
    List.Pairwise.eq_of_mem_iff (List.pairwise_map.1 a.proper.ascending)
      (List.pairwise_map.1 b.proper.ascending) hmem
  obtain ⟨gauges, proper⟩ := a
  obtain ⟨gauges', proper'⟩ := b
  cases hgauges
  rfl

/-- Reads components one after the other, each as an amount of its own. -/
def readEach (v : View) (package : Option UInt32) (order : List Component) (m : CpuMeter) :
    List (Except Error Float) × CpuMeter :=
  runCalls (fun v m c => m.readAmount v c package) m (order.map fun c => (v, c))

end CpuMeter

section

variable {v : View} {m m' : CpuMeter} {q : Query} {package : Option UInt32}
  {order : List Component}

/-- All components answer together if each of them does. -/
theorem answers_iff_each (horder : ∀ c, c ∈ order) :
    Answers v m ⟨package, none⟩ ↔ ∀ c ∈ order, Answers v m ⟨package, some c⟩ := by
  constructor
  · intro h c _
    refine ⟨h.1, fun s g hg hs => ?_⟩
    exact h.2 s g hg (Query.selects_component.1 hs).1
  · intro h
    refine ⟨(h .whole (horder .whole)).1, fun s g hg hs => ?_⟩
    have hread := (h s.component (horder s.component)).2
    exact hread s g hg (Query.selects_component.2 ⟨hs, rfl⟩)

end

/-- How a meter stands to what it was, the gauges of some slots having been read at one
moment, each once or several times, and no others. -/
structure ReadExactly (v : View) (slots : Slot → Prop) (m m' : CpuMeter) : Prop
    extends PartlyRead v m m' where
  /-- The gauges of these slots are as after one read. -/
  advanced : ∀ s g, slots s → m.gauge? s = some g →
    ∃ g', g.read v = .ok g' ∧ m'.gauge? s = some g'
  /-- All other slots are as they were. -/
  kept : ∀ s, ¬ slots s → m'.gauge? s = m.gauge? s

namespace ReadExactly

variable {v : View} {slots slots' : Slot → Prop} {m m' a b : CpuMeter} {q : Query}
  {package : Option UInt32} {order : List Component}

/-- A meter of which nothing was read. -/
theorem refl (v : View) (m : CpuMeter) : ReadExactly v (fun _ => False) m m where
  toPartlyRead := .refl v m
  advanced := fun _ _ hs => hs.elim
  kept := fun _ _ => rfl

/-- Which gauges were read settles the meter. -/
theorem unique (ha : ReadExactly v slots m a) (hb : ReadExactly v slots' m b)
    (hslots : ∀ s, slots s ↔ slots' s) : a = b := by
  refine CpuMeter.eq_of_gauge? fun s => ?_
  by_cases hs : slots s
  · cases hg : m.gauge? s with
    | none => rw [ha.gauge?_eq_none hg, hb.gauge?_eq_none hg]
    | some g =>
      obtain ⟨g₁, hread₁, hg₁⟩ := ha.advanced s g hs hg
      obtain ⟨g₂, hread₂, hg₂⟩ := hb.advanced s g ((hslots s).1 hs) hg
      cases hread₁.symm.trans hread₂
      rw [hg₁, hg₂]
  · rw [ha.kept s hs, hb.kept s fun hs' => hs ((hslots s).2 hs')]

/-- A read that gets through adds the gauges that it selects to those that were read. -/
theorem act (h : ReadExactly v slots m m') {selects : Slot → Bool}
    (hok : (m'.act selects (Gauge.read v)).1 = none) :
    ReadExactly v (fun s => slots s ∨ selects s = true) m
      (m'.act selects (Gauge.read v)).2 where
  toPartlyRead := h.toPartlyRead.act selects
  advanced := by
    intro s g hs hg
    by_cases hsel : selects s = true
    · obtain ⟨g₁, hg₁, hsame⟩ := h.read_eq hg
      obtain ⟨g', hread, hg'⟩ := CpuMeter.gauge?_act_of_selected hok hsel hg₁
      exact ⟨g', hsame.symm.trans hread, hg'⟩
    · obtain ⟨g', hread, hg'⟩ := h.advanced s g (hs.resolve_right hsel) hg
      exact ⟨g', hread, (CpuMeter.gauge?_act_of_not_selected hsel).trans hg'⟩
  kept := by
    intro s hs
    have hsel : ¬ selects s = true := fun hsel => hs (Or.inr hsel)
    have hslot : ¬ slots s := fun hslot => hs (Or.inl hslot)
    exact (CpuMeter.gauge?_act_of_not_selected hsel).trans (h.kept s hslot)

/-- A read that would have answered at the start answers after other reads as well, with the
sums of the gauges read once. -/
theorem read_of_answers (h : ReadExactly v slots m m') (hq : Answers v m q) :
    ∃ b m'', m'.read v q = (.ok b, m'') ∧
      (∀ c ∈ q.components, b.amount c = sumAfter v m q.package c) ∧
      ReadExactly v (fun s => slots s ∨ q.selects s = true) m m'' := by
  have hknown : m'.unknown? q = none := (h.unknown?_eq q).trans hq.1
  have hok : (m'.act q.selects (Gauge.read v)).1 = none := (h.act_eq_none_iff q.selects).2 hq.2
  refine ⟨CpuMeter.tally q.selects (m'.act q.selects (Gauge.read v)).2.gauges, _, ?_,
    fun c hc => ?_, h.act hok⟩
  · rw [CpuMeter.read_eq_act hknown, hok]
  · rw [CpuMeter.amount_tally_selects _ hc]
    exact h.sumOf_act hc hok

/-- Components that would have answered at the start answer one after the other. -/
theorem readEach_of_answers (h : ReadExactly v slots m m')
    (hall : ∀ c ∈ order, Answers v m ⟨package, some c⟩) :
    ∃ slots' m'', m'.readEach v package order =
        (order.map fun c => .ok (sumAfter v m package c), m'') ∧
      ReadExactly v slots' m m'' ∧ ∀ s, slots' s ↔ slots s ∨
        (Query.mk package none).selects s = true ∧ s.component ∈ order := by
  induction order generalizing m' slots with
  | nil => exact ⟨slots, m', rfl, h, by simp⟩
  | cons c rest ih =>
    obtain ⟨b, next, hread, hamount, hnext⟩ :=
      h.read_of_answers (hall c List.mem_cons_self)
    obtain ⟨slots', m'', hrest, hleft, hslots⟩ :=
      ih hnext fun d hd => hall d (List.mem_cons_of_mem c hd)
    have hfirst : m'.readAmount v c package = (.ok (sumAfter v m package c), next) := by
      have hb := hamount c (List.mem_singleton_self c)
      simp only [CpuMeter.readAmount, hread, Except.map, hb]
    refine ⟨slots', m'', ?_, hleft, fun s => ?_⟩
    · unfold CpuMeter.readEach at hrest ⊢
      rw [List.map_cons, List.map_cons, runCalls, hfirst]
      dsimp only
      rw [hrest]
    · rw [hslots, Query.selects_component, List.mem_cons]
      tauto

end ReadExactly

section

variable {v : View} {m m' : CpuMeter} {package : Option UInt32} {order : List Component}

/-- One after the other all components answer if each would have answered at the start. What
a read does that fails in between does not matter. -/
theorem PartlyRead.readEach_answers_iff (h : PartlyRead v m m') :
    (∀ answer ∈ (m'.readEach v package order).1, ∃ x, answer = .ok x) ↔
      ∀ c ∈ order, Answers v m ⟨package, some c⟩ := by
  induction order generalizing m' with
  | nil => simp [CpuMeter.readEach, runCalls]
  | cons c rest ih =>
    have hsplit : (m'.readEach v package (c :: rest)).1 =
        (m'.readAmount v c package).1 ::
          ((m'.read v ⟨package, some c⟩).2.readEach v package rest).1 := rfl
    obtain ⟨hnext, hanswers⟩ := h.read ⟨package, some c⟩
    have hfirst : (∃ x, (m'.readAmount v c package).1 = .ok x) ↔
        Answers v m ⟨package, some c⟩ := by
      rw [← hanswers, CpuMeter.readAmount]
      cases (m'.read v ⟨package, some c⟩).1 <;> simp [Except.map]
    rw [hsplit, List.forall_mem_cons, List.forall_mem_cons, hfirst, ih hnext]

end

/-- The joules by component, of one package or of all, against those of the single
components in any order, from the same meter at the same moment. The combined read answers if
all the others do; then its amounts are theirs, and both ways leave the same meter. -/
theorem combined_eq_separate (v : View) (m : CpuMeter) (package : Option UInt32)
    {order : List Component} (horder : order.Perm Component.all) :
    ((∃ b, (m.read v ⟨package, none⟩).1 = .ok b) ↔
      ∀ answer ∈ (m.readEach v package order).1, ∃ x, answer = .ok x) ∧
    ∀ b, (m.read v ⟨package, none⟩).1 = .ok b →
      m.readEach v package order =
        (order.map fun c => .ok (b.amount c), (m.read v ⟨package, none⟩).2) := by
  have hall : ∀ c, c ∈ order := fun c => horder.mem_iff.2 (by cases c <;> decide)
  have hstart := ReadExactly.refl v m
  have hcombined := (hstart.read ⟨package, none⟩).2
  constructor
  · rw [hcombined, hstart.readEach_answers_iff, answers_iff_each hall]
  · intro b hb
    have hanswers := hcombined.1 ⟨b, hb⟩
    obtain ⟨b', left, hread, hamount, hleft⟩ := hstart.read_of_answers hanswers
    obtain ⟨slots, left', heach, hleft', hslots⟩ :=
      hstart.readEach_of_answers ((answers_iff_each hall).1 hanswers)
    have hsame : b' = b := by
      rw [hread] at hb
      exact Except.ok.inj hb
    have hlefts : left' = left := hleft'.unique hleft fun s => by simp [hslots, hall]
    have hamounts : ∀ c, sumAfter v m package c = b.amount c := fun c =>
      hsame ▸ (hamount c (Query.mem_components.2 rfl)).symm
    simp only [heach, hread, hlefts, hamounts]

/-- With a meter of uneven packages all components are read together, and apart with the same
result. -/
theorem combined_eq_separate_of_uneven :
    [Component.dram, .whole, .graphic, .cores].Perm Component.all ∧
      ∃ b, (unevenMeter.read (.holding "170") ⟨none, none⟩).1 = .ok b ∧
        unevenMeter.readEach (.holding "170") none [.dram, .whole, .graphic, .cores] =
          ([.ok b.dram, .ok b.cpu, .ok b.graphic, .ok b.cores],
            (unevenMeter.read (.holding "170") ⟨none, none⟩).2) := by
  have horder : [Component.dram, .whole, .graphic, .cores].Perm Component.all := by decide
  refine ⟨horder, _, rfl, ?_⟩
  exact (combined_eq_separate (.holding "170") unevenMeter none horder).2 _ rfl

end EnergyMeter.Rapl
