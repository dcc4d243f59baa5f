import EnergyMeter.Proofs.CallReach

/-!
# Resets that end early

A reset starts the gauges of the CPU meter again one by one, in reading order, and ends with
the first whose file holds no count. The gauges in front of it stand at the counts of their
files with nothing counted; it and all behind it are as if no reset had been tried, then and
after whatever is asked later. So what they had counted is neither lost nor counted twice:
the next read that gets through gives it together with what their files show since.
-/

namespace EnergyMeter.Rapl

open Files

/-- What a reset does: it starts gauges again one by one and ends with the first whose file
holds no count. -/
structure ResetsInOrder (v : View) (m m' : CpuMeter) (answer : Except Error Unit)
    (before after : List Slot) : Prop where
  /-- The slots stand package by package, and in each from the whole to the memory. -/
  order : before ++ after = m.order Query.everything
  /-- In that order no slot comes twice, so none is both in front and behind. -/
  ascending : (before ++ after).Pairwise Slot.Before
  /-- Every gauge has its place there. -/
  everything : ∀ s g, m.gauge? s = some g → s ∈ before ++ after
  /-- In every slot in front, the gauge stands at the count of its file with nothing counted. -/
  restarted : ∀ s ∈ before, ∃ g n, m.gauge? s = some g ∧ Sensor.count v g.file = .ok n ∧
    m'.gauge? s = some ⟨g.file, g.range, n, 0, signBit_zero⟩
  /-- All other slots are as they were, those behind among them. -/
  kept : ∀ s, s ∉ before → m'.gauge? s = m.gauge? s
  /-- The reset gets through if and only if it leaves no slot behind. -/
  completed : answer = .ok () ↔ after = []
  /-- It does so if and only if every file holds a count. -/
  readable : answer = .ok () ↔ AllReadable v m
  /-- The file of the first slot left behind holds no count, and the answer is its error. -/
  stopped : ∀ s ∈ after.head?, ∃ g e, m.gauge? s = some g ∧ Sensor.count v g.file = .error e ∧
    answer = .error e
  /-- Whatever is asked later, in the other slots the gauges are as if no reset had been
  tried. -/
  untried : ∀ s, s ∉ before → ∀ calls, (runCalls CpuCall.perform m' calls).2.gauge? s =
    (runCalls CpuCall.perform m calls).2.gauge? s
  /-- The next read of such a gauge that answers counts on from before the reset, and its
  answer sums up what is then counted. -/
  reported : ∀ s g, s ∉ before → m.gauge? s = some g → ∀ later (r : CpuRead) reply, r.Names s →
    (r.perform later m').1 = .ok reply → reply = r.sums (r.perform later m').2 ∧
      ∃ n, Sensor.count later g.file = .ok n ∧
        (r.perform later m').2.worth s = g.total + joulesOf (countedBetween g.last n g.range)

section

variable {v : View} {m : CpuMeter}

/-- A reset visits the slots in reading order. -/
theorem reset_acts_in_order (v : View) (m : CpuMeter) :
    ∃ before after, before ++ after = m.order Query.everything ∧
      CpuMeter.ActsInOrder (Gauge.reset v) m (m.reset v).2 (failureOf (m.reset v).1) before
        after := by
  obtain ⟨before, after, hchosen, hacts⟩ := m.act_in_order (fun _ => true) (Gauge.reset v)
  have hfailure : failureOf (m.reset v).1 = (m.act (fun _ => true) (Gauge.reset v)).1 := by
    rw [m.reset_eq_act]
    cases (m.act (fun _ => true) (Gauge.reset v)).1 <;> rfl
  have hleft : (m.reset v).2 = (m.act (fun _ => true) (Gauge.reset v)).2 :=
    congrArg Prod.snd (m.reset_eq_act v)
  refine ⟨before, after, hchosen.trans (m.filter_slots Query.everything), ?_⟩
  rw [hfailure, hleft]
  exact hacts

/-- A reset gets through if and only if every file holds a count. -/
theorem reset_eq_ok_iff : (m.reset v).1 = .ok () ↔ AllReadable v m := by
  by_cases hall : AllReadable v m
  · obtain ⟨m', hreset, -⟩ := reset_of_readable hall
    simp [hreset, hall]
  · obtain ⟨e, m', hreset⟩ := reset_of_unreadable hall
    simp [hreset, hall]

/-- What a read answers sums up what the gauges have counted then. -/
theorem CpuRead.reply_eq_sums {r : CpuRead} {reply : Reply} (h : (r.perform v m).1 = .ok reply) :
    reply = r.sums (r.perform v m).2 := by
  rw [r.perform_eq_read] at h ⊢
  cases hunknown : m.unknown? r.query with
  | some id =>
    rw [CpuMeter.read_of_unknown hunknown] at h
    cases h
  | none =>
    rw [CpuMeter.read_eq_act hunknown] at h ⊢
    rw [← r.reply_tally]
    cases hfailure : (m.act r.query.selects (Gauge.read v)).1 with
    | some e =>
      rw [hfailure] at h
      cases h
    | none =>
      rw [hfailure] at h
      exact (Except.ok.inj h).symm

/-- After a read that answers, a slot that it names is worth what its gauge had counted and
what the file shows since. -/
theorem worth_of_perform {r : CpuRead} {reply : Reply} {s : Slot} {g : Gauge} (hs : r.Names s)
    (h : (r.perform v m).1 = .ok reply) (hg : m.gauge? s = some g) :
    ∃ n, Sensor.count v g.file = .ok n ∧
      (r.perform v m).2.worth s = g.total + joulesOf (countedBetween g.last n g.range) := by
  obtain ⟨n, hn, hg'⟩ := book_of_perform hs h hg
  exact ⟨n, hn, CpuMeter.worth_of_mem (CpuMeter.gauge?_eq_some.1 hg')⟩

end

/-- Every reset starts the gauges again one by one, packages by ascending number. It gets
through them all or ends with the first whose file holds no count, and then that gauge and
all behind it count on as if no reset had been tried. -/
theorem reset_in_order (v : View) (m : CpuMeter) :
    m.packages.Pairwise (· < ·) ∧ (m.reset v).2.packages = m.packages ∧
      ∃ before after, ResetsInOrder v m (m.reset v).2 (m.reset v).1 before after := by
  refine ⟨m.ascending_packages, CpuMeter.packages_of_layout (layout_reset v m), ?_⟩
  obtain ⟨before, after, horder, hacts⟩ := reset_acts_in_order v m
  refine ⟨before, after, ?_⟩
  constructor
  case order => exact horder
  case ascending =>
    rw [horder]
    exact m.ascending_order Query.everything
  case everything =>
    intro s g hg
    rw [horder, CpuMeter.mem_order]
    exact ⟨CpuMeter.isSome_gauge?.1 (hg ▸ rfl), rfl⟩
  case restarted =>
    intro s hs
    obtain ⟨g, g', hg, hreset, hg'⟩ := hacts.advanced s hs
    obtain ⟨n, hn, rfl⟩ := Gauge.reset_eq_ok.1 hreset
    exact ⟨g, n, hg, hn, hg'⟩
  case kept => exact hacts.kept
  case completed =>
    constructor
    · intro hok
      rw [hok] at hacts
      exact hacts.after_eq_nil
    · intro hnil
      obtain ⟨⟨⟩, hok⟩ := failureOf_eq_none.1 (hacts.completed hnil)
      exact hok
  case readable => exact reset_eq_ok_iff
  case stopped =>
    intro s hs
    obtain ⟨g, e, hg, hreset, hfailure⟩ := hacts.stopped s hs
    exact ⟨g, e, hg, Gauge.reset_eq_error.1 hreset, failureOf_eq_some.1 hfailure⟩
  case untried =>
    intro s hs calls
    exact CpuCall.gauge?_runCalls_congr (layout_reset v m) (hacts.kept s hs) calls
  case reported =>
    intro s g hs hg later r reply hnames hanswer
    exact ⟨CpuRead.reply_eq_sums hanswer,
      worth_of_perform hnames hanswer ((hacts.kept s hs).trans hg)⟩

end EnergyMeter.Rapl
