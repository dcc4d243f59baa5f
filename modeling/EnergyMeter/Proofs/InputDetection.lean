import EnergyMeter.Files.Tree
import EnergyMeter.Proofs.ByteOrder
import EnergyMeter.Proofs.PackageDetection

/-!
# Which input at the plug is found

An input is usable if its chip is listed and does not only measure CPU cores, if its
number is one of those that are tried, and if its counter can be read; this is said of the
files alone, without an order. The meter is that of the least usable input: by the bytes of
the chip's path and then by number, so chip ten comes before chip two, and input two before
input ten. Nothing about another input can add it, hide it or change what it is called.
-/

namespace EnergyMeter

open Files

/-- That a path leads to something if it can be read. -/
def Files.View.Coherent (v : View) : Prop :=
  ∀ p content, v.read p = .ok content → v.leadsTo p = true

/-- The answers of a tree fit together. -/
theorem Files.Tree.coherent_view (t : Files.Tree) : t.view.Coherent := by
  intro p content h
  have hread : t.read p = .ok content := h
  have hopen : (t.open? p).isOk = true := by
    unfold Files.Tree.read at hread
    cases ho : t.open? p with
    | ok found => rfl
    | error fault => simp [ho] at hread
  exact hopen

/-- A file with a count is there. -/
theorem Files.View.Coherent.leadsTo_of_count {v : View} (hv : v.Coherent) {p : Path}
    {n : UInt64} (h : Sensor.count v p = .ok n) : v.leadsTo p = true := by
  cases hread : v.read p with
  | ok content => exact hv p content hread
  | error fault => simp [Sensor.count, Sensor.text, View.text, hread] at h

namespace Hwmon

/-- Whether an input below a directory of chips can be metered. -/
structure UsableInput (v : View) (root : Path) (i : Input) : Prop where
  /-- The chip is an entry of the directory. -/
  listed : ∃ entry, v.Lists root entry ∧ i.chip = root.join entry
  /-- The chip is named by its file; one that cannot be read gives no name. -/
  named : i.chipName = Sensor.textOrEmpty v (i.chip.join "name")
  /-- The chip does not only measure CPU cores. -/
  metered : i.chipName ∉ coreChips
  /-- The number is one that an input may have. -/
  numbered : 1 ≤ i.number ∧ i.number ≤ 32
  /-- The counter can be read. -/
  counted : ∃ n, Sensor.count v i.file = .ok n

/-- The order of inputs: by the bytes of the chip's path, and in one chip by number. -/
def Input.Le (i j : Input) : Prop :=
  i.chip.bytes < j.chip.bytes ∨ i.chip = j.chip ∧ i.number ≤ j.number

/-- That a meter is the one that starts at an input. -/
structure StartsAt (v : View) (i : Input) (m : PlugMeter) : Prop where
  /-- Its gauge stands at the value of the counter, with nothing counted and no range. -/
  gauge : ∃ n, Sensor.count v i.file = .ok n ∧ m.gauge = ⟨i.file, none, n, 0, signBit_zero⟩
  /-- It is called by the input's label if that can be read, even if it is empty. -/
  labelled : ∀ s, Sensor.text v (i.chip.join s!"energy{i.number}_label") = .ok s → m.label = s
  /-- Otherwise it is called by the chip's name and the number. -/
  unlabelled : ∀ e, Sensor.text v (i.chip.join s!"energy{i.number}_label") = .error e →
    m.label = i.chipName ++ " energy" ++ toString i.number

section Inputs

variable {v : View} {root chip : Path} {names : List String} {i j : Input} {m : PlugMeter}

/-- The meter that starts at an input, if its counter can be read. -/
def Input.meter? (v : View) (i : Input) : Option PlugMeter :=
  (Gauge.start v i.file none).toOption.map fun g => ⟨i.label v, g⟩

/-- An input is called by its label, or by the chip's name and its number. -/
theorem Input.eq_label {label : String} : label = i.label v ↔
    (∀ s, Sensor.text v (i.chip.join s!"energy{i.number}_label") = .ok s → label = s) ∧
    ∀ e, Sensor.text v (i.chip.join s!"energy{i.number}_label") = .error e →
      label = i.chipName ++ " energy" ++ toString i.number := by
  unfold Input.label
  cases Sensor.text v (i.chip.join s!"energy{i.number}_label") with
  | ok s => simp
  | error e =>
    simp
    rfl

/-- The meter of an input is the one that starts there. -/
theorem Input.meter?_eq_some : i.meter? v = some m ↔ StartsAt v i m := by
  obtain ⟨label, gauge⟩ := m
  constructor
  · intro h
    obtain ⟨g, hstart, hm⟩ := Option.map_eq_some_iff.1 h
    obtain ⟨hlabel, hgauge⟩ := PlugMeter.mk.inj hm
    have hok : Gauge.start v i.file none = .ok g := by
      cases hs : Gauge.start v i.file none with
      | ok g' => simp_all [Except.toOption]
      | error e => simp [hs, Except.toOption] at hstart
    have hcalled := Input.eq_label.1 hlabel.symm
    exact ⟨hgauge ▸ Gauge.start_eq_ok.1 hok, hcalled.1, hcalled.2⟩
  · intro h
    have hok : Gauge.start v i.file none = .ok gauge := Gauge.start_eq_ok.2 h.gauge
    have hlabel : label = i.label v := Input.eq_label.2 ⟨h.labelled, h.unlabelled⟩
    simp [Input.meter?, hok, hlabel, Except.toOption]

/-- An input has a meter if its counter can be read. -/
theorem Input.exists_meter?_iff :
    (∃ m, i.meter? v = some m) ↔ ∃ n, Sensor.count v i.file = .ok n := by
  constructor
  · intro h
    obtain ⟨m, hm⟩ := h
    obtain ⟨n, hn, -⟩ := (Input.meter?_eq_some.1 hm).gauge
    exact ⟨n, hn⟩
  · intro h
    obtain ⟨n, hn⟩ := h
    have hlabel := Input.eq_label.1 (Eq.refl (i.label v))
    exact ⟨⟨i.label v, ⟨i.file, none, n, 0, signBit_zero⟩⟩,
      Input.meter?_eq_some.2 ⟨⟨n, hn, rfl⟩, hlabel.1, hlabel.2⟩⟩

/-- The first usable input is the first one that has a meter. -/
theorem firstUsable_eq_findSome? (v : View) (inputs : List Input) :
    (firstUsable v inputs).1 = inputs.findSome? (Input.meter? v) := by
  induction inputs with
  | nil => rfl
  | cons i rest ih =>
    rw [firstUsable, List.findSome?_cons, Input.meter?]
    cases h : Gauge.start v i.file none with
    | ok g => rfl
    | error e => exact ih

/-- The numbers that are tried. -/
theorem mem_inputNumbers {n : Nat} : n ∈ inputNumbers ↔ 1 ≤ n ∧ n ≤ 32 := by
  simp only [inputNumbers, List.mem_map, List.mem_range]
  constructor
  · intro h
    obtain ⟨k, hk, rfl⟩ := h
    omega
  · intro h
    exact ⟨n - 1, by omega, by omega⟩

/-- The inputs of a chip that are tried. -/
theorem mem_inputsOf : i ∈ inputsOf v chip ↔ i.chip = chip ∧
    i.chipName = Sensor.textOrEmpty v (chip.join "name") ∧ i.chipName ∉ coreChips ∧
    (1 ≤ i.number ∧ i.number ≤ 32) ∧ v.leadsTo i.file = true := by
  unfold inputsOf
  simp only [List.contains_iff_mem]
  split
  · rename_i hcore
    constructor
    · intro h
      cases h
    · intro h
      obtain ⟨-, hname, hmetered, -⟩ := h
      exact absurd (hname ▸ hcore) hmetered
  · rename_i hmetered
    simp only [List.mem_filter, List.mem_map, mem_inputNumbers]
    constructor
    · intro h
      obtain ⟨⟨n, hn, rfl⟩, hfile⟩ := h
      exact ⟨rfl, rfl, hmetered, hn, hfile⟩
    · intro h
      obtain ⟨rfl, hname, -, hn, hfile⟩ := h
      exact ⟨⟨i.number, hn, by rw [← hname]⟩, hfile⟩

/-- The inputs of a chip are tried by number. -/
theorem ordered_inputsOf (v : View) (chip : Path) : (inputsOf v chip).Pairwise Input.Le := by
  have hnumbers : inputNumbers.Pairwise (· ≤ ·) := by decide
  unfold inputsOf
  dsimp only
  split
  · exact List.Pairwise.nil
  · refine List.Pairwise.filter _ (List.pairwise_map.2 (hnumbers.imp ?_))
    intro a b hab
    exact Or.inr ⟨rfl, hab⟩

/-- Of the inputs of a chip the first one that has a meter is the least such. -/
theorem findSome?_le {inputs : List Input} (ho : inputs.Pairwise Input.Le)
    (hm : inputs.findSome? (Input.meter? v) = some m) :
    ∃ i ∈ inputs, i.meter? v = some m ∧
      ∀ j ∈ inputs, (j.meter? v).isSome → i.Le j := by
  obtain ⟨before, i, after, rfl, hi, hbefore⟩ := List.findSome?_eq_some_iff.1 hm
  refine ⟨i, by simp, hi, ?_⟩
  intro j hj hsome
  rw [List.pairwise_append, List.pairwise_cons] at ho
  rcases List.mem_append.1 hj with hj | hj
  · simp [hbefore j hj] at hsome
  · rcases List.mem_cons.1 hj with rfl | hj
    · exact Or.inr ⟨rfl, Nat.le_refl _⟩
    · exact ho.2.1.1 j hj

/-- Below chips in the order of their names the first input that has a meter is the least
such, also if a name comes twice. -/
theorem findSome?_chips_le (ho : names.Pairwise fun a b => nameLe a b = true)
    (hm : (names.flatMap fun name => inputsOf v (root.join name)).findSome? (Input.meter? v) =
      some m) :
    ∃ i, i.meter? v = some m ∧ (∃ name ∈ names, i ∈ inputsOf v (root.join name)) ∧
      ∀ name ∈ names, ∀ j ∈ inputsOf v (root.join name), (j.meter? v).isSome → i.Le j := by
  induction names with
  | nil => simp at hm
  | cons first rest ih =>
    obtain ⟨hfirst, hrest⟩ := List.pairwise_cons.1 ho
    rw [List.flatMap_cons, List.findSome?_append] at hm
    cases hchip : (inputsOf v (root.join first)).findSome? (Input.meter? v) with
    | some m' =>
      rw [hchip, Option.some_or] at hm
      obtain ⟨i, hi, hmeter, hleast⟩ := findSome?_le (ordered_inputsOf v _) (hchip.trans hm)
      refine ⟨i, hmeter, ⟨first, List.mem_cons_self, hi⟩, ?_⟩
      intro name hname j hj hsome
      -- A name that comes again has the same inputs; every other one comes later.
      by_cases hsame : first = name
      · exact hleast j (hsame ▸ hj) hsome
      · have hlater : name ∈ rest := (List.mem_cons.1 hname).resolve_left (Ne.symm hsame)
        have hlt := bytes_join_lt (p := root) (hfirst name hlater) hsame
        rw [← (mem_inputsOf.1 hi).1, ← (mem_inputsOf.1 hj).1] at hlt
        exact Or.inl hlt
    | none =>
      rw [hchip, Option.none_or] at hm
      obtain ⟨i, hmeter, ⟨name, hname, hi⟩, hleast⟩ := ih hrest hm
      refine ⟨i, hmeter, ⟨name, List.mem_cons_of_mem _ hname, hi⟩, ?_⟩
      intro other hother j hj hsome
      -- The first chip has no meter, so what is usable stands behind it.
      rcases List.mem_cons.1 hother with rfl | hother
      · have hnone := List.findSome?_eq_none_iff.1 hchip j hj
        simp [hnone] at hsome
      · exact hleast other hother j hj hsome

/-- The usable inputs below a directory are those that are tried and have a meter. -/
theorem usableInput_iff (hv : v.Coherent) (hlist : v.list root = .ok names) :
    UsableInput v root i ↔
      (∃ name ∈ names, i ∈ inputsOf v (root.join name)) ∧ (i.meter? v).isSome := by
  rw [Option.isSome_iff_exists, Input.exists_meter?_iff]
  constructor
  · intro h
    obtain ⟨entry, ⟨names', hlist', hentry⟩, hchip⟩ := h.listed
    obtain ⟨n, hn⟩ := h.counted
    cases hlist.symm.trans hlist'
    have hname := h.named
    rw [hchip] at hname
    exact ⟨⟨entry, hentry, mem_inputsOf.2
      ⟨hchip, hname, h.metered, h.numbered, hv.leadsTo_of_count hn⟩⟩, n, hn⟩
  · intro h
    obtain ⟨⟨entry, hentry, hi⟩, hcounted⟩ := h
    obtain ⟨hchip, hname, hmetered, hnumbered, -⟩ := mem_inputsOf.1 hi
    rw [← hchip] at hname
    exact ⟨⟨entry, ⟨names, hlist, hentry⟩, hchip⟩, hname, hmetered, hnumbered, hcounted⟩

/-- What looking below a listed directory gives: the first input that is tried and has a
meter. -/
theorem value_detect (hlist : v.list root = .ok names) :
    (PlugMeter.detect v root).value = .ok (((names.mergeSort nameLe).flatMap fun name =>
      inputsOf v (root.join name)).findSome? (Input.meter? v)) := by
  unfold PlugMeter.detect
  rw [hlist]
  exact congrArg Except.ok (firstUsable_eq_findSome? v (allInputs v root names))

/-- Below a listed directory nothing is found exactly if no input is usable. -/
theorem value_detect_eq_none (hv : v.Coherent) (hlist : v.list root = .ok names) :
    (PlugMeter.detect v root).value = .ok none ↔ ∀ i, ¬ UsableInput v root i := by
  rw [value_detect hlist, Except.ok.injEq, List.findSome?_eq_none_iff]
  constructor
  · intro h i husable
    obtain ⟨⟨name, hname, hi⟩, hsome⟩ := (usableInput_iff hv hlist).1 husable
    have hnone := h i (List.mem_flatMap.2 ⟨name, List.mem_mergeSort.2 hname, hi⟩)
    simp [hnone] at hsome
  · intro h i hi
    obtain ⟨name, hname, hmem⟩ := List.mem_flatMap.1 hi
    have hname' : name ∈ names := List.mem_mergeSort.1 hname
    cases hmeter : i.meter? v with
    | none => rfl
    | some m =>
      have hsome : (i.meter? v).isSome := by simp [hmeter]
      exact absurd ((usableInput_iff hv hlist).2 ⟨⟨name, hname', hmem⟩, hsome⟩) (h i)

/-- A meter that is found below a listed directory is that of the least usable input. -/
theorem least_of_value_detect (hv : v.Coherent) (hlist : v.list root = .ok names)
    (hm : (PlugMeter.detect v root).value = .ok (some m)) :
    ∃ i, UsableInput v root i ∧ (∀ j, UsableInput v root j → i.Le j) ∧ StartsAt v i m := by
  have ho : (names.mergeSort nameLe).Pairwise fun a b => nameLe a b = true :=
    List.pairwise_mergeSort nameLe_trans nameLe_total names
  rw [value_detect hlist, Except.ok.injEq] at hm
  obtain ⟨i, hmeter, ⟨name, hname, hi⟩, hleast⟩ := findSome?_chips_le ho hm
  have hsome : (i.meter? v).isSome := by simp [hmeter]
  refine ⟨i, (usableInput_iff hv hlist).2 ⟨⟨name, List.mem_mergeSort.1 hname, hi⟩, hsome⟩, ?_,
    Input.meter?_eq_some.1 hmeter⟩
  intro j husable
  obtain ⟨⟨other, hother, hj⟩, hsome'⟩ := (usableInput_iff hv hlist).1 husable
  exact hleast other (List.mem_mergeSort.2 hother) j hj hsome'

end Inputs

/-- What looking for an input gives, told from the files alone. -/
structure FindsLeast (v : View) (root : Path) (answer : Except Error (Option PlugMeter)) :
    Prop where
  /-- The one error is that of a directory which is there and cannot be listed. -/
  failed : ∀ e, answer = .error e ↔
    ∃ fault, fault ≠ .notFound ∧ v.list root = .error fault ∧ e = .io fault
  /-- There is no meter if there is no directory or no usable input below it. -/
  absent : answer = .ok none ↔ v.list root = .error .notFound ∨
    (∃ names, v.list root = .ok names) ∧ ∀ i, ¬ UsableInput v root i
  /-- A meter is the one that starts at the least usable input. -/
  least : ∀ m, answer = .ok (some m) →
    ∃ i, UsableInput v root i ∧ (∀ j, UsableInput v root j → i.Le j) ∧ StartsAt v i m

/-- That two file systems have the same usable inputs below a directory, and the same meter
starts at each of them. -/
def SameInputs (v v' : View) (root : Path) : Prop :=
  ∀ i m, UsableInput v root i ∧ StartsAt v i m ↔ UsableInput v' root i ∧ StartsAt v' i m

section Detection

variable {v v' : View} {root : Path} {i j : Input} {m : PlugMeter}

/-- Inputs that come before each other are the same, given their chips' names. -/
theorem eq_of_le_of_le (hi : UsableInput v root i) (hj : UsableInput v root j)
    (hij : i.Le j) (hji : j.Le i) : i = j := by
  have hplace : i.chip = j.chip ∧ i.number = j.number := by
    rcases hij with hlt | ⟨hchip, hle⟩
    · rcases hji with hgt | ⟨hchip, -⟩
      · exact absurd hgt (List.lt_asymm hlt)
      · rw [hchip] at hlt
        exact absurd hlt (List.lt_irrefl _)
    · rcases hji with hgt | ⟨-, hge⟩
      · rw [hchip] at hgt
        exact absurd hgt (List.lt_irrefl _)
      · exact ⟨hchip, Nat.le_antisymm hle hge⟩
  have hname : i.chipName = j.chipName := by
    rw [hi.named, hj.named, hplace.1]
  obtain ⟨chip, name, number⟩ := i
  obtain ⟨chip', name', number'⟩ := j
  simp_all

/-- At an input only one meter starts. -/
theorem StartsAt.unique {m' : PlugMeter} (h : StartsAt v i m) (h' : StartsAt v i m') : m = m' :=
  Option.some.inj ((Input.meter?_eq_some.2 h).symm.trans (Input.meter?_eq_some.2 h'))

/-- Looking for an input finds the least usable one. -/
theorem findsLeast (hv : v.Coherent) (root : Path) :
    FindsLeast v root (PlugMeter.detect v root).value := by
  cases hlist : v.list root with
  | error fault =>
    have hvalue : (PlugMeter.detect v root).value =
        if fault = .notFound then .ok none else .error (.io fault) := by
      unfold PlugMeter.detect
      rw [hlist]
      cases fault <;> rfl
    rw [hvalue]
    by_cases hmissing : fault = .notFound
    · constructor <;> simp [hmissing, hlist]
    · constructor <;> simp [hmissing, hlist, eq_comm]
  | ok names =>
    have hfailed : ∀ e, (PlugMeter.detect v root).value ≠ .error e := by
      simp [value_detect hlist]
    constructor
    case failed => simp [hfailed, hlist]
    case absent => simp [value_detect_eq_none hv hlist, hlist]
    case least =>
      intro m hm
      exact least_of_value_detect hv hlist hm

/-- Something is found exactly if an input is usable. -/
theorem FindsLeast.found {answer : Except Error (Option PlugMeter)}
    (h : FindsLeast v root answer) :
    (∃ m, answer = .ok (some m)) ↔ ∃ i, UsableInput v root i := by
  constructor
  · intro hfound
    obtain ⟨m, hm⟩ := hfound
    obtain ⟨i, hi, -⟩ := h.least m hm
    exact ⟨i, hi⟩
  · intro husable
    obtain ⟨i, hi⟩ := husable
    obtain ⟨entry, ⟨names, hlist, -⟩, -⟩ := hi.listed
    cases answer with
    | error e =>
      obtain ⟨fault, -, hfault, -⟩ := (h.failed e).1 rfl
      cases hlist.symm.trans hfault
    | ok found =>
      cases found with
      | some m => exact ⟨m, rfl⟩
      | none =>
        rcases h.absent.1 rfl with hmissing | ⟨-, hnone⟩
        · cases hlist.symm.trans hmissing
        · exact absurd hi (hnone i)

/-- A meter that is found is found wherever the usable inputs are the same. -/
theorem value_detect_of_same (hv : v.Coherent) (hv' : v'.Coherent) (hs : SameInputs v v' root)
    (hm : (PlugMeter.detect v root).value = .ok (some m)) :
    (PlugMeter.detect v' root).value = .ok (some m) := by
  obtain ⟨i, hi, hleast, hstarts⟩ := (findsLeast hv root).least m hm
  obtain ⟨hi', hstarts'⟩ := (hs i m).1 ⟨hi, hstarts⟩
  obtain ⟨m', hm'⟩ := (findsLeast hv' root).found.2 ⟨i, hi'⟩
  obtain ⟨j, hj', hleast', hother'⟩ := (findsLeast hv' root).least m' hm'
  have hj : UsableInput v root j := ((hs j m').2 ⟨hj', hother'⟩).1
  -- Each of the two is the least for one view, and both are usable for both.
  have hsame : i = j := eq_of_le_of_le hi hj (hleast j hj) (hleast' i hi')
  rw [← hsame] at hother'
  rw [hm', hother'.unique hstarts']

end Detection

/-- Looking for an input below a directory, in whatever order it is listed. The least usable
input is found, and nothing below the directory is an error. The answer depends on the usable
inputs and the meters that start there, and on nothing else below the directory. -/
theorem detect_finds_least {v : View} (hv : v.Coherent) (root : Path) :
    FindsLeast v root (PlugMeter.detect v root).value ∧
      ∀ v' names names', v'.Coherent → v.list root = .ok names → v'.list root = .ok names' →
        SameInputs v v' root →
          (PlugMeter.detect v' root).value = (PlugMeter.detect v root).value := by
  refine ⟨findsLeast hv root, ?_⟩
  intro v' names names' hv' hlist hlist' hs
  cases hfound : (PlugMeter.detect v root).value with
  | error e => simp [value_detect hlist] at hfound
  | ok found =>
    cases found with
    | some m => exact value_detect_of_same hv hv' hs hfound
    | none =>
      have hnone := (value_detect_eq_none hv hlist).1 hfound
      refine (value_detect_eq_none hv' hlist').2 fun i hi => ?_
      obtain ⟨m, hm⟩ := Input.exists_meter?_iff.2 hi.counted
      exact hnone i ((hs i m).2 ⟨hi, Input.meter?_eq_some.1 hm⟩).1

/-- Three chips: one that only measures CPU cores, one with two inputs of which the first
holds no count, and one that is listed first and comes last. -/
def mixedChips : View :=
  .listing ⟨"chips"⟩ ["hwmon2", "hwmon10", "hwmon1"]
    [("chips/hwmon2/energy1_input", "5"), ("chips/hwmon10/name", "meter\n"),
      ("chips/hwmon10/energy1_input", "none"), ("chips/hwmon10/energy2_input", "70\n"),
      ("chips/hwmon1/name", "amd_energy"), ("chips/hwmon1/energy1_input", "9")]

/-- Of these inputs the second one of the tenth chip is found. In every tree the least usable
input is. -/
theorem detect_finds_least_among_others :
    (mixedChips.Coherent ∧
      FindsLeast mixedChips ⟨"chips"⟩ (PlugMeter.detect mixedChips ⟨"chips"⟩).value ∧
      (PlugMeter.detect mixedChips ⟨"chips"⟩).value = .ok (some
        ⟨"meter energy2", ⟨⟨"chips/hwmon10/energy2_input"⟩, none, 70, 0, signBit_zero⟩⟩)) ∧
    ∀ (t : Files.Tree) root, FindsLeast t.view root (PlugMeter.detect t.view root).value := by
  have hv : mixedChips.Coherent := fun _ _ _ => rfl
  have hsorted : ["hwmon2", "hwmon10", "hwmon1"].mergeSort nameLe =
      ["hwmon1", "hwmon10", "hwmon2"] :=
    mergeSort_eq_of_perm (by decide) (by decide +kernel)
  have hvalue : (PlugMeter.detect mixedChips ⟨"chips"⟩).value = .ok (some
      ⟨"meter energy2", ⟨⟨"chips/hwmon10/energy2_input"⟩, none, 70, 0, signBit_zero⟩⟩) := by
    show Except.ok (firstUsable _ ((List.mergeSort ["hwmon2", "hwmon10", "hwmon1"] _).flatMap _)).1
      = _
    rw [hsorted]
    rfl
  refine ⟨⟨hv, (detect_finds_least hv ⟨"chips"⟩).1, hvalue⟩, ?_⟩
  intro t root
  exact (detect_finds_least t.coherent_view root).1

end Hwmon

end EnergyMeter
