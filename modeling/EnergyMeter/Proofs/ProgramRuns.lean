import EnergyMeter.Files.Snapshot
import EnergyMeter.Program.Run

/-!
# What is seen of a run

Seen from outside, and the diagnostics apart, a run is an exit status, the lines on
standard output and the waits. A program ends at once or waits a single time for ten
seconds. What both programs start from are the meters that the settings lead to. Their
lines are made of fixed words and of the texts of amounts, and none of these breaks a
line.
-/

namespace EnergyMeter

open Files

/-- Whether a text stays on one line. -/
def OneLine (s : String) : Prop :=
  '\n' ∉ s.toList

/-- Whether a text stays on one line can be decided. -/
instance (s : String) : Decidable (OneLine s) :=
  inferInstanceAs (Decidable (¬ _))

/-- Texts on one line are joined to one on one line. -/
theorem OneLine.append {a b : String} (ha : OneLine a) (hb : OneLine b) : OneLine (a ++ b) := by
  unfold OneLine
  rw [String.toList_append, List.mem_append, not_or]
  exact ⟨ha, hb⟩

namespace Decimal

/-- Digits break no line. -/
theorem newline_not_mem_digitChars (n : Nat) : '\n' ∉ digitChars n := by
  intro h
  have hdigit := Nat.isDigit_of_mem_toDigits (by decide) (by decide) h
  exact absurd hdigit (by decide)

/-- The digits on either side of the point break no line. -/
theorem newline_not_mem_splitAt (places n : Nat) :
    '\n' ∉ (splitAt places n).1 ∧ '\n' ∉ (splitAt places n).2 := by
  have hpadded : '\n' ∉ List.replicate (places + 1 - (digitChars n).length) '0' ++
      digitChars n := by
    rw [List.mem_append, not_or]
    exact ⟨fun h => absurd (List.eq_of_mem_replicate h) (by decide), newline_not_mem_digitChars n⟩
  exact ⟨fun h => hpadded (List.mem_of_mem_take h), fun h => hpadded (List.mem_of_mem_drop h)⟩

/-- The text of a decimal stays on one line. -/
theorem oneLine_positional (d : Decimal) : OneLine d.positional := by
  unfold OneLine positional
  cases d.exponent with
  | ofNat e =>
    rw [String.toList_ofList]
    exact newline_not_mem_digitChars _
  | negSucc e =>
    obtain ⟨hwhole, hfraction⟩ := newline_not_mem_splitAt (e + 1) d.digits
    have hkept : '\n' ∉ dropEndZeros (splitAt (e + 1) d.digits).2 := fun h =>
      hfraction (List.mem_reverse.1 ((List.dropWhile_sublist _).mem (List.mem_reverse.1 h)))
    show '\n' ∉ (joinPoint _ _).toList
    unfold joinPoint
    rw [String.toList_ofList]
    split
    · exact hwhole
    · rw [List.mem_append, List.mem_cons, not_or, not_or]
      exact ⟨hwhole, by decide, hkept⟩

end Decimal

namespace Amount

/-- A sign leaves a text on one line. -/
theorem oneLine_signed {s : String} (hs : OneLine s) (negative : Bool) :
    OneLine (signed negative s) := by
  cases negative with
  | false => exact hs
  | true => exact OneLine.append (by decide) hs

/-- The text of an amount stays on one line. -/
theorem oneLine_text (x : Float) : OneLine (text x) := by
  unfold text render
  split
  · decide
  · exact oneLine_signed (by decide) _
  · exact oneLine_signed (by decide) _
  · exact oneLine_signed (Decimal.oneLine_positional _) _

end Amount

/-- What is seen of a run, its diagnostics apart. -/
structure Sight where
  /-- The exit status. -/
  exit : Nat
  /-- The lines on standard output. -/
  output : List String
  /-- The seconds of each wait. -/
  waits : List UInt64
  deriving DecidableEq, Repr

/-- A run without its diagnostics. -/
def Run.seen (r : Run) : Sight := ⟨r.exit, r.output, r.waits⟩

namespace Stage

variable {s : Stage} {later : View} {exit : Nat} {said output : List String}

/-- That a program ends without a wait, and what is then seen of it. -/
def EndsAtOnce (s : Stage) (exit : Nat) (output : List String) : Prop :=
  ∃ run, s = .ended run ∧ run.seen = ⟨exit, output, []⟩

/-- That a program waits once, for ten seconds, what it has said before, and what is seen
of it in the end. -/
def EndsAfterWait (s : Stage) (later : View) (said : List String) (exit : Nat)
    (output : List String) : Prop :=
  ∃ before after, s = .waiting before 10 after ∧ before.seen = ⟨0, said, [10]⟩ ∧
    (after later).seen = ⟨exit, output, [10]⟩

/-- What is seen of a program that ends without a wait, whatever the files are later. -/
theorem EndsAtOnce.seen (h : s.EndsAtOnce exit output) (later : View) :
    (s.run later).seen = ⟨exit, output, []⟩ := by
  obtain ⟨run, rfl, hseen⟩ := h
  exact hseen

/-- What is seen of a program that waits. -/
theorem EndsAfterWait.seen (h : s.EndsAfterWait later said exit output) :
    (s.run later).seen = ⟨exit, output, [10]⟩ := by
  obtain ⟨before, after, rfl, -, hseen⟩ := h
  exact hseen

end Stage

/-- The meters that the settings lead to; none if the settings cannot be loaded or the
search for meters fails. -/
def metersFound (v : View) (env : Environment) : Option Meters :=
  (Settings.load v env).value.toOption.bind fun settings =>
    (Meters.detect v settings.roots).value.toOption

/-- The local machine has the meters that are found; without them it is an error. -/
theorem Machine.here_value (v : View) (env : Environment) :
    match metersFound v env with
    | none => ∃ e, (Machine.here v env).value = .error e
    | some m => ∃ machine, (Machine.here v env).value = .ok machine ∧ machine.meters = m := by
  simp only [here, ofSettings, metersFound]
  cases hload : (Settings.load v env).value with
  | error e => exact ⟨e, rfl⟩
  | ok settings =>
    simp only [Except.toOption, Option.bind_some]
    cases hdetect : (Meters.detect v settings.roots).value with
    | error e => exact ⟨e, rfl⟩
    | ok m => exact ⟨⟨settings, m⟩, rfl, rfl⟩

/-- The kernel's zones of two packages, whose counters stand at these values. There are no other
files. -/
def Files.View.packagesAt (first second : String) : View :=
  Snapshot.view
    { files :=
        [(⟨"/sys/class/powercap/intel-rapl:0/name"⟩, .ok "package-0".toUTF8),
          (⟨"/sys/class/powercap/intel-rapl:0/energy_uj"⟩, .ok first.toUTF8),
          (⟨"/sys/class/powercap/intel-rapl:0/max_energy_range_uj"⟩, .ok "1000000".toUTF8),
          (⟨"/sys/class/powercap/intel-rapl:1/name"⟩, .ok "package-1".toUTF8),
          (⟨"/sys/class/powercap/intel-rapl:1/energy_uj"⟩, .ok second.toUTF8)]
      directories := [(⟨"/sys/class/powercap"⟩, .ok ["intel-rapl:1", "intel-rapl:0"])]
      present := [] }

/-- The gauge of the first package, at 950000 microjoules. -/
def firstPackage : Gauge :=
  ⟨⟨"/sys/class/powercap/intel-rapl:0/energy_uj"⟩, some 1000000, 950000, 0, signBit_zero⟩

/-- The gauge of the second package, at 100 microjoules. -/
def secondPackage : Gauge :=
  ⟨⟨"/sys/class/powercap/intel-rapl:1/energy_uj"⟩, none, 100, 0, signBit_zero⟩

/-- The meter of both packages. -/
def packageMeter : Rapl.CpuMeter where
  gauges := [(⟨0, .whole⟩, firstPackage), (⟨1, .whole⟩, secondPackage)]
  proper := ⟨by decide, by decide⟩

/-- At these values that meter is found, without settings in the home directory of the
account. -/
theorem metersFound_packagesAt :
    metersFound (.packagesAt "950000" "100") ⟨⟨none, some "/root"⟩, none⟩ =
      some ⟨some packageMeter, none⟩ := by
  rfl

end EnergyMeter
