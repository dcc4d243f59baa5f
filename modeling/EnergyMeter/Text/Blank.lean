/-!
# Blank characters

Sensor files end their values with a line break and may pad them. This file
fixes which characters count as padding, the Unicode white space property, and
removes them from both ends of a text. The inner characters stay as they are.
-/

namespace EnergyMeter.Text

/-- The characters with the Unicode white space property. -/
def isBlank (c : Char) : Bool :=
  let n := c.toNat
  (0x09 ≤ n && n ≤ 0x0d) || n == 0x20 || n == 0x85 || n == 0xa0 || n == 0x1680 ||
    (0x2000 ≤ n && n ≤ 0x200a) || n == 0x2028 || n == 0x2029 || n == 0x202f ||
    n == 0x205f || n == 0x3000

/-- The characters left after the blanks at the end are dropped. -/
def trimEnd (cs : List Char) : List Char :=
  (cs.reverse.dropWhile isBlank).reverse

/-- The characters left after the blanks at both ends are dropped. -/
def trim (cs : List Char) : List Char :=
  trimEnd (cs.dropWhile isBlank)

/-- A text without the blanks at its two ends. -/
def trimmed (s : String) : String :=
  String.ofList (trim s.toList)

/-- Blanks alone leave nothing. -/
theorem trim_eq_nil_of_forall {cs : List Char} (h : ∀ c ∈ cs, isBlank c = true) :
    trim cs = [] := by
  have hd : cs.dropWhile isBlank = [] := by
    induction cs with
    | nil => rfl
    | cons c r ih =>
      rw [List.dropWhile_cons, if_pos (h c (List.mem_cons_self ..))]
      exact ih fun d hd => h d (List.mem_cons_of_mem _ hd)
  simp only [trim, trimEnd, hd, List.reverse_nil, List.dropWhile_nil]

end EnergyMeter.Text
