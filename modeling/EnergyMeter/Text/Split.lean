/-!
# Splitting at a separator

A text with `n` separators has `n + 1` parts, some of them perhaps empty, and
the parts joined by separators give the text back.
-/

namespace EnergyMeter.Text

/-- The parts between the separators. -/
def splitAt (separator : Char) : List Char → List (List Char)
  | [] => [[]]
  | c :: cs =>
    match splitAt separator cs with
    | [] => [[c]]
    | p :: ps => if c = separator then [] :: p :: ps else (c :: p) :: ps

/-- The text with separators between its parts. -/
def joinWith (separator : Char) : List (List Char) → List Char
  | [] => []
  | [p] => p
  | p :: ps => p ++ separator :: joinWith separator ps

/-- There is at least one part. -/
theorem splitAt_ne_nil (separator : Char) (cs : List Char) : splitAt separator cs ≠ [] := by
  cases cs with
  | nil => simp [splitAt]
  | cons c cs =>
    rw [splitAt]
    split
    · simp
    · split <;> simp

/-- No part holds the separator. -/
theorem not_mem_of_mem_splitAt {separator : Char} {cs p : List Char}
    (h : p ∈ splitAt separator cs) : separator ∉ p := by
  induction cs generalizing p with
  | nil => simp_all [splitAt]
  | cons c cs ih =>
    rw [splitAt] at h
    split at h
    · rename_i hn
      exact absurd hn (splitAt_ne_nil separator cs)
    · rename_i q qs hq
      split at h
      · rcases List.mem_cons.1 h with rfl | h
        · exact List.not_mem_nil
        · exact ih (hq ▸ h)
      · rename_i hc
        rcases List.mem_cons.1 h with rfl | h
        · simp only [List.mem_cons, not_or]
          exact ⟨fun he => hc he.symm, ih (hq ▸ List.mem_cons_self ..)⟩
        · exact ih (hq ▸ List.mem_cons_of_mem _ h)

/-- Joining the parts gives the text back. -/
theorem joinWith_splitAt (separator : Char) (cs : List Char) :
    joinWith separator (splitAt separator cs) = cs := by
  induction cs with
  | nil => rfl
  | cons c cs ih =>
    rw [splitAt]
    split
    · rename_i hn
      exact absurd hn (splitAt_ne_nil separator cs)
    · rename_i q qs hq
      rw [hq] at ih
      split
      · rename_i hc
        rw [joinWith, ih, hc, List.nil_append]
        exact List.cons_ne_nil _ _
      · cases qs with
        | nil => simpa [joinWith] using ih
        | cons r rs => simpa [joinWith] using ih

end EnergyMeter.Text
