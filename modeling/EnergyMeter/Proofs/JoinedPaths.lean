import EnergyMeter.Files.Tree

/-!
# Paths of names below a path

A name without slashes, joined to a path, is one more step behind those of the path. So the path
of several names below a path has the steps of that path and then the names. With every name it
gets longer, and a path may not be too long.
-/

namespace EnergyMeter.Files

open Text

/-- Parts in front of a separator and behind it stand beside each other. -/
theorem splitAt_append_cons (separator : Char) (cs ds : List Char) :
    splitAt separator (cs ++ separator :: ds) = splitAt separator cs ++ splitAt separator ds := by
  have hcons : ∀ es, splitAt separator (separator :: es) = [] :: splitAt separator es := by
    intro es
    rw [splitAt]
    split
    · rename_i hnil
      exact absurd hnil (splitAt_ne_nil separator es)
    · rename_i hparts
      rw [if_pos rfl, hparts]
  induction cs with
  | nil =>
    rw [List.nil_append, hcons]
    rfl
  | cons c cs ih =>
    rw [List.cons_append, splitAt, ih, splitAt]
    cases hparts : splitAt separator cs with
    | nil => exact absurd hparts (splitAt_ne_nil separator cs)
    | cons q qs =>
      simp only [List.cons_append]
      split <;> rfl

/-- A text without the separator is a single part. -/
theorem splitAt_of_not_mem {separator : Char} {cs : List Char} (h : separator ∉ cs) :
    splitAt separator cs = [cs] := by
  induction cs with
  | nil => rfl
  | cons c cs ih =>
    obtain ⟨hc, hcs⟩ := not_or.1 (fun hm => h (List.mem_cons.2 hm))
    rw [splitAt, ih hcs]
    simp only
    rw [if_neg fun he => hc he.symm]

/-- That a name is a single part of a path, and not one that stays or goes up. -/
structure PlainName (name : String) : Prop where
  /-- It holds no slash. -/
  slash : '/' ∉ name.toList
  /-- It holds no zero character. -/
  zero : '\x00' ∉ name.toList
  /-- It is read as an entry. -/
  entry : Path.partStep? name.toList = some (.entry name)

/-- A plain name has a last character, which is no slash. -/
theorem PlainName.exists_last {name : String} (h : PlainName name) :
    ∃ init c, name.toList = init ++ [c] ∧ c ≠ '/' := by
  rcases List.eq_nil_or_concat name.toList with hnil | ⟨init, c, hlast⟩
  · have hentry := h.entry
    rw [hnil] at hentry
    cases hentry
  · rw [List.concat_eq_append] at hlast
    refine ⟨init, c, hlast, fun hc => h.slash ?_⟩
    simp [hlast, hc]

namespace Path

variable {p : Path} {name : String}

/-- The steps of a path, without the one that a slash at its end asks for. -/
def namedSteps (p : Path) : List Step := (splitAt '/' p.text.toList).filterMap partStep?

/-- The path of names below a path, one below the other. -/
def below (p : Path) (names : List String) : Path := names.foldl join p

/-- A slash at the end adds a step that stays in a directory. -/
theorem steps_cases (p : Path) :
    p.steps = p.namedSteps ∨ p.steps = p.namedSteps ++ [.directory] := by
  unfold steps namedSteps
  simp only
  split
  · exact Or.inr rfl
  · exact Or.inl rfl

/-- The text of a joined path ends with the name, behind a slash. -/
theorem exists_text_join (hp : p.text ≠ "") (name : String) : ∃ front : List Char,
    (p.join name).text.toList = front ++ '/' :: name.toList ∧
      (splitAt '/' front).filterMap partStep? = p.namedSteps ∧
      (∀ c ∈ front, c ∈ p.text.toList) := by
  have hlist : p.text.toList ≠ [] := by
    intro hnil
    exact hp (String.toList_eq_nil_iff.1 hnil)
  unfold join
  cases hslash : p.endsWithSlash with
  | false =>
    refine ⟨p.text.toList, ?_, rfl, fun c hc => hc⟩
    simp [hp, String.toList_append]
  | true =>
    have hlast : p.text.toList.getLast? = some '/' := by
      simpa [endsWithSlash] using hslash
    obtain ⟨front, hfront⟩ := List.getLast?_eq_some_iff.1 hlast
    refine ⟨front, ?_, ?_, ?_⟩
    · simp [String.toList_append, hfront]
    · unfold namedSteps
      rw [hfront, splitAt_append_cons, List.filterMap_append]
      exact (List.append_nil _).symm
    · intro c hc
      rw [hfront]
      exact List.mem_append_left _ hc

/-- The steps of a joined path are those of the directory and the entry. -/
theorem namedSteps_join (hp : p.text ≠ "") (hname : PlainName name) :
    (p.join name).namedSteps = p.namedSteps ++ [.entry name] := by
  obtain ⟨front, htext, hfront, -⟩ := exists_text_join hp name
  rw [namedSteps, htext, splitAt_append_cons, List.filterMap_append, hfront,
    splitAt_of_not_mem hname.slash, List.filterMap_cons_some hname.entry, List.filterMap_nil]

/-- A joined path has a text. -/
theorem text_join_ne (hp : p.text ≠ "") (name : String) : (p.join name).text ≠ "" := by
  obtain ⟨front, htext, -⟩ := exists_text_join hp name
  intro hnil
  rw [hnil] at htext
  simp at htext

/-- A joined path does not end with a slash. -/
theorem steps_join (hp : p.text ≠ "") (hname : PlainName name) :
    (p.join name).steps = p.namedSteps ++ [.entry name] := by
  obtain ⟨front, htext, -⟩ := exists_text_join hp name
  obtain ⟨init, c, hname', hc⟩ := hname.exists_last
  have hend : (p.join name).endsWithSlash = false := by
    have hrow : (p.join name).text.toList = (front ++ '/' :: init) ++ [c] := by
      rw [htext, hname', List.append_assoc, List.cons_append]
    rw [endsWithSlash, hrow, List.getLast?_concat]
    simpa using hc
  rw [← namedSteps_join hp hname, steps]
  simp [hend, namedSteps]

/-- A joined path holds no zero character if its parts hold none. -/
theorem zero_join (hp : p.text ≠ "") (hzero : '\x00' ∉ p.text.toList) (hname : PlainName name) :
    '\x00' ∉ (p.join name).text.toList := by
  obtain ⟨front, htext, -, hfront⟩ := exists_text_join hp name
  rw [htext]
  intro h
  rcases List.mem_append.1 h with h | h
  · exact hzero (hfront _ h)
  · rcases List.mem_cons.1 h with h | h
    · exact absurd h (by decide)
    · exact hname.zero h

/-- Joining makes a path longer by the name, and a slash if there is none. -/
theorem size_join (p : Path) (name : String) :
    p.text.utf8ByteSize + name.utf8ByteSize ≤ (p.join name).text.utf8ByteSize ∧
      (p.join name).text.utf8ByteSize ≤ p.text.utf8ByteSize + 1 + name.utf8ByteSize := by
  have hslash : "/".utf8ByteSize = 1 := by decide
  unfold join
  split <;> simp only [String.utf8ByteSize_append, hslash] <;> omega

/-- One more directory on the way makes a path longer, its name having more than one byte. -/
theorem size_below_through (p : Path) {directory : String} (name file : String)
    (h : 2 ≤ directory.utf8ByteSize) : (p.below [name, file]).text.utf8ByteSize ≤
      (p.below [directory, name, file]).text.utf8ByteSize := by
  have hname := (size_join p name).2
  have hfile := (size_join (p.join name) file).2
  have hdirectory := (size_join p directory).1
  have hname' := (size_join (p.join directory) name).1
  have hfile' := (size_join ((p.join directory).join name) file).1
  simp only [below, List.foldl_cons, List.foldl_nil]
  omega

/-- That names can be looked up below a path. -/
structure Takes (p : Path) (names : List String) : Prop where
  /-- There is a name. -/
  some : names ≠ []
  /-- Each is a single part of a path. -/
  plain : ∀ n ∈ names, PlainName n
  /-- The path of all of them is not too long. -/
  short : (p.below names).text.utf8ByteSize < pathLimit

/-- What a path holds the names below it hold. -/
theorem mem_text_below {c : Char} {names : List String} (hc : c ∈ p.text.toList) :
    c ∈ (p.below names).text.toList := by
  induction names generalizing p with
  | nil => exact hc
  | cons name rest ih =>
    refine ih (p := p.join name) ?_
    unfold join
    split <;> simp [String.toList_append, hc]

/-- Names below a path make it longer. -/
theorem size_le_below (p : Path) (names : List String) :
    p.text.utf8ByteSize ≤ (p.below names).text.utf8ByteSize := by
  induction names generalizing p with
  | nil => exact Nat.le_refl _
  | cons name rest ih =>
    have hname := (size_join p name).1
    exact Nat.le_trans (by omega) (ih _)

/-- The steps of names below a path are those of the path and the entries. -/
theorem steps_below {names : List String} (hp : p.text ≠ "") (hzero : '\x00' ∉ p.text.toList)
    (hsome : names ≠ []) (hnames : ∀ n ∈ names, PlainName n) :
    (p.below names).steps = p.namedSteps ++ names.map .entry ∧
      (p.below names).text ≠ "" ∧ '\x00' ∉ (p.below names).text.toList := by
  induction names generalizing p with
  | nil => exact absurd rfl hsome
  | cons name rest ih =>
    obtain ⟨hname, hrest⟩ := List.forall_mem_cons.1 hnames
    have hp' := text_join_ne hp name
    have hzero' := zero_join hp hzero hname
    have hbelow : p.below (name :: rest) = (p.join name).below rest := rfl
    rw [hbelow]
    cases rest with
    | nil => exact ⟨steps_join hp hname, hp', hzero'⟩
    | cons other rest =>
      obtain ⟨hsteps, hothers⟩ := ih hp' hzero' (List.cons_ne_nil _ _) hrest
      rw [hsteps, namedSteps_join hp hname, List.append_assoc]
      exact ⟨rfl, hothers⟩

end Path

end EnergyMeter.Files
