import EnergyMeter.Files.Tree

/-!
# Walking a tree step by step

A look-up takes one step after the other. A step fails, finds no entry of its name, or goes on
from another location; a link puts the steps of its target in front of those that are left. So
a walk along two rows of steps is a walk along the first and then one along the second, and what
is found in a tree is found in every tree that holds the same entries and more.
-/

namespace EnergyMeter.Files

/-- What one step of a walk comes to. -/
inductive Advance where
  /-- The walk ends with a fault. -/
  | fails (fault : Fault)
  /-- There is no entry of that name. -/
  | missing (location : Location)
  /-- The walk goes on: with so many links left to follow, from a location, and along more
  steps before those that are left. -/
  | goes (links : Nat) (location : Location) (more : List Step)

namespace Tree

/-- Takes a step; links are followed. -/
def advance (t : Tree) (links : Nat) (l : Location) (step : Step) : Advance :=
  match t.directory? l with
  | none => .fails .notDirectory
  | some mode =>
    if step = .directory then .goes links l []
    else if !mode.search then .fails .permissionDenied
    else
      match step with
      | .here | .directory => .goes links l []
      | .up => .goes links l.dropLast []
      | .entry name =>
        if nameLimit < name.utf8ByteSize then .fails .nameTooLong
        else
          match t.find? (l ++ [name]) with
          | none => .missing (l ++ [name])
          | some (.link target) =>
            match links with
            | 0 => .fails .linkLoop
            | n + 1 => .goes n (if target.isAbsolute then [] else l) target.steps
          | some _ => .goes links (l ++ [name]) []

section Steps

variable {t u : Tree} {links links' : Nat} {l l' : Location} {step : Step} {rest : List Step}

/-- A location that has the mode of a directory is one. -/
theorem find?_of_directory? {mode : Mode} (h : t.directory? l = some mode) :
    t.find? l = some (.directory mode) := by
  unfold directory? at h
  split at h
  · rename_i hfind
    cases h
    exact hfind
  · cases h

/-- A walk that has no step left is at its end. -/
theorem walk_nil : t.walk true links l [] = .ok (.present l) := by
  rw [walk]

/-- A walk takes its first step and goes on with the others. -/
theorem walk_cons : t.walk true links l (step :: rest) =
    match t.advance links l step with
    | .fails fault => .error fault
    | .missing l' => if rest.isEmpty then .ok (.absent l') else .error .notFound
    | .goes links' l' more => t.walk true links' l' (more ++ rest) := by
  rw [walk.eq_def]
  unfold advance
  cases t.directory? l with
  | none => rfl
  | some mode =>
    by_cases hstep : step = .directory
    · simp only [hstep, if_true, List.nil_append]
    · cases hsearch : mode.search with
      | false => simp [hstep, hsearch]
      | true =>
        cases step with
        | here => simp [hsearch]
        | up => simp [hsearch]
        | directory => exact absurd rfl hstep
        | entry name =>
          by_cases hname : nameLimit < name.utf8ByteSize
          · simp [hname, hsearch]
          · simp only [hname, hsearch, hstep, if_false, Bool.not_true, Bool.false_eq_true]
            split
            · simp_all
            · cases links <;> simp_all
            · simp_all

/-- A step that goes on follows a link or takes the walk one step nearer to its end. -/
theorem lt_of_advance {more : List Step} (h : t.advance links l step = .goes links' l' more) :
    links' < links ∨ links' = links ∧ more = [] := by
  unfold advance at h
  grind

/-- What holds at the end of a walk, and in front of every step that does not go on or behind
which it holds, holds along every walk. -/
theorem walk_induction (t : Tree) {motive : Nat → Location → List Step → Prop}
    (nil : ∀ links l, motive links l [])
    (cons : ∀ links l step rest, (∀ links' l' more,
      t.advance links l step = .goes links' l' more → motive links' l' (more ++ rest)) →
        motive links l (step :: rest)) : ∀ links l steps, motive links l steps := by
  intro links
  -- A link leaves one fewer to follow, and every other step leaves a shorter row.
  induction links using Nat.strongRecOn with
  | ind links ihlinks =>
    intro l steps
    induction steps generalizing l with
    | nil => exact nil links l
    | cons step rest ih =>
      refine cons links l step rest fun links' l' more h => ?_
      rcases lt_of_advance h with hlinks | ⟨rfl, rfl⟩
      · exact ihlinks links' hlinks l' (more ++ rest)
      · exact ih l'

/-- That steps lead from one location to another, every link on the way followed. -/
inductive Leads (t : Tree) : Nat → Location → List Step → Nat → Location → Prop
  /-- No steps lead nowhere else. -/
  | nil (links : Nat) (l : Location) : Leads t links l [] links l
  /-- A step that goes on, and the steps from there. -/
  | cons {links links' links'' : Nat} {l l' l'' : Location} {step : Step} {rest more : List Step}
      (h : t.advance links l step = .goes links' l' more)
      (hrest : Leads t links' l' (more ++ rest) links'' l'') :
      Leads t links l (step :: rest) links'' l''

/-- A walk that finds an entry leads to it. -/
theorem leads_of_walk {steps : List Step} (h : t.walk true links l steps = .ok (.present l')) :
    ∃ links', t.Leads links l steps links' l' := by
  induction links, l, steps using walk_induction t with
  | nil links l =>
    rw [walk_nil] at h
    cases h
    exact ⟨links, .nil links _⟩
  | cons links l step rest ih =>
    rw [walk_cons] at h
    split at h
    · cases h
    · split at h <;> cases h
    · rename_i hgoes
      obtain ⟨links', hleads⟩ := ih _ _ _ hgoes h
      exact ⟨links', .cons hgoes hleads⟩

/-- A walk along steps that lead somewhere goes on from there. -/
theorem Leads.walk_append {steps : List Step} (h : t.Leads links l steps links' l')
    (more : List Step) : t.walk true links l (steps ++ more) = t.walk true links' l' more := by
  induction h with
  | nil => rfl
  | cons h _ ih =>
    rw [List.cons_append, walk_cons, h]
    simp only [← List.append_assoc]
    exact ih

/-- Steps that lead somewhere are found to lead there. -/
theorem Leads.walk_eq {steps : List Step} (h : t.Leads links l steps links' l') :
    t.walk true links l steps = .ok (.present l') := by
  have hwalk := h.walk_append []
  rw [List.append_nil, walk_nil] at hwalk
  exact hwalk

/-- That a tree holds all entries of another. -/
def Within (t u : Tree) : Prop := ∀ l e, t.find? l = some e → u.find? l = some e

/-- A step that goes on in a tree goes on in every tree that holds its entries. -/
theorem Within.advance_eq (hw : t.Within u) {more : List Step}
    (h : t.advance links l step = .goes links' l' more) :
    u.advance links l step = .goes links' l' more := by
  unfold advance at h ⊢
  cases hmode : t.directory? l with
  | none => simp [hmode] at h
  | some mode =>
    have hmode' : u.directory? l = some mode := by
      rw [directory?, hw _ _ (find?_of_directory? hmode)]
    rw [hmode] at h
    rw [hmode']
    cases step with
    | here | up | directory => exact h
    | entry name =>
      cases hfind : t.find? (l ++ [name]) with
      | none =>
        simp only [hfind, reduceCtorEq, if_false] at h
        split at h
        · cases h
        · split at h <;> cases h
      | some e =>
        simp only [hfind] at h
        simp only [hw _ _ hfind]
        exact h

/-- Steps that lead somewhere lead there in every tree that holds the same entries and more. -/
theorem Leads.mono (hw : t.Within u) {steps : List Step} (h : t.Leads links l steps links' l') :
    u.Leads links l steps links' l' := by
  induction h with
  | nil => exact .nil _ _
  | cons h _ ih => exact .cons (hw.advance_eq h) ih

/-- Looking a path up is to walk along its steps from the root, unless its text alone forbids
it. -/
theorem locate_cases (p : Path) :
    (∀ t : Tree, t.locate true p = t.walk true linkLimit [] p.steps) ∨
      ∃ fault, fault ∈ [.zeroInPath, .notFound, .nameTooLong] ∧
        ∀ t : Tree, t.locate true p = .error fault := by
  unfold locate
  split
  · exact Or.inr ⟨_, by simp, fun _ => rfl⟩
  · split
    · exact Or.inr ⟨_, by simp, fun _ => rfl⟩
    · split
      · exact Or.inr ⟨_, by simp, fun _ => rfl⟩
      · exact Or.inl fun _ => rfl

/-- What is found at the end of a path is found there in every tree that holds the same entries
and more. -/
theorem locate_mono {p : Path} (hw : t.Within u) (h : t.locate true p = .ok (.present l)) :
    u.locate true p = .ok (.present l) := by
  rcases locate_cases p with hwalk | ⟨fault, -, hfault⟩
  · rw [hwalk] at h ⊢
    obtain ⟨links', hleads⟩ := leads_of_walk h
    exact (hleads.mono hw).walk_eq
  · cases (hfault t).symm.trans h

end Steps

end Tree

end EnergyMeter.Files
