import EnergyMeter.Proofs.JoinedPaths
import EnergyMeter.Proofs.TreeWalks

/-!
# Looking up names below a directory

Where a path leads to a directory, names behind it are looked up from there, and without links on
the way this is settled by the entries that stand below the directory. So two directories with
the same entries below them answer alike, wherever they stand. Where a path leads nowhere, names
behind it lead nowhere for the same reason.
-/

namespace EnergyMeter.Files.Tree

/-- That no link is on the way along names from a location. -/
def Linkless (t : Tree) (l : Location) (names : List String) : Prop :=
  ∀ first, first <+: names → first ≠ [] → ∀ target, t.find? (l ++ first) ≠ some (.link target)

/-- What names lead to from a location, told from the entries below it, no link being among
them. -/
def lookUp (find : Location → Option Entry) : List String → Except Fault Entry
  | [] =>
    match find [] with
    | some e => .ok e
    | none => .error .notFound
  | name :: rest =>
    match find [] with
    | some (.directory mode) =>
      if !mode.search then .error .permissionDenied
      else if nameLimit < name.utf8ByteSize then .error .nameTooLong
      else
        match find [name] with
        | some _ => lookUp (fun l => find (name :: l)) rest
        | none => .error .notFound
    | _ => .error .notDirectory

section LookUp

variable {find find' : Location → Option Entry} {name directory : String} {rest names : List String}

/-- Names are looked up alike where the same entries stand on the way. -/
theorem lookUp_congr (h : ∀ first, first <+: names → find' first = find first) :
    lookUp find' names = lookUp find names := by
  induction names generalizing find find' with
  | nil => rw [lookUp, lookUp, h [] List.nil_prefix]
  | cons name rest ih =>
    have hbelow : lookUp (fun l => find' (name :: l)) rest =
        lookUp (fun l => find (name :: l)) rest :=
      ih fun first hfirst => h (name :: first) (List.cons_prefix_cons.2 ⟨rfl, hfirst⟩)
    rw [lookUp, lookUp, hbelow, h [] List.nil_prefix,
      h [name] (List.cons_prefix_cons.2 ⟨rfl, List.nil_prefix⟩)]

/-- Names are looked up in a directory that can be searched. -/
theorem searchable_of_lookUp {e : Entry} (h : lookUp find (name :: rest) = .ok e) :
    ∃ mode, find [] = some (.directory mode) ∧ mode.search = true := by
  rw [lookUp] at h
  split at h
  · rename_i mode hfind
    refine ⟨mode, hfind, ?_⟩
    split at h
    · cases h
    · rename_i hsearch
      simpa using hsearch
  · cases h

/-- One more directory on the way changes nothing if it can be searched. -/
theorem lookUp_through {mode : Mode} (hplace : find' [] = find [])
    (hsize : directory.utf8ByteSize ≤ nameLimit)
    (hfound : find' [directory] = some (.directory mode)) (hsearch : mode.search = true)
    (h : ∀ first, first <+: rest → find' (directory :: name :: first) = find (name :: first)) :
    lookUp find' (directory :: name :: rest) = lookUp find (name :: rest) := by
  have hbelow : lookUp (fun l => find' (directory :: name :: l)) rest =
      lookUp (fun l => find (name :: l)) rest := lookUp_congr h
  have hname := h [] List.nil_prefix
  rw [lookUp, lookUp, lookUp, hplace]
  simp only [hfound, hsearch, hbelow, hname, if_neg (Nat.not_lt.2 hsize), Bool.not_true,
    Bool.false_eq_true, if_false]

end LookUp

/-- The entry that a walk ends at. -/
def reveal (t : Tree) (target : Except Fault Target) : Except Fault (Location × Entry) :=
  match target with
  | .error fault => .error fault
  | .ok (.absent _) => .error .notFound
  | .ok (.present l) =>
    match t.find? l with
    | some e => .ok (l, e)
    | none => .error .notFound

/-- The fault of a look-up that leads to no entry; what is not there is not found. -/
def faultOf : Except Fault Target → Option Fault
  | .error fault => some fault
  | .ok (.absent _) => some .notFound
  | .ok (.present _) => none

section Names

variable {t u : Tree} {root : Path} {place l : Location} {links : Nat} {names : List String}
  {p q : Path}

/-- Steps in front of a last one that asks for a directory lead to that directory. -/
theorem Leads.of_directory {links' : Nat} {l' : Location} {steps : List Step}
    (h : t.Leads links l (steps ++ [.directory]) links' l') : t.Leads links l steps links' l' := by
  generalize hsteps : steps ++ [.directory] = all at h
  induction h generalizing steps with
  | nil => simp at hsteps
  | @cons links₁ links₂ links₃ l₁ l₂ l₃ step rest more h hrest ih =>
    cases steps with
    | nil =>
      obtain ⟨rfl, rfl⟩ := List.cons.inj hsteps
      unfold advance at h
      split at h
      · cases h
      · rw [if_pos rfl] at h
        cases h
        exact hrest
    | cons first others =>
      obtain ⟨rfl, rfl⟩ := List.cons.inj hsteps
      exact .cons h (ih (List.append_assoc _ _ _))

/-- A path that is found has a text without zero characters, and its steps lead there. -/
theorem leads_of_locate (h : t.locate true p = .ok (.present l)) : p.text ≠ "" ∧
    '\x00' ∉ p.text.toList ∧ ∃ links, t.Leads linkLimit [] p.namedSteps links l := by
  unfold locate at h
  split at h
  · cases h
  · rename_i hzero
    split at h
    · cases h
    · rename_i hempty
      split at h
      · cases h
      · obtain ⟨links, hleads⟩ := leads_of_walk h
        refine ⟨hempty, by simpa using hzero, links, ?_⟩
        rcases p.steps_cases with hsteps | hsteps
        · exact hsteps ▸ hleads
        · exact (hsteps ▸ hleads).of_directory

/-- Names below a path that is found are looked up from there. -/
theorem locate_below (h : t.locate true root = .ok (.present place)) (hnames : root.Takes names) :
    ∃ links, t.locate true (root.below names) = t.walk true links place (names.map .entry) := by
  obtain ⟨htext, hzero, links, hleads⟩ := leads_of_locate h
  obtain ⟨hsteps, htext', hzero'⟩ := Path.steps_below htext hzero hnames.some hnames.plain
  refine ⟨links, ?_⟩
  rw [locate, if_neg (by simpa using hzero'), if_neg htext', if_neg (Nat.not_le.2 hnames.short),
    hsteps, hleads.walk_append]

/-- Without links on the way, names lead from a location where the entries below it say. -/
theorem reveal_walk (hlinks : t.Linkless l names) :
    t.reveal (t.walk true links l (names.map .entry)) =
      (lookUp (fun rest => t.find? (l ++ rest)) names).map fun e => (l ++ names, e) := by
  -- With every name both sides go one location down.
  induction names generalizing l with
  | nil =>
    rw [List.map_nil, walk_nil, List.append_nil, reveal, lookUp, List.append_nil]
    cases t.find? l <;> rfl
  | cons name rest ih =>
    rw [List.map_cons, walk_cons, lookUp, List.append_nil]
    unfold advance directory?
    cases t.find? l with
    | none => rfl
    | some e =>
      cases e with
      | file mode content => rfl
      | link target => rfl
      | directory mode =>
        simp only [reduceCtorEq, if_false]
        cases mode.search with
        | false => rfl
        | true =>
          simp only [Bool.not_true, Bool.false_eq_true, if_false]
          by_cases hname : nameLimit < name.utf8ByteSize
          · simp only [if_pos hname]
            rfl
          · simp only [if_neg hname]
            cases hfind : t.find? (l ++ [name]) with
            | none => cases rest <;> rfl
            | some e =>
              have hbelow := ih (l := l ++ [name]) fun first hfirst _ target => by
                rw [List.append_assoc]
                exact hlinks (name :: first) (List.cons_prefix_cons.2 ⟨rfl, hfirst⟩)
                  (List.cons_ne_nil _ _) target
              simp only [List.append_assoc, List.singleton_append] at hbelow
              cases e with
              | link target => exact absurd hfind (hlinks [name]
                (List.cons_prefix_cons.2 ⟨rfl, List.nil_prefix⟩) (List.cons_ne_nil _ _) target)
              | file mode content => exact hbelow
              | directory mode => exact hbelow

/-- Without links on the way, names below a path lead where the entries say that stand below the
directory of the path. -/
theorem open?_below (h : t.locate true root = .ok (.present place)) (hnames : root.Takes names)
    (hlinks : t.Linkless place names) : t.open? (root.below names) =
      (lookUp (fun rest => t.find? (place ++ rest)) names).map fun e => (place ++ names, e) := by
  obtain ⟨links, hlocate⟩ := locate_below h hnames
  have hreveal : t.open? (root.below names) = t.reveal (t.locate true (root.below names)) := rfl
  rw [hreveal, hlocate, reveal_walk hlinks]

/-- Where steps lead nowhere, a name behind them leads nowhere for the same reason, without a
slash at the end of the steps too. -/
theorem walk_behind_fault {steps tail : List Step} {fault : Fault} {name : String}
    (htail : tail = [] ∨ tail = [.directory])
    (h : faultOf (t.walk true links l (steps ++ tail)) = some fault) (more : List Step) :
    t.walk true links l (steps ++ .entry name :: more) = .error fault := by
  -- Both walks end at the same step. Only where no step is left a slash at the end decides, and the
  -- name asks for a directory just as it does.
  induction links, l, steps using walk_induction t with
  | nil links l =>
    rcases htail with rfl | rfl
    · rw [List.append_nil, walk_nil] at h
      cases h
    · rw [List.nil_append, walk_cons, advance] at h
      rw [List.nil_append, walk_cons, advance]
      cases hmode : t.directory? l with
      | none =>
        rw [hmode] at h
        cases h
        rfl
      | some mode =>
        simp only [hmode, if_true, List.append_nil, walk_nil] at h
        cases h
  | cons links l step rest ih =>
    rw [List.cons_append, walk_cons] at h ⊢
    cases hstep : t.advance links l step with
    | fails fault' =>
      rw [hstep] at h
      cases h
      rfl
    | missing l' =>
      have hfault : fault = .notFound := by
        rw [hstep] at h
        simp only at h
        split at h <;> cases h <;> rfl
      rw [hfault]
      simp
    | goes links' l' after =>
      simp only [hstep, ← List.append_assoc] at h ⊢
      exact ih links' l' after hstep h

/-- Where a path leads nowhere, names below it lead nowhere for the same reason. -/
theorem open?_below_fault {fault : Fault} (htext : root.text ≠ "")
    (h : faultOf (t.locate true root) = some fault) (hnames : root.Takes names) :
    t.open? (root.below names) = .error fault := by
  have hlocate : t.locate true (root.below names) = .error fault := by
    unfold locate at h
    split at h
    · rename_i hzero
      cases h
      have hbelow : '\x00' ∈ (root.below names).text.toList :=
        Path.mem_text_below (List.contains_iff_mem.1 hzero)
      rw [locate, if_pos (List.contains_iff_mem.2 hbelow)]
    · rename_i hzero
      have hsize := Nat.lt_of_le_of_lt (Path.size_le_below root names) hnames.short
      rw [if_neg (Nat.not_le.2 hsize)] at h
      obtain ⟨hsteps, htext', hzero'⟩ :=
        Path.steps_below htext (fun hm => hzero (List.contains_iff_mem.2 hm))
          hnames.some hnames.plain
      rw [locate, if_neg (fun hm => hzero' (List.contains_iff_mem.1 hm)), if_neg htext',
        if_neg (Nat.not_le.2 hnames.short), hsteps]
      obtain ⟨name, rest, rfl⟩ := List.exists_cons_of_ne_nil hnames.some
      rcases root.steps_cases with hroot | hroot
      · refine walk_behind_fault (Or.inl rfl) ?_ _
        rw [List.append_nil, ← hroot]
        exact h
      · refine walk_behind_fault (Or.inr rfl) ?_ _
        rw [← hroot]
        exact h
  have hreveal : t.open? (root.below names) = t.reveal (t.locate true (root.below names)) := rfl
  rw [hreveal, hlocate, reveal]

/-- A path that is too long leads nowhere. -/
theorem open?_of_long (h : pathLimit ≤ p.text.utf8ByteSize) :
    ∃ fault, ∀ t : Tree, t.open? p = .error fault := by
  obtain ⟨fault, hlocate⟩ : ∃ fault, ∀ t : Tree, t.locate true p = .error fault := by
    unfold locate
    simp only [if_pos h]
    split
    · exact ⟨_, fun _ => rfl⟩
    · split <;> exact ⟨_, fun _ => rfl⟩
  refine ⟨fault, fun t => ?_⟩
  have hreveal : t.open? p = t.reveal (t.locate true p) := rfl
  rw [hreveal, hlocate, reveal]

/-- What is read is told from the entry that a path leads to. -/
theorem read_congr (h : (t.open? p).map (·.2) = (u.open? q).map (·.2)) : t.read p = u.read q := by
  unfold read
  cases ht : t.open? p with
  | error fault =>
    cases hu : u.open? q with
    | error fault' =>
      rw [ht, hu] at h
      exact congrArg _ (Except.error.inj h)
    | ok y => simp [ht, hu, Except.map] at h
  | ok x =>
    cases hu : u.open? q with
    | error fault' => simp [ht, hu, Except.map] at h
    | ok y =>
      obtain ⟨l, e⟩ := x
      obtain ⟨l', e'⟩ := y
      simp only [ht, hu, Except.map, Except.ok.injEq] at h
      subst h
      cases e <;> rfl

/-- Names below a path that is looked up alike in two trees are read alike if they are looked up
alike from there on. -/
theorem read_below_alike {names' : List String} (htext : root.text ≠ "")
    (hlocate : u.locate true root = t.locate true root)
    (hleads : ∀ l, t.locate true root = .ok (.present l) → l = place)
    (hnames : root.Takes names) (hnames' : root.Takes names')
    (hbelow : t.locate true root = .ok (.present place) →
      t.Linkless place names ∧ u.Linkless place names' ∧
        lookUp (fun rest => u.find? (place ++ rest)) names' =
          lookUp (fun rest => t.find? (place ++ rest)) names) :
    u.read (root.below names') = t.read (root.below names) := by
  refine read_congr ?_
  cases hfault : faultOf (t.locate true root) with
  | some fault =>
    rw [open?_below_fault htext hfault hnames,
      open?_below_fault htext ((congrArg faultOf hlocate).trans hfault) hnames']
  | none =>
    have hfound : t.locate true root = .ok (.present place) := by
      cases hroot : t.locate true root with
      | error fault => simp [hroot, faultOf] at hfault
      | ok target =>
        cases target with
        | absent l => simp [hroot, faultOf] at hfault
        | present l => rw [hleads l hroot]
    obtain ⟨hlinks, hlinks', hsame⟩ := hbelow hfound
    rw [open?_below hfound hnames hlinks, open?_below (hlocate.trans hfound) hnames' hlinks', hsame]
    cases lookUp (fun rest => t.find? (place ++ rest)) names <;> rfl

/-- The file that names below a path lead to is read if it may be. -/
theorem read_below {mode : Mode} {content : ByteArray}
    (h : t.locate true root = .ok (.present place)) (hnames : root.Takes names)
    (hlinks : t.Linkless place names)
    (hfile : lookUp (fun rest => t.find? (place ++ rest)) names = .ok (.file mode content))
    (hread : mode.read = true) : t.read (root.below names) = .ok content := by
  rw [read, open?_below h hnames hlinks, hfile]
  simp only [Except.map, hread, if_true]

/-- A directory that is found is listed if it can be read. -/
theorem list_of_locate (h : t.locate true p = .ok (.present l)) : t.list p =
    match t.find? l with
    | some (.directory mode) => if mode.read then .ok (t.names l) else .error .permissionDenied
    | some _ => .error .notDirectory
    | none => .error .notFound := by
  unfold list open?
  simp only [h]
  cases t.find? l with
  | none => rfl
  | some e => cases e <;> rfl

/-- A path that is looked up alike in two trees is listed in both or fails alike. -/
theorem list_alike (hlocate : u.locate true p = t.locate true p)
    (hleads : ∀ l, t.locate true p = .ok (.present l) → l = place)
    (hfind : u.find? place = t.find? place) :
    (∃ fault, t.list p = .error fault ∧ u.list p = .error fault) ∨
      t.locate true p = .ok (.present place) ∧ t.list p = .ok (t.names place) ∧
        u.list p = .ok (u.names place) := by
  cases hp : t.locate true p with
  | error fault =>
    refine Or.inl ⟨fault, ?_, ?_⟩
    · rw [list, open?, hp]
    · rw [list, open?, hlocate, hp]
  | ok target =>
    cases target with
    | absent l =>
      refine Or.inl ⟨.notFound, ?_, ?_⟩
      · rw [list, open?, hp]
      · rw [list, open?, hlocate, hp]
    | present l =>
      obtain rfl := hleads l hp
      rw [list_of_locate hp, list_of_locate (hlocate.trans hp), hfind]
      split
      · split
        · exact Or.inr ⟨rfl, rfl, rfl⟩
        · exact Or.inl ⟨_, rfl, rfl⟩
      · exact Or.inl ⟨_, rfl, rfl⟩
      · exact Or.inl ⟨_, rfl, rfl⟩

/-- What is listed below a directory are the names in the directory of that name, unless it is a
link. -/
theorem list_join {name : String} (h : t.locate true root = .ok (.present place))
    (hname : PlainName name) (hlink : ∀ target, t.find? (place ++ [name]) ≠ some (.link target))
    {inner : List String} (hlist : t.list (root.join name) = .ok inner) :
    inner = t.names (place ++ [name]) := by
  by_cases hshort : (root.join name).text.utf8ByteSize < pathLimit
  · have hnames : root.Takes [name] :=
      ⟨List.cons_ne_nil _ _, by simpa using hname, hshort⟩
    have hlinks : t.Linkless place [name] := by
      intro first hfirst hne target
      obtain ⟨other, rest, rfl⟩ := List.exists_cons_of_ne_nil hne
      obtain ⟨rfl, hrest⟩ := List.cons_prefix_cons.1 hfirst
      rw [List.prefix_nil.1 hrest]
      exact hlink target
    have hopen := open?_below h hnames hlinks
    rw [Path.below, List.foldl_cons, List.foldl_nil] at hopen
    rw [list, hopen] at hlist
    cases hlook : lookUp (fun rest => t.find? (place ++ rest)) [name] with
    | error fault =>
      rw [hlook] at hlist
      cases hlist
    | ok e =>
      rw [hlook] at hlist
      cases e with
      | file | link => cases hlist
      | directory mode =>
        simp only [Except.map] at hlist
        split at hlist
        · cases hlist
          rfl
        · cases hlist
  · obtain ⟨fault, hlong⟩ := open?_of_long (Nat.not_lt.1 hshort)
    rw [list, hlong] at hlist
    cases hlist

/-- The directory of a name is listed if it can be read and the one it stands in searched. -/
theorem list_join_of_directory {name : String} {outer mode : Mode}
    (h : t.locate true root = .ok (.present place)) (hname : PlainName name)
    (hshort : (root.join name).text.utf8ByteSize < pathLimit)
    (hsize : name.utf8ByteSize ≤ nameLimit) (hplace : t.find? place = some (.directory outer))
    (hsearch : outer.search = true) (hfind : t.find? (place ++ [name]) = some (.directory mode))
    (hread : mode.read = true) : t.list (root.join name) = .ok (t.names (place ++ [name])) := by
  have hnames : root.Takes [name] :=
    ⟨List.cons_ne_nil _ _, by simpa using hname, hshort⟩
  obtain ⟨links, hlocate⟩ := locate_below h hnames
  rw [Path.below, List.foldl_cons, List.foldl_nil, List.map_cons, List.map_nil,
    walk_cons] at hlocate
  have hstep : t.advance links place (.entry name) = .goes links (place ++ [name]) [] := by
    simp [advance, directory?, hplace, hsearch, hfind, Nat.not_lt.2 hsize]
  simp only [hstep, List.nil_append, walk_nil] at hlocate
  rw [list_of_locate hlocate, hfind]
  simp only [hread, if_true]

end Names

end EnergyMeter.Files.Tree
