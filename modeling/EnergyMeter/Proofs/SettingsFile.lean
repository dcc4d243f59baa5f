import EnergyMeter.Proofs.TreeWalks
import EnergyMeter.Settings

/-!
# When the standard settings are used

Settings are read from their file if the file system says that something is there. It says so
only of what it can look up: a directory on the way that denies search hides the file as well
as a missing one would. So the standard settings are used, and no file is read, if nothing is
at the path or if a directory on the way denies search; in every other case the settings come
from the file or there is an error.
-/

namespace EnergyMeter

open Files Log

namespace Files

/-- An entry with a directory's search permission granted. -/
def Entry.unlocked : Entry → Entry
  | .directory mode => .directory { mode with search := true }
  | e => e

namespace Tree

/-- The tree with search permission granted in every directory. -/
def unlocked (t : Tree) : Tree := ⟨t.entries.map fun x => (x.1, x.2.unlocked)⟩

/-- That a directory on the way along some steps denies search. -/
inductive Barred (t : Tree) : Nat → Location → List Step → Prop
  /-- The directory at the beginning of the way denies it. -/
  | here {links : Nat} {l : Location} {step : Step} {rest : List Step} {mode : Mode}
      (hmode : t.directory? l = some mode) (hsearch : mode.search = false)
      (hstep : step ≠ .directory) : Barred t links l (step :: rest)
  /-- A later one does. -/
  | later {links links' : Nat} {l l' : Location} {step : Step} {rest more : List Step}
      (h : t.advance links l step = .goes links' l' more)
      (hrest : Barred t links' l' (more ++ rest)) : Barred t links l (step :: rest)

/-- That a directory on the way to a path denies search. -/
def Bars (t : Tree) (p : Path) : Prop := t.Barred linkLimit [] p.steps

/-- What a path leads to if no directory denies search. -/
def standing (t : Tree) (p : Path) : Except Fault Entry := (t.unlocked.open? p).map (·.2)

section Walks

variable {t : Tree} {links links' : Nat} {l : Location} {step : Step} {steps : List Step} {p : Path}

/-- The unlocked tree holds the same entries, unlocked. -/
theorem find?_unlocked (t : Tree) (l : Location) :
    t.unlocked.find? l = (t.find? l).map Entry.unlocked := by
  have hlookup : ∀ entries : List (Location × Entry),
      (entries.map fun x => (x.1, x.2.unlocked)).lookup l =
        (entries.lookup l).map Entry.unlocked := by
    intro entries
    induction entries with
    | nil => rfl
    | cons x rest ih =>
      rw [List.map_cons, List.lookup_cons, List.lookup_cons, ih]
      cases l == x.1 <;> rfl
  unfold find?
  split
  · rfl
  · exact hlookup t.entries

/-- The unlocked tree has the same directories, with search permission. -/
theorem directory?_unlocked (t : Tree) (l : Location) :
    t.unlocked.directory? l = (t.directory? l).map fun mode => { mode with search := true } := by
  unfold directory?
  rw [find?_unlocked]
  cases t.find? l with
  | none => rfl
  | some e => cases e <;> rfl

/-- A directory that denies search ends the walk. -/
theorem advance_of_barred {mode : Mode} (hmode : t.directory? l = some mode)
    (hsearch : mode.search = false) (hstep : step ≠ .directory) :
    t.advance links l step = .fails .permissionDenied := by
  unfold advance
  simp [hmode, hsearch, hstep]

/-- Any other step comes to what it comes to without the modes. -/
theorem advance_unlocked (links : Nat)
    (h : ∀ mode, t.directory? l = some mode → step ≠ .directory → mode.search = true) :
    t.unlocked.advance links l step = t.advance links l step ∧
      t.advance links l step ≠ .fails .permissionDenied := by
  unfold advance
  rw [directory?_unlocked]
  cases hmode : t.directory? l with
  | none => simp
  | some mode =>
    by_cases hstep : step = .directory
    · simp [hstep]
    · have hsearch := h mode hmode hstep
      cases step with
      | here => simp [hsearch]
      | up => simp [hsearch]
      | directory => exact absurd rfl hstep
      | entry name =>
        simp only [find?_unlocked, Option.map_some, hsearch]
        cases t.find? (l ++ [name]) with
        | none => simp; split <;> simp
        | some e => cases e <;> cases links <;> simp [Entry.unlocked] <;> split <;> simp

/-- A walk is denied exactly if a directory on the way denies search. Any other walk comes to
what it comes to without the modes. -/
theorem walk_unlocked (t : Tree) (links : Nat) (l : Location) (steps : List Step) :
    (t.walk true links l steps = .error .permissionDenied ↔ t.Barred links l steps) ∧
      (¬ t.Barred links l steps →
        t.unlocked.walk true links l steps = t.walk true links l steps) := by
  induction links, l, steps using walk_induction t with
  | nil links l =>
    have hopen : ¬ t.Barred links l [] := fun h => by cases h
    simp [walk_nil, hopen]
  | cons links l step rest ih =>
    -- A step that is barred ends the walk here; any other is the same step in both trees.
    by_cases hbar : ∃ mode, t.directory? l = some mode ∧ mode.search = false ∧ step ≠ .directory
    · obtain ⟨mode, hmode, hsearch, hstep⟩ := hbar
      have hbarred : t.Barred links l (step :: rest) := .here hmode hsearch hstep
      simp [walk_cons, advance_of_barred hmode hsearch hstep, hbarred]
    · have hopen : ∀ mode, t.directory? l = some mode → step ≠ .directory →
          mode.search = true := by
        intro mode hmode hstep
        cases hsearch : mode.search with
        | true => rfl
        | false => exact absurd ⟨mode, hmode, hsearch, hstep⟩ hbar
      obtain ⟨hsame, hnot⟩ := advance_unlocked links hopen
      have hbarred : t.Barred links l (step :: rest) ↔ ∃ links' l' more,
          t.advance links l step = .goes links' l' more ∧
            t.Barred links' l' (more ++ rest) := by
        constructor
        · intro h
          cases h with
          | here hmode hsearch hstep => exact absurd ⟨_, hmode, hsearch, hstep⟩ hbar
          | later h hrest => exact ⟨_, _, _, h, hrest⟩
        · intro h
          obtain ⟨links', l', more, hgoes, hrest⟩ := h
          exact .later hgoes hrest
      rw [walk_cons, walk_cons, hsame, hbarred]
      cases hadvance : t.advance links l step with
      | fails fault =>
        rw [hadvance] at hnot
        have hfault : fault ≠ .permissionDenied := fun h => hnot (h ▸ rfl)
        simp [hfault]
      | missing l' => cases rest <;> simp
      | goes links' l' more =>
        obtain ⟨hdenied, hrest⟩ := ih links' l' more hadvance
        constructor
        · refine hdenied.trans ⟨fun h => ⟨links', l', more, rfl, h⟩, fun h => ?_⟩
          obtain ⟨_, _, _, hgoes, h⟩ := h
          cases hgoes
          exact h
        · exact fun h => hrest fun hb => h ⟨links', l', more, rfl, hb⟩

/-- No step of the unlocked tree is denied. -/
theorem not_barred_unlocked (t : Tree) (links : Nat) (l : Location) (steps : List Step) :
    ¬ t.unlocked.Barred links l steps := by
  intro h
  induction h with
  | here hmode hsearch _ =>
    rw [directory?_unlocked, Option.map_eq_some_iff] at hmode
    obtain ⟨mode, -, rfl⟩ := hmode
    cases hsearch
  | later _ _ ih => exact ih

/-- A step fails with one of a few faults. -/
theorem fault_of_advance {fault : Fault} (h : t.advance links l step = .fails fault) :
    fault ∈ [.notFound, .notDirectory, .nameTooLong, .linkLoop, .permissionDenied] := by
  unfold advance at h
  grind

/-- A walk fails with one of a few faults. -/
theorem fault_of_walk {fault : Fault} (h : t.walk true links l steps = .error fault) :
    fault ∈ [.notFound, .notDirectory, .nameTooLong, .linkLoop, .permissionDenied] := by
  induction links, l, steps using walk_induction t with
  | nil links l =>
    rw [walk_nil] at h
    cases h
  | cons links l step rest ih =>
    rw [walk_cons] at h
    split at h
    · rename_i hfails
      cases h
      exact fault_of_advance hfails
    · split at h <;> cases h
      simp
    · rename_i hgoes
      exact ih _ _ _ hgoes h

/-- Without a directory that denies search a path leads to the same place in the unlocked
tree. -/
theorem open?_unlocked (h : ¬ t.Bars p) :
    t.unlocked.open? p = (t.open? p).map fun x => (x.1, x.2.unlocked) := by
  have hlocate : t.unlocked.locate true p = t.locate true p := by
    unfold locate
    rw [(t.walk_unlocked linkLimit [] p.steps).2 h]
  unfold open?
  rw [hlocate]
  cases t.locate true p with
  | error fault => rfl
  | ok target =>
    cases target with
    | absent l => rfl
    | present l =>
      simp only [find?_unlocked]
      cases t.find? l <;> rfl

/-- A path whose walk fails leads to nothing. -/
theorem open?_of_walk {fault : Fault} (h : t.walk true linkLimit [] p.steps = .error fault) :
    ∃ fault', t.open? p = .error fault' := by
  unfold open?
  rcases locate_cases p with hlocate | ⟨fault', -, hlocate⟩
  · rw [hlocate t, h]
    exact ⟨fault, rfl⟩
  · rw [hlocate t]
    exact ⟨fault', rfl⟩

/-- Looking up what stands at a path fails with one of a few faults. -/
theorem fault_of_standing {fault : Fault} (h : t.standing p = .error fault) :
    fault ∈ [.notFound, .notDirectory, .nameTooLong, .linkLoop, .zeroInPath] := by
  have hopen : t.unlocked.open? p = .error fault := by
    unfold standing at h
    cases hopen : t.unlocked.open? p with
    | ok x => simp [hopen, Except.map] at h
    | error fault' => simpa [hopen, Except.map] using h
  unfold open? at hopen
  split at hopen
  · rename_i hlocate
    cases hopen
    rcases locate_cases p with hwalk | ⟨fault', hfault, hfailed⟩
    · rw [hwalk] at hlocate
      have hfault := fault_of_walk hlocate
      have hdenied : fault ≠ .permissionDenied := by
        intro hsame
        rw [hsame] at hlocate
        exact not_barred_unlocked t _ _ _ ((walk_unlocked _ _ _ _).1.1 hlocate)
      grind
    · cases hlocate.symm.trans (hfailed _)
      grind
  · cases hopen
    simp
  · split at hopen <;> cases hopen
    simp

end Walks

end Tree

end Files

/-- The path of the file with settings, told from the environment. -/
inductive SettingsPath (env : Environment) : Except Error Path → Prop
  /-- The directory that the environment names counts if its path is absolute. -/
  | named {s : String} (h : env.configHome = some s) (habsolute : Path.isAbsolute ⟨s⟩ = true) :
      SettingsPath env (.ok ((Path.join ⟨s⟩ "joulemeter").join "config.toml"))
  /-- Else the home directory that is named holds one of a fixed name. -/
  | home {s : String} (hnamed : ∀ s, env.configHome = some s → Path.isAbsolute ⟨s⟩ = false)
      (h : env.home.named = some s) (hs : s ≠ "") :
      SettingsPath env (.ok (((Path.join ⟨s⟩ ".config").join "joulemeter").join "config.toml"))
  /-- If none is named, the home directory of the account holds it. -/
  | account {s : String} (hnamed : ∀ s, env.configHome = some s → Path.isAbsolute ⟨s⟩ = false)
      (hhome : env.home.named = none ∨ env.home.named = some "")
      (h : env.home.account = some s) (hs : s ≠ "") :
      SettingsPath env (.ok (((Path.join ⟨s⟩ ".config").join "joulemeter").join "config.toml"))
  /-- Without any of them there is no path. -/
  | unknown (hnamed : ∀ s, env.configHome = some s → Path.isAbsolute ⟨s⟩ = false)
      (hhome : env.home.named = none ∨ env.home.named = some "")
      (haccount : env.home.account = none ∨ env.home.account = some "") :
      SettingsPath env (.error (.config "Could not determine config directory"))

/-- The settings that the bytes of a file give; a file that may not be read gives none. -/
def settingsOf (mode : Mode) (content : ByteArray) : Except Error Settings :=
  if mode.read then
    match String.fromUTF8? content with
    | some text => Settings.ofToml text
    | none => .error (.io .notText)
  else .error (.io .permissionDenied)

/-- How settings are loaded from a path. -/
structure LoadsFrom (t : Tree) (env : Environment) (p : Path) : Prop where
  /-- The standard settings are used, without a file, exactly if nothing stands at the path or
  a directory on the way denies search. -/
  standard : Settings.load t.view env = ⟨.ok .standard, [.settingsMissing p]⟩ ↔
    (∃ fault, t.standing p = .error fault) ∨ t.Bars p
  /-- No file is read then and no directory listed. -/
  unread : (∃ fault, t.standing p = .error fault) ∨ t.Bars p → ∀ read list,
    Settings.load ⟨read, list, t.leadsTo⟩ env = ⟨.ok .standard, [.settingsMissing p]⟩
  /-- Nothing stands at the path if a name is missing or no directory on the way, if links lead
  nowhere, or if the text is no path of the system. -/
  nothing : ∀ fault, t.standing p = .error fault →
    fault ∈ [.notFound, .notDirectory, .nameTooLong, .linkLoop, .zeroInPath]
  /-- From a file that can be looked up the settings are those of its text, or there is an
  error. -/
  file : ∀ mode content, t.standing p = .ok (.file mode content) → ¬ t.Bars p →
    Settings.load t.view env = ⟨settingsOf mode content, []⟩
  /-- Anything else that can be looked up is an error. -/
  other : ∀ e, t.standing p = .ok e → (∀ mode content, e ≠ .file mode content) → ¬ t.Bars p →
    ∃ fault, Settings.load t.view env = ⟨.error (.io fault), []⟩

section Loading

variable {t : Tree} {env : Environment} {p : Path}

/-- An empty text stands for no directory. -/
theorem filter_ne_empty (o : Option String) :
    (o.filter (· ≠ "") = none ∧ (o = none ∨ o = some "")) ∨
      ∃ s, o.filter (· ≠ "") = some s ∧ o = some s ∧ s ≠ "" := by
  cases o with
  | none => exact Or.inl ⟨rfl, Or.inl rfl⟩
  | some s =>
    by_cases hs : s = ""
    · exact Or.inl ⟨by simp [Option.filter, hs], Or.inr (congrArg some hs)⟩
    · exact Or.inr ⟨s, by simp [Option.filter, hs], rfl, hs⟩

/-- The path of the file is told from the environment. -/
theorem settingsPath (env : Environment) : SettingsPath env (Settings.file env) := by
  obtain ⟨home, configHome⟩ := env
  have hhome : (∀ s, configHome = some s → Path.isAbsolute ⟨s⟩ = false) →
      SettingsPath ⟨home, configHome⟩ (Settings.file ⟨home, configHome⟩) := by
    intro hnamed
    have hnone : configHome.filter (fun s => Path.isAbsolute ⟨s⟩) = none := by
      cases configHome with
      | none => rfl
      | some s => simp [Option.filter, hnamed s rfl]
    unfold Settings.file Settings.directory? Home.directory?
    simp only [hnone]
    obtain ⟨hempty, hhome⟩ | ⟨s, hfull, hs, hne⟩ := filter_ne_empty home.named
    · rw [hempty]
      obtain ⟨hempty', haccount⟩ | ⟨s, hfull, hs, hne⟩ := filter_ne_empty home.account
      · rw [hempty']
        exact .unknown hnamed hhome haccount
      · rw [hfull]
        exact .account hnamed hhome hs hne
    · rw [hfull]
      exact .home hnamed hs hne
  cases configHome with
  | none => exact hhome (by simp)
  | some s =>
    cases habsolute : Path.isAbsolute ⟨s⟩ with
    | false =>
      refine hhome fun s' hs' => ?_
      cases hs'
      exact habsolute
    | true =>
      simp only [Settings.file, Settings.directory?, Option.filter, habsolute, if_true]
      exact .named rfl habsolute

/-- A path leads to nothing exactly if nothing stands there or a directory on the way denies
search. -/
theorem leadsTo_eq_false :
    t.leadsTo p = false ↔ (∃ fault, t.standing p = .error fault) ∨ t.Bars p := by
  by_cases hbars : t.Bars p
  · obtain ⟨fault, hopen⟩ := Tree.open?_of_walk ((t.walk_unlocked _ _ _).1.2 hbars)
    simp [hbars, Tree.leadsTo, hopen, Except.isOk, Except.toBool]
  · have hstanding : t.standing p = (t.open? p).map fun x => x.2.unlocked := by
      rw [Tree.standing, Tree.open?_unlocked hbars]
      cases t.open? p <;> rfl
    rw [hstanding, Tree.leadsTo]
    cases t.open? p <;> simp [hbars, Except.map, Except.isOk, Except.toBool]

/-- What stands at a path that no directory bars is what is found there, search permission
granted. -/
theorem exists_open? {e : Entry} (h : t.standing p = .ok e) (hbars : ¬ t.Bars p) :
    ∃ l e', t.open? p = .ok (l, e') ∧ e'.unlocked = e := by
  rw [Tree.standing, Tree.open?_unlocked hbars] at h
  cases hopen : t.open? p with
  | error fault => simp [hopen, Except.map] at h
  | ok x =>
    simp only [hopen, Except.map, Except.ok.injEq] at h
    exact ⟨x.1, x.2, rfl, h⟩

/-- Without a file the standard settings are used, whatever could be read. -/
theorem load_of_not_leadsTo (hp : Settings.file env = .ok p) {v : View}
    (h : v.leadsTo p = false) : Settings.load v env = ⟨.ok .standard, [.settingsMissing p]⟩ := by
  simp [Settings.load, hp, h]

/-- If a path leads to something, the settings are those of its text. -/
theorem load_of_leadsTo (hp : Settings.file env = .ok p) {v : View} (h : v.leadsTo p = true) :
    Settings.load v env = match v.text p with
      | .error fault => ⟨.error (.io fault), []⟩
      | .ok text => ⟨Settings.ofToml text, []⟩ := by
  cases htext : v.text p <;> simp [Settings.load, hp, h, htext]

/-- Loading from a path uses the standard settings, or those of a file, or is an error. -/
theorem loadsFrom (hp : Settings.file env = .ok p) : LoadsFrom t env p := by
  have hleads : ∀ e, t.standing p = .ok e → ¬ t.Bars p → t.view.leadsTo p = true := by
    intro e he hbars
    cases h : t.leadsTo p with
    | true => exact h
    | false =>
      rcases leadsTo_eq_false.1 h with ⟨fault, hfault⟩ | h
      · cases he.symm.trans hfault
      · exact absurd h hbars
  constructor
  case standard =>
    rw [← leadsTo_eq_false]
    constructor
    · intro h
      cases hleads : t.leadsTo p with
      | false => rfl
      | true =>
        rw [load_of_leadsTo hp (v := t.view) hleads] at h
        have hevents := congrArg Logged.events h
        split at hevents <;> cases hevents
    · exact fun h => load_of_not_leadsTo hp h
  case unread => exact fun h read list => load_of_not_leadsTo hp (leadsTo_eq_false.2 h)
  case nothing => exact fun fault h => Tree.fault_of_standing h
  case file =>
    intro mode content h hbars
    rw [load_of_leadsTo hp (hleads _ h hbars)]
    obtain ⟨l, e, hopen, he⟩ := exists_open? h hbars
    cases e with
    | directory => cases he
    | link => cases he
    | file mode' content' =>
      cases he
      have hread : t.view.read p =
          if mode.read then .ok content else .error .permissionDenied := by
        simp only [Tree.view, Tree.read, hopen]
      unfold View.text settingsOf
      rw [hread]
      cases mode.read with
      | false => rfl
      | true =>
        simp only [if_true]
        cases String.fromUTF8? content <;> rfl
  case other =>
    intro e h hnot hbars
    rw [load_of_leadsTo hp (hleads _ h hbars)]
    obtain ⟨l, e', hopen, rfl⟩ := exists_open? h hbars
    have hread : ∃ fault, t.view.read p = .error fault := by
      simp only [Tree.view, Tree.read, hopen]
      cases e' with
      | file mode content => exact absurd rfl (hnot mode content)
      | directory mode => exact ⟨_, rfl⟩
      | link target => exact ⟨_, rfl⟩
    obtain ⟨fault, hfault⟩ := hread
    exact ⟨fault, by simp only [View.text, hfault]⟩

end Loading

/-- Every tree and environment: where the settings are told from the environment, and loaded
from there. Without a place for them there is an error. -/
theorem settings_loaded_unless_barred (t : Tree) (env : Environment) :
    SettingsPath env (Settings.file env) ∧
      (∀ e, Settings.file env = .error e → Settings.load t.view env = ⟨.error e, []⟩) ∧
      ∀ p, Settings.file env = .ok p → LoadsFrom t env p := by
  refine ⟨settingsPath env, fun e he => ?_, fun p hp => loadsFrom hp⟩
  simp [Settings.load, he]

/-- A home directory with a file of settings in a directory that denies search. -/
def barredHome : Tree :=
  ⟨[(["home"], .directory .newDirectory), (["home", ".config"], .directory .newDirectory),
    (["home", ".config", "joulemeter"], .directory ⟨true, true, false⟩),
    (["home", ".config", "joulemeter", "config.toml"],
      .file .newFile "[sysfs]\npowercap_root = \"/fake\"\n".toUTF8)]⟩

/-- The file is there, can be read and gives settings, and still the standard settings are
used. -/
theorem barred_settings_ignored :
    let env : Environment := ⟨⟨some "/home", none⟩, none⟩
    let text := "[sysfs]\npowercap_root = \"/fake\"\n"
    Settings.file env = .ok ⟨"/home/.config/joulemeter/config.toml"⟩ ∧
      barredHome.standing ⟨"/home/.config/joulemeter/config.toml"⟩ =
        .ok (.file .newFile text.toUTF8) ∧
      (settingsOf .newFile text.toUTF8).toOption = some ⟨⟨⟨"/fake"⟩, ⟨"/sys/class/hwmon"⟩⟩⟩ ∧
      (Settings.load barredHome.view env).value = .ok .standard := by
  intro env text
  have hsteps : Path.steps ⟨"/home/.config/joulemeter/config.toml"⟩ =
      [.entry "home", .entry ".config", .entry "joulemeter", .entry "config.toml"] := by
    decide +kernel
  have hfile : Settings.file env = .ok ⟨"/home/.config/joulemeter/config.toml"⟩ := by rfl
  have hbars : barredHome.Bars ⟨"/home/.config/joulemeter/config.toml"⟩ := by
    unfold Tree.Bars
    rw [hsteps]
    exact .later rfl (.later rfl (.later rfl (.here rfl rfl (by simp))))
  have hleads : barredHome.unlocked.Leads linkLimit []
      (Path.steps ⟨"/home/.config/joulemeter/config.toml"⟩) linkLimit
      ["home", ".config", "joulemeter", "config.toml"] := by
    rw [hsteps]
    exact .cons rfl (.cons rfl (.cons rfl (.cons rfl (.nil _ _))))
  refine ⟨hfile, ?_, by decide +kernel, ?_⟩
  · have hlocate : barredHome.unlocked.locate true ⟨"/home/.config/joulemeter/config.toml"⟩ =
        .ok (.present ["home", ".config", "joulemeter", "config.toml"]) := by
      rw [Tree.locate, if_neg (by decide +kernel), if_neg (by decide), if_neg (by decide +kernel)]
      exact hleads.walk_eq
    simp only [Tree.standing, Tree.open?, hlocate]
    rfl
  · rw [(loadsFrom hfile).standard.2 (Or.inr hbars)]

end EnergyMeter
