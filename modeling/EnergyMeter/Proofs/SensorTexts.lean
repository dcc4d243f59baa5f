import EnergyMeter.Proofs.Numerals
import EnergyMeter.Proofs.SettingsFile
import EnergyMeter.Sensor
import Mathlib.Data.List.TakeWhile

/-!
# Which sensor files hold a count

A sensor file is bytes. If they are the UTF-8 of a text, the count is the number that the text
writes without the white space at its two ends; a text that writes no number of 64 bits is an
error that names the file and the text. Padding, a plus sign and zeros in front are all that two
texts of one number differ in. A file that cannot be read is an error of another kind: one for
missing permission, and one for everything else.
-/

namespace EnergyMeter

open Files Text Numeral

namespace Text

/-- The code points with the Unicode white space property. -/
def whiteSpace : List Nat :=
  [0x09, 0x0a, 0x0b, 0x0c, 0x0d, 0x20, 0x85, 0xa0, 0x1680, 0x2000, 0x2001, 0x2002, 0x2003, 0x2004,
    0x2005, 0x2006, 0x2007, 0x2008, 0x2009, 0x200a, 0x2028, 0x2029, 0x202f, 0x205f, 0x3000]

/-- Whether there is nothing but white space. -/
def Padding (cs : List Char) : Prop := ∀ c ∈ cs, c.toNat ∈ whiteSpace

/-- That a text is a core with white space around it, all of which is outside the core. -/
structure Pads (core t : String) : Prop where
  /-- The text is the core between two rows of white space. -/
  around : ∃ front back, t.toList = front ++ core.toList ++ back ∧ Padding front ∧ Padding back
  /-- The core does not begin with white space. -/
  first : ∀ c, core.toList.head? = some c → c.toNat ∉ whiteSpace
  /-- Neither does it end with white space. -/
  last : ∀ c, core.toList.getLast? = some c → c.toNat ∉ whiteSpace

variable {c : Char} {cs front back : List Char} {s t core : String}

/-- The characters that are trimmed are those with the white space property. -/
theorem isBlank_iff : isBlank c = true ↔ c.toNat ∈ whiteSpace := by
  simp only [isBlank, whiteSpace, Bool.or_eq_true, Bool.and_eq_true, decide_eq_true_eq,
    beq_iff_eq, List.mem_cons, List.not_mem_nil, or_false]
  omega

/-- A row of padding is one of blanks. -/
theorem padding_iff : Padding cs ↔ ∀ c ∈ cs, isBlank c = true :=
  forall₂_congr fun _ _ => isBlank_iff.symm

/-- Padding in front is dropped, and nothing behind it. -/
theorem dropWhile_padding (hfront : Padding front) (hcs : cs ≠ [])
    (hfirst : ∀ c, cs.head? = some c → c.toNat ∉ whiteSpace) (rest : List Char) :
    (front ++ (cs ++ rest)).dropWhile isBlank = cs ++ rest := by
  rw [List.dropWhile_append_of_pos (padding_iff.1 hfront)]
  cases cs with
  | nil => exact absurd rfl hcs
  | cons c cs =>
    have hc : ¬ isBlank c = true := fun h => hfirst c rfl (isBlank_iff.1 h)
    rw [List.cons_append, List.dropWhile_cons, if_neg hc]

/-- Without the padding around it a text is its core. -/
theorem Pads.trimmed_eq (h : Pads core t) : trimmed t = core := by
  obtain ⟨front, back, ht, hfront, hback⟩ := h.around
  have htrim : trim t.toList = core.toList := by
    rw [ht, List.append_assoc]
    by_cases hcore : core.toList = []
    · have hblank : ∀ c ∈ front ++ back, isBlank c = true := by
        intro c hc
        rcases List.mem_append.1 hc with hc | hc
        · exact padding_iff.1 hfront c hc
        · exact padding_iff.1 hback c hc
      rw [hcore]
      exact trim_eq_nil_of_forall hblank
    · have hreverse : (core.toList ++ back).reverse =
          back.reverse ++ (core.toList.reverse ++ []) := by simp
      have hback' : Padding back.reverse := fun c hc => hback c (List.mem_reverse.1 hc)
      have hlast : ∀ c, core.toList.reverse.head? = some c → c.toNat ∉ whiteSpace := by
        intro c hc
        exact h.last c (List.head?_reverse ▸ hc)
      rw [trim, dropWhile_padding hfront hcore h.first, trimEnd, hreverse,
        dropWhile_padding hback' (by simpa using hcore) hlast]
      simp
  rw [trimmed, htrim, String.ofList_toList]

/-- What is left of a text is its core. -/
theorem pads_trimmed (t : String) : Pads (trimmed t) t := by
  have hstops : ∀ cs : List Char, ∀ c, (cs.dropWhile isBlank).head? = some c →
      c.toNat ∉ whiteSpace := by
    intro cs c hc hwhite
    have hnot := List.head?_dropWhile_not isBlank cs
    rw [hc] at hnot
    exact absurd (isBlank_iff.2 hwhite) (by simp [hnot])
  have htaken : ∀ cs : List Char, Padding (cs.takeWhile isBlank) := by
    intro cs
    exact padding_iff.2 fun c hc => List.mem_takeWhile_imp hc
  -- The text loses a row of blanks in front, then one at the end of what is left.
  generalize hleft : t.toList.dropWhile isBlank = left
  have hfront : t.toList = t.toList.takeWhile isBlank ++ left := by
    rw [← hleft, List.takeWhile_append_dropWhile]
  have hback : left = (left.reverse.dropWhile isBlank).reverse ++
      (left.reverse.takeWhile isBlank).reverse := by
    rw [← List.reverse_append, List.takeWhile_append_dropWhile, List.reverse_reverse]
  have hcore : (trimmed t).toList = (left.reverse.dropWhile isBlank).reverse := by
    rw [trimmed, String.toList_ofList, trim, trimEnd, hleft]
  constructor
  case around =>
    refine ⟨t.toList.takeWhile isBlank, (left.reverse.takeWhile isBlank).reverse, ?_, htaken _,
      fun c hc => htaken _ c (List.mem_reverse.1 hc)⟩
    rw [hcore, List.append_assoc, ← hback]
    exact hfront
  case first =>
    intro c hc
    -- A core that is not empty begins where the text does without its padding.
    have hhead : left.head? = some c := by
      rw [hback, List.head?_append, ← hcore, hc]
      rfl
    exact hstops t.toList c (hleft.symm ▸ hhead)
  case last =>
    intro c hc
    rw [hcore, List.getLast?_reverse] at hc
    exact hstops _ c hc

/-- A text is padded from one core, which is what is left when it is trimmed. -/
theorem pads_iff : Pads core t ↔ core = trimmed t := by
  constructor
  · exact fun h => h.trimmed_eq.symm
  · intro h
    exact h ▸ pads_trimmed t

end Text

/-- That a file holds a text of a core with white space around it. -/
def Files.View.Holds (v : View) (p : Path) (core : String) : Prop :=
  ∃ t : String, v.read p = .ok t.toUTF8 ∧ Pads core t

namespace Files

variable {v : View} {p : Path} {bytes : ByteArray} {t : String}

/-- Bytes are decoded as the text whose UTF-8 they are. -/
theorem fromUTF8?_eq_some : String.fromUTF8? bytes = some t ↔ bytes = t.toUTF8 := by
  constructor
  · intro h
    unfold String.fromUTF8? at h
    split at h
    · exact Option.some.inj h ▸ rfl
    · cases h
  · intro h
    rw [h]
    exact dif_pos t.isValidUTF8

/-- They are not decoded if they are the UTF-8 of no text. -/
theorem fromUTF8?_eq_none :
    String.fromUTF8? bytes = none ↔ ∀ t : String, bytes ≠ t.toUTF8 := by
  rw [Option.eq_none_iff_forall_ne_some]
  exact forall_congr' fun t => not_congr fromUTF8?_eq_some

/-- A file is read as the text whose UTF-8 it holds. -/
theorem View.text_of_read (h : v.read p = .ok t.toUTF8) : v.text p = .ok t := by
  have htext := fromUTF8?_eq_some.2 (Eq.refl t.toUTF8)
  unfold View.text
  simp only [h, htext]

/-- Bytes that are the UTF-8 of no text are no text. -/
theorem View.text_of_binary (h : v.read p = .ok bytes) (hnone : ∀ t : String, bytes ≠ t.toUTF8) :
    v.text p = .error .notText := by
  have htext := fromUTF8?_eq_none.2 hnone
  unfold View.text
  simp only [h, htext]

/-- A file that cannot be read has no text. -/
theorem View.text_of_fault {fault : Fault} (h : v.read p = .error fault) :
    v.text p = .error fault := by
  unfold View.text
  simp only [h]

/-- Whether the text of a path can be looked up. -/
structure Path.Lookable (p : Path) : Prop where
  /-- It is not empty. -/
  some : p.text ≠ ""
  /-- It holds no zero character. -/
  zero : '\x00' ∉ p.text.toList
  /-- It is not too long. -/
  short : p.text.utf8ByteSize < pathLimit

/-- Whether the content of an entry may be read. -/
def Entry.readable : Entry → Bool
  | .file mode _ | .directory mode => mode.read
  | .link _ => true

namespace Tree

/-- That the permission to read what stands at a path is missing. -/
inductive Denies (t : Tree) (p : Path) : Prop
  /-- A directory on the way denies search. -/
  | search (hp : p.Lookable) (h : t.Bars p)
  /-- What stands at the path may not be read. -/
  | content {e : Entry} (h : t.standing p = .ok e) (he : e.readable = false)

variable {t : Tree}

/-- A text that is no path is looked up nowhere. -/
theorem locate_of_not_lookable (hp : ¬ p.Lookable) :
    ∃ fault, ∀ t : Tree, t.locate true p = .error fault := by
  unfold locate
  by_cases hzero : '\x00' ∈ p.text.toList
  · exact ⟨.zeroInPath, fun t => if_pos (List.contains_iff_mem.2 hzero)⟩
  · by_cases hempty : p.text = ""
    · exact ⟨.notFound, fun t => by simp [hempty]⟩
    · by_cases hlong : pathLimit ≤ p.text.utf8ByteSize
      · exact ⟨.nameTooLong, fun t => by simp [hzero, hempty, hlong]⟩
      · exact absurd ⟨hempty, hzero, Nat.lt_of_not_le hlong⟩ hp

/-- Any other is walked along. -/
theorem locate_of_lookable (hp : p.Lookable) (t : Tree) :
    t.locate true p = t.walk true linkLimit [] p.steps := by
  have hshort : ¬ pathLimit ≤ p.text.utf8ByteSize := Nat.not_le_of_lt hp.short
  unfold locate
  simp [hp.zero, hp.some, hshort]

/-- Looking up what is there without the modes fails as in the tree itself, or a directory on
the way denies search. -/
theorem standing_eq (h : ¬ (p.Lookable ∧ t.Bars p)) :
    t.standing p = (t.open? p).map fun x => x.2.unlocked := by
  by_cases hp : p.Lookable
  · have hopen := open?_unlocked (t := t) (p := p) fun hbars => h ⟨hp, hbars⟩
    rw [standing, hopen]
    cases t.open? p <;> rfl
  · obtain ⟨fault, hfault⟩ := locate_of_not_lookable hp
    simp only [standing, open?, hfault]
    rfl

/-- What may not be read gives an error. -/
theorem read_of_denies (h : t.Denies p) : t.read p = .error .permissionDenied := by
  by_cases hbars : p.Lookable ∧ t.Bars p
  · have hwalk := (t.walk_unlocked linkLimit [] p.steps).1.2 hbars.2
    have hlocate : t.locate true p = .error .permissionDenied :=
      (locate_of_lookable hbars.1 t).trans hwalk
    simp only [read, open?, hlocate]
  · cases h with
    | search hp h => exact absurd ⟨hp, h⟩ hbars
    | content h he =>
      rw [standing_eq hbars] at h
      cases hopen : t.open? p with
      | error fault => simp [hopen, Except.map] at h
      | ok x =>
        obtain ⟨l, e'⟩ := x
        simp only [hopen, Except.map, Except.ok.injEq] at h
        subst h
        cases e' with
        | file mode content =>
          have hmode : mode.read = false := he
          simp [read, hopen, hmode]
        | directory mode =>
          have hmode : mode.read = false := he
          simp [read, hopen, hmode]
        | link target => cases he

/-- What may be read is read as what stands there. -/
theorem read_of_not_denies (h : ¬ t.Denies p) : t.read p =
    match t.standing p with
    | .error fault => .error fault
    | .ok (.file _ content) => .ok content
    | .ok (.directory _) => .error .isDirectory
    | .ok (.link _) => .error .linkLoop := by
  have hbars : ¬ (p.Lookable ∧ t.Bars p) := fun hb => h (.search hb.1 hb.2)
  have hreadable : ∀ e, t.standing p = .ok e → e.readable = true := by
    intro e he
    cases hread : e.readable with
    | true => rfl
    | false => exact absurd (.content he hread) h
  rw [standing_eq hbars] at hreadable ⊢
  unfold read
  cases hopen : t.open? p with
  | error fault => rfl
  | ok x =>
    obtain ⟨l, e⟩ := x
    have he := hreadable e.unlocked (by rw [hopen]; rfl)
    cases e with
    | file mode content =>
      have hmode : mode.read = true := he
      simp [hmode, Except.map, Entry.unlocked]
    | directory mode =>
      have hmode : mode.read = true := he
      simp [hmode, Except.map, Entry.unlocked]
    | link target => rfl

end Tree

end Files

namespace Sensor

/-- What reading a count comes to, told from what reading the file comes to. -/
structure CountsText (v : View) (p : Path) : Prop where
  /-- A text has one core. Its count is the number that the core writes, if that is one of 64
  bits, and else there is an error with the path and the core. -/
  numeral : ∀ t : String, v.read p = .ok t.toUTF8 → ∃ core, (∀ s, Pads s t ↔ s = core) ∧
    (∀ n, count v p = .ok n ↔ Writes core.toList n.toNat) ∧
    (count v p = .error (.parse p core) ↔ ∀ n : UInt64, ¬ Writes core.toList n.toNat)
  /-- Bytes that are no text give no count. -/
  binary : ∀ bytes, v.read p = .ok bytes → (∀ t : String, bytes ≠ t.toUTF8) →
    count v p = .error (.io .notText)
  /-- For a file that may not be read the error says what would help. -/
  denied : v.read p = .error .permissionDenied → count v p = .error (.permissionDenied
    ("Cannot read " ++ p.text ++ " (try running with sudo or add CAP_SYS_RAWIO)"))
  /-- Any other fault is the error. -/
  failed : ∀ fault, v.read p = .error fault → fault ≠ .permissionDenied →
    count v p = .error (.io fault)

variable {v : View} {p : Path} {core : String} {n : UInt64}

/-- A file that holds a text has a count exactly if the core of the text writes one. -/
theorem count_of_holds (h : v.Holds p core) : count v p =
    match word64? core with
    | some n => .ok n
    | none => .error (.parse p core) := by
  obtain ⟨t, hread, hpads⟩ := h
  have hcore : text v p = .ok core := by
    simp only [text, View.text_of_read hread, hpads.trimmed_eq]
  cases hword : word64? core with
  | some n => simp only [count, hcore, hword]
  | none => simp only [count, hcore, hword]

/-- Its count is the number that the core writes. -/
theorem count_eq_ok_of_holds (h : v.Holds p core) :
    count v p = .ok n ↔ Writes core.toList n.toNat := by
  rw [count_of_holds h, ← word64?_eq_some]
  cases word64? core <;> simp

/-- Without such a number there is an error. -/
theorem count_eq_parse_of_holds (h : v.Holds p core) : count v p = .error (.parse p core) ↔
    ∀ n : UInt64, ¬ Writes core.toList n.toNat := by
  have hword : word64? core = none ↔ ∀ n : UInt64, ¬ Writes core.toList n.toNat := by
    rw [Option.eq_none_iff_forall_ne_some]
    exact forall_congr' fun n => not_congr word64?_eq_some
  rw [count_of_holds h, ← hword]
  cases word64? core <;> simp

/-- A file that cannot be read as a text gives the error of its fault. -/
theorem count_of_fault {fault : Fault} (h : v.text p = .error fault) :
    count v p = .error (errorOf p fault) := by
  unfold count text
  rw [h]

/-- Every fault but a missing permission is an error of the file system. -/
theorem errorOf_eq_io {fault : Fault} (h : fault ≠ .permissionDenied) :
    errorOf p fault = .io fault := by
  cases fault <;> first | rfl | exact absurd rfl h

/-- A count is read from the text of a file, or there is the error that the file gives. -/
theorem countsText (v : View) (p : Path) : CountsText v p := by
  constructor
  case numeral =>
    intro t hread
    have hholds : v.Holds p (trimmed t) := ⟨t, hread, pads_trimmed t⟩
    exact ⟨trimmed t, fun s => pads_iff, fun n => count_eq_ok_of_holds hholds,
      count_eq_parse_of_holds hholds⟩
  case binary =>
    intro bytes hread hnone
    exact count_of_fault (View.text_of_binary hread hnone)
  case denied =>
    intro hread
    exact count_of_fault (View.text_of_fault hread)
  case failed =>
    intro fault hread hne
    rw [count_of_fault (View.text_of_fault hread), errorOf_eq_io hne]

/-- A number in decimal, with white space around it, is read as that number. -/
theorem count_of_written {front back : String} (hfront : Padding front.toList)
    (hback : Padding back.toList)
    (h : v.read p = .ok (front ++ toString n.toNat ++ back).toUTF8) : count v p = .ok n := by
  have hdigits : (toString n.toNat).toList = Nat.toDigits 10 n.toNat := by
    rw [Nat.toString_eq_ofList_toDigits, String.toList_ofList]
  have hdigit : ∀ c ∈ (toString n.toNat).toList, c.toNat ∉ whiteSpace := by
    intro c hc hwhite
    rw [hdigits] at hc
    have hc' := Nat.isDigit_of_mem_toDigits (by decide) (by decide) hc
    have hbounds : 48 ≤ c.toNat ∧ c.toNat ≤ 57 := by
      simpa [Char.isDigit, UInt32.le_iff_toNat_le] using hc'
    simp only [whiteSpace, List.mem_cons, List.not_mem_nil, or_false] at hwhite
    omega
  have hpads : Pads (toString n.toNat) (front ++ toString n.toNat ++ back) := by
    constructor
    case around =>
      exact ⟨front.toList, back.toList, by simp only [String.toList_append], hfront, hback⟩
    case first => exact fun c hc => hdigit c (List.mem_of_head? hc)
    case last => exact fun c hc => hdigit c (List.mem_of_getLast? hc)
  rw [count_eq_ok_of_holds ⟨_, h, hpads⟩, hdigits]
  exact .plain (digits_toDigits n.toNat)

/-- Texts of numerals with the same digits from the first that is not zero have the same count,
or none of them has one. -/
theorem count_of_same_digits {v' : View} {p' : Path} {core' : String} {k k' : Nat}
    (h : v.Holds p core) (h' : v'.Holds p' core') (hk : Writes core.toList k)
    (hk' : Writes core'.toList k') (hsame : significant core.toList = significant core'.toList) :
    count v p = .ok n ↔ count v' p' = .ok n := by
  have hkk : k = k' := (hk.eq_iff hk').2 hsame
  have hunique : ∀ {cs : List Char} {l}, Writes cs k → (Writes cs l ↔ k = l) := by
    intro cs l hcs
    constructor
    · exact fun hl => (hcs.eq_iff hl).2 rfl
    · exact fun hl => hl ▸ hcs
  rw [← hkk] at hk'
  rw [count_eq_ok_of_holds h, count_eq_ok_of_holds h', hunique hk, hunique hk']

/-- What reading a count comes to, told from what stands at the path in a tree. -/
structure CountsInTree (t : Files.Tree) (p : Path) : Prop where
  /-- Missing permission is an error of its own kind. -/
  denied : (∃ text, count t.view p = .error (.permissionDenied text)) ↔ t.Denies p
  /-- If nothing can be found at the path, the error says why. -/
  missing : ∀ fault, ¬ t.Denies p → t.standing p = .error fault →
    count t.view p = .error (.io fault)
  /-- A directory is no file. -/
  directory : ∀ mode, ¬ t.Denies p → t.standing p = .ok (.directory mode) →
    count t.view p = .error (.io .isDirectory)
  /-- The content of a file is read. -/
  file : ∀ mode content, ¬ t.Denies p → t.standing p = .ok (.file mode content) →
    t.view.read p = .ok content

/-- Only a file that may not be read gives the error of missing permission. -/
theorem read_of_count_denied {text : String} (h : count v p = .error (.permissionDenied text)) :
    v.read p = .error .permissionDenied := by
  cases hread : v.read p with
  | ok bytes =>
    by_cases htext : ∃ t : String, bytes = t.toUTF8
    · obtain ⟨t, ht⟩ := htext
      rw [count_of_holds ⟨t, ht ▸ hread, pads_trimmed t⟩] at h
      split at h <;> cases h
    · have hbinary := (countsText v p).binary bytes hread fun t ht => htext ⟨t, ht⟩
      cases h.symm.trans hbinary
  | error fault =>
    by_cases hfault : fault = .permissionDenied
    · rw [hfault]
    · have hfailed := (countsText v p).failed fault hread hfault
      cases h.symm.trans hfailed

/-- Reading a count in a tree is denied, finds a file, or fails for another reason. -/
theorem countsInTree (t : Files.Tree) (p : Path) : CountsInTree t p := by
  have hread : ¬ t.Denies p → t.view.read p = _ := fun h => t.read_of_not_denies h
  constructor
  case denied =>
    constructor
    · intro h
      obtain ⟨text, hcount⟩ := h
      by_contra hdenies
      have hdenied := read_of_count_denied hcount
      rw [hread hdenies] at hdenied
      split at hdenied
      · rename_i fault hfault
        cases hdenied
        have hknown := t.fault_of_standing hfault
        simp at hknown
      all_goals cases hdenied
    · intro h
      exact ⟨_, (countsText t.view p).denied (t.read_of_denies h)⟩
  case missing =>
    intro fault hdenies hstanding
    have hfault : fault ≠ .permissionDenied := by
      intro hfault
      have hknown := t.fault_of_standing hstanding
      simp [hfault] at hknown
    have hfailed := hread hdenies
    rw [hstanding] at hfailed
    exact (countsText t.view p).failed fault hfailed hfault
  case directory =>
    intro mode hdenies hstanding
    have hfailed := hread hdenies
    rw [hstanding] at hfailed
    exact (countsText t.view p).failed .isDirectory hfailed (by simp)
  case file =>
    intro mode content hdenies hstanding
    have hcontent := hread hdenies
    rw [hstanding] at hcontent
    exact hcontent

/-- Every file system and every tree. A count is read exactly from the texts that write a number
of 64 bits, and what is read is that number; the errors tell apart other texts, missing permission
and everything else. A number written in decimal with white space around it is read back, and
texts that differ in padding, a plus sign and zeros in front alone have the same count. -/
theorem counts_numerals_exactly :
    (∀ v p, CountsText v p) ∧
    (∀ (v : View) (p : Path) (n : UInt64) (front back : String), Padding front.toList →
      Padding back.toList → v.read p = .ok (front ++ toString n.toNat ++ back).toUTF8 →
        count v p = .ok n) ∧
    (∀ (v v' : View) (p p' : Path) (core core' : String) (k k' : Nat), v.Holds p core →
      v'.Holds p' core' → Writes core.toList k → Writes core'.toList k' →
        significant core.toList = significant core'.toList →
          ∀ n, count v p = .ok n ↔ count v' p' = .ok n) ∧
    ∀ t p, CountsInTree t p := by
  refine ⟨countsText, ?_, ?_, countsInTree⟩
  · intro v p n front back hfront hback h
    exact count_of_written hfront hback h
  · intro v v' p p' core core' k k' h h' hk hk' hsame n
    exact count_of_same_digits h h' hk hk' hsame

end Sensor

end EnergyMeter
