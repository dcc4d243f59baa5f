import EnergyMeter.Proofs.JoinedPaths
import EnergyMeter.Proofs.Numerals
import EnergyMeter.Rapl.ZoneName

/-!
# Which names are those of zones

The name of a zone is the kernel's beginning with one numeral behind it, or with two and a
colon between them. Reading accepts exactly these names. Every other name has another
beginning, or a part that is no numeral of 32 bits, be it empty, padded or too large, or more
than two parts. What the kernel writes for a zone is read back as that zone.
-/

namespace EnergyMeter.Rapl.ZoneName

open Files Text Numeral

/-- The names of zones. -/
inductive Names : String → ZoneName → Prop
  /-- That of a package's own zone. -/
  | package {n : String} {id : UInt32} (h : Writes n.toList id.toNat) :
      Names ("intel-rapl:" ++ n) (.package id)
  /-- That of a zone inside a package. -/
  | inner {n m : String} {id zone : UInt32} (hn : Writes n.toList id.toNat)
      (hm : Writes m.toList zone.toNat) : Names ("intel-rapl:" ++ n ++ ":" ++ m) (.inner id zone)

/-- That a name is the kernel's beginning with some parts behind it, colons between them. -/
structure HasParts (s : String) (parts : List (List Char)) : Prop where
  /-- The name is the beginning and the parts. -/
  text : s.toList = "intel-rapl:".toList ++ joinWith ':' parts
  /-- There is a part. -/
  present : parts ≠ []
  /-- The parts are cut at every colon. -/
  cut : ∀ p ∈ parts, ':' ∉ p

/-- The ways in which a name is not that of a zone. -/
inductive Misnamed (s : String) : Prop
  /-- It begins in another way. -/
  | start (h : ¬ "intel-rapl:".toList <+: s.toList)
  /-- A part of it is no numeral of 32 bits. -/
  | part {parts : List (List Char)} {p : List Char} (hs : HasParts s parts) (hp : p ∈ parts)
      (h : ∀ k : UInt32, ¬ Writes p k.toNat)
  /-- It has a third part. -/
  | third {parts : List (List Char)} (hs : HasParts s parts) (h : 2 < parts.length)

section Reading

variable {s : String} {cs rest : List Char} {parts : List (List Char)} {z : ZoneName}

/-- What is left of a text stands behind its beginning. -/
theorem after?_eq_some {beginning : List Char} :
    after? beginning cs = some rest ↔ cs = beginning ++ rest := by
  induction beginning generalizing cs with
  | nil =>
    rw [after?, Option.some.injEq, List.nil_append]
  | cons b beginning ih =>
    cases cs with
    | nil => simp [after?]
    | cons c cs =>
      rw [after?, List.cons_append, List.cons.injEq]
      by_cases hbc : b = c
      · rw [if_pos hbc, ih, hbc]
        exact (and_iff_right rfl).symm
      · rw [if_neg hbc]
        have hcb : ¬ c = b := fun h => hbc h.symm
        simp [hcb]

/-- Parts without colons are what their joining is split into. -/
theorem splitAt_joinWith (hsome : parts ≠ []) (hcut : ∀ p ∈ parts, ':' ∉ p) :
    splitAt ':' (joinWith ':' parts) = parts := by
  induction parts with
  | nil => exact absurd rfl hsome
  | cons p rest ih =>
    have hp : splitAt ':' p = [p] := splitAt_of_not_mem (hcut p List.mem_cons_self)
    cases rest with
    | nil => exact hp
    | cons q rest =>
      have hrest := ih (List.cons_ne_nil q rest) fun r hr => hcut r (List.mem_cons_of_mem p hr)
      rw [joinWith, splitAt_append_cons, hp, hrest]
      · rfl
      · exact List.cons_ne_nil q rest

/-- A name with parts is read as its parts are. -/
theorem HasParts.parse?_eq (h : HasParts s parts) : parse? s = ofParts? parts := by
  have hrest : after? head s.toList = some (joinWith ':' parts) := after?_eq_some.2 h.text
  rw [parse?, hrest]
  exact congrArg ofParts? (splitAt_joinWith h.present h.cut)

/-- A name that begins as those of zones do has parts. -/
theorem exists_hasParts (h : "intel-rapl:".toList <+: s.toList) : ∃ parts, HasParts s parts := by
  obtain ⟨rest, hrest⟩ := h
  refine ⟨splitAt ':' rest, ?_, splitAt_ne_nil ':' rest, fun p hp => not_mem_of_mem_splitAt hp⟩
  rw [joinWith_splitAt, hrest]

/-- A name with one part is the beginning and the part. -/
theorem HasParts.eq_package {n : List Char} (h : HasParts s [n]) :
    s = "intel-rapl:" ++ String.ofList n := by
  apply String.toList_injective
  rw [h.text]
  simp [String.toList_append, joinWith]

/-- A name with two parts has a colon between them. -/
theorem HasParts.eq_inner {n m : List Char} (h : HasParts s [n, m]) :
    s = "intel-rapl:" ++ String.ofList n ++ ":" ++ String.ofList m := by
  apply String.toList_injective
  rw [h.text]
  simp [String.toList_append, joinWith]

/-- A numeral is a part. -/
theorem hasParts_package {n : String} {k : Nat} (h : Writes n.toList k) :
    HasParts ("intel-rapl:" ++ n) [n.toList] := by
  have hcut : ':' ∉ n.toList := h.not_mem (by decide) (by decide)
  exact ⟨String.toList_append, by simp, by simpa using hcut⟩

/-- Two numerals with a colon between them are two parts. -/
theorem hasParts_inner {n m : String} {k l : Nat} (hn : Writes n.toList k)
    (hm : Writes m.toList l) : HasParts ("intel-rapl:" ++ n ++ ":" ++ m) [n.toList, m.toList] := by
  have hcut : ':' ∉ n.toList := hn.not_mem (by decide) (by decide)
  have hcut' : ':' ∉ m.toList := hm.not_mem (by decide) (by decide)
  refine ⟨?_, by simp, by simpa using ⟨hcut, hcut'⟩⟩
  simp [String.toList_append, joinWith]

/-- Reading accepts the names of zones, and no others. -/
theorem parse?_eq_some : parse? s = some z ↔ Names s z := by
  constructor
  · intro h
    have hstart : "intel-rapl:".toList <+: s.toList := by
      unfold parse? at h
      split at h
      · rename_i rest hrest
        exact ⟨rest, (after?_eq_some.1 hrest).symm⟩
      · cases h
    obtain ⟨parts, hparts⟩ := exists_hasParts hstart
    rw [hparts.parse?_eq] at h
    unfold ofParts? at h
    split at h
    · rename_i n
      obtain ⟨id, hid, hz⟩ := Option.map_eq_some_iff.1 h
      have hn : Writes (String.ofList n).toList id.toNat := by
        rw [String.toList_ofList]
        exact word32?_eq_some.1 hid
      rw [hparts.eq_package, ← hz]
      exact .package hn
    · rename_i n m
      split at h
      · rename_i id zone hid hzone
        have hn : Writes (String.ofList n).toList id.toNat := by
          rw [String.toList_ofList]
          exact word32?_eq_some.1 hid
        have hm : Writes (String.ofList m).toList zone.toNat := by
          rw [String.toList_ofList]
          exact word32?_eq_some.1 hzone
        rw [hparts.eq_inner, ← Option.some.inj h]
        exact .inner hn hm
      · cases h
    · cases h
  · intro h
    cases h with
    | package h =>
      have hword := word32?_eq_some.2 h
      rw [(hasParts_package h).parse?_eq, ofParts?, hword]
      rfl
    | inner hn hm =>
      have hword := word32?_eq_some.2 hn
      have hword' := word32?_eq_some.2 hm
      rw [(hasParts_inner hn hm).parse?_eq, ofParts?, hword, hword']

/-- A sign and zeros in front are part of a numeral. -/
example : parse? "intel-rapl:+1:007" = some (.inner 1 7) := by
  decide +kernel

/-- Parts name no zone if one of them is no numeral or there are more than two. -/
theorem ofParts?_eq_none (hsome : parts ≠ []) : ofParts? parts = none ↔
    (∃ p ∈ parts, ∀ k : UInt32, ¬ Writes p k.toNat) ∨ 2 < parts.length := by
  have hword : ∀ p, word32? p = none ↔ ∀ k : UInt32, ¬ Writes p k.toNat := by
    intro p
    rw [Option.eq_none_iff_forall_ne_some]
    exact forall_congr' fun k => not_congr word32?_eq_some
  match parts with
  | [] => exact absurd rfl hsome
  | [n] => simp [ofParts?, hword]
  | [n, m] =>
    rw [ofParts?]
    cases hn : word32? n with
    | none => simp [(hword n).1 hn]
    | some id =>
      have hid : ¬ ∀ k : UInt32, ¬ Writes n k.toNat := by simp [← hword, hn]
      cases hm : word32? m with
      | none => simp [(hword m).1 hm]
      | some zone =>
        have hzone : ¬ ∀ k : UInt32, ¬ Writes m k.toNat := by simp [← hword, hm]
        simp [hid, hzone]
  | _ :: _ :: _ :: _ => simp [ofParts?]

/-- Every other name fails to be that of a zone in one of the ways there are. -/
theorem parse?_eq_none : parse? s = none ↔ Misnamed s := by
  by_cases hstart : "intel-rapl:".toList <+: s.toList
  · obtain ⟨parts, hparts⟩ := exists_hasParts hstart
    rw [hparts.parse?_eq, ofParts?_eq_none hparts.present]
    constructor
    · intro h
      rcases h with ⟨p, hp, hnone⟩ | hlength
      · exact .part hparts hp hnone
      · exact .third hparts hlength
    · intro h
      -- A name has its parts in one way only.
      have hunique : ∀ others, HasParts s others → others = parts := by
        intro others hothers
        have hjoined : joinWith ':' others = joinWith ':' parts :=
          List.append_cancel_left (hothers.text.symm.trans hparts.text)
        rw [← splitAt_joinWith hothers.present hothers.cut, hjoined,
          splitAt_joinWith hparts.present hparts.cut]
      cases h with
      | start h => exact absurd hstart h
      | part hs hp h => exact Or.inl ⟨_, hunique _ hs ▸ hp, h⟩
      | third hs h => exact Or.inr (hunique _ hs ▸ h)
  · have hnone : parse? s = none := by
      unfold parse?
      split
      · rename_i rest hrest
        exact absurd ⟨rest, (after?_eq_some.1 hrest).symm⟩ hstart
      · rfl
    exact ⟨fun _ => .start hstart, fun _ => hnone⟩

/-- The kernel writes the name of a zone. -/
theorem names_format (z : ZoneName) : Names (format z) z := by
  have hwrites : ∀ n : UInt32, Writes (toString n.toNat).toList n.toNat := by
    intro n
    rw [Nat.toString_eq_ofList_toDigits, String.toList_ofList]
    exact .plain (digits_toDigits n.toNat)
  cases z with
  | package id =>
    have hformat : format (.package id) = "intel-rapl:" ++ toString id.toNat := rfl
    rw [hformat]
    exact .package (hwrites id)
  | inner id zone =>
    have hformat : format (.inner id zone) =
        "intel-rapl:" ++ toString id.toNat ++ ":" ++ toString zone.toNat := rfl
    rw [hformat]
    exact .inner (hwrites id) (hwrites zone)

/-- A name is that of one zone. -/
theorem Names.unique {z' : ZoneName} (h : Names s z) (h' : Names s z') : z = z' :=
  Option.some.inj ((parse?_eq_some.2 h).symm.trans (parse?_eq_some.2 h'))

/-- Behind its beginning the name of a zone is of numerals and colons. -/
theorem Names.chars (h : Names s z) : ∃ rest, s.toList = head ++ rest ∧
    ∀ c ∈ rest, c = ':' ∨ c = '+' ∨ c.isDigit = true := by
  cases h with
  | @package n id h =>
    have htext := (hasParts_package h).text
    exact ⟨n.toList, htext, fun c hc => Or.inr (h.chars.2 c hc)⟩
  | @inner n m id zone hn hm =>
    have htext := (hasParts_inner hn hm).text
    refine ⟨n.toList ++ ':' :: m.toList, htext, fun c hc => ?_⟩
    rcases List.mem_append.1 hc with hc | hc
    · exact Or.inr (hn.chars.2 c hc)
    · rcases List.mem_cons.1 hc with hc | hc
      · exact Or.inl hc
      · exact Or.inr (hm.chars.2 c hc)

/-- The name of a zone is a single part of a path. -/
theorem plainName (h : (parse? s).isSome) : PlainName s := by
  obtain ⟨z, hz⟩ := Option.isSome_iff_exists.1 h
  obtain ⟨rest, hname, hchars⟩ := (parse?_eq_some.1 hz).chars
  have hnot : ∀ c, c ∉ head → c ≠ ':' → c ≠ '+' → c.isDigit = false → c ∉ s.toList := by
    intro c hhead hcolon hplus hdigit hc
    rw [hname] at hc
    rcases List.mem_append.1 hc with hc | hc
    · exact hhead hc
    · rcases hchars c hc with h | h | h
      · exact hcolon h
      · exact hplus h
      · cases hdigit.symm.trans h
  refine ⟨hnot '/' (by decide) (by decide) (by decide) (by decide),
    hnot '\x00' (by decide) (by decide) (by decide) (by decide), ?_⟩
  have hentry : Path.partStep? s.toList = some (.entry (String.ofList s.toList)) := by
    rw [hname]
    rfl
  rw [hentry, String.ofList_toList]

/-- The name of a zone has more than one byte. -/
theorem two_le_size (h : (parse? s).isSome) : 2 ≤ s.utf8ByteSize := by
  obtain ⟨z, hz⟩ := Option.isSome_iff_exists.1 h
  obtain ⟨rest, hname, -⟩ := (parse?_eq_some.1 hz).chars
  have hhead : (String.ofList head).utf8ByteSize = 11 := by decide
  rw [← String.ofList_toList (s := s), hname, String.ofList_append, String.utf8ByteSize_append,
    hhead]
  omega

end Reading

/-- What reading names comes to. -/
structure ReadsNames (read : String → Option ZoneName) : Prop where
  /-- A name is read as a zone exactly if it is one of the zone's names. -/
  named : ∀ s z, read s = some z ↔ Names s z
  /-- It is not read exactly if it fails to be a name in one of the ways there are. -/
  refused : ∀ s, read s = none ↔ Misnamed s
  /-- What the kernel writes for a zone is read as that zone. -/
  formatted : ∀ z, read (format z) = some z
  /-- No name is both that of a package and that of a zone inside one. -/
  apart : ∀ s id n k, Names s (.package id) → ¬ Names s (.inner n k)

/-- Every text: it is read as a zone exactly if it is written as the name of one. -/
theorem reads_names_exactly : ReadsNames parse? := by
  constructor
  case named => exact fun s z => parse?_eq_some
  case refused => exact fun s => parse?_eq_none
  case formatted => exact fun z => parse?_eq_some.2 (names_format z)
  case apart =>
    intro s id n k hpackage hinner
    cases hpackage.unique hinner

end EnergyMeter.Rapl.ZoneName
