import EnergyMeter.Files.Path
import Mathlib

/-!
# The order of names by their bytes

The names in a directory are compared character by character. Written as bytes they
compare with the same result: a smaller character has no more bytes than a larger
one, the first byte tells how many there are, and among characters of one length the
bytes are digits of the code point. The paths of a directory's entries differ only
behind a common beginning, so they compare as the names do.
-/

namespace EnergyMeter.Files

/-- The bytes of a text. -/
def bytesOf (s : String) : List UInt8 :=
  s.toUTF8.data.toList

section Bytes

variable {a b : Nat} {s t : List UInt8}

/-- The first bytes decide an order unless they are the same. -/
theorem cons_lt_cons_of_le (hb : b < 256) (hle : a ≤ b) (h : a = b → s < t) :
    UInt8.ofNat a :: s < UInt8.ofNat b :: t := by
  rw [List.cons_lt_cons_iff]
  rcases Nat.lt_or_eq_of_le hle with hlt | heq
  · left
    rw [UInt8.lt_iff_toNat_lt, UInt8.toNat_ofNat', UInt8.toNat_ofNat']
    omega
  · exact Or.inr ⟨congrArg _ heq, h heq⟩

/-- The bytes of a smaller character come first, whatever follows. -/
theorem encode_lt {c d : Char} (h : c < d) :
    String.utf8EncodeChar c ++ s < String.utf8EncodeChar d ++ t := by
  have hlt : c.val.toNat < d.val.toNat := h
  have hd : d.val.toNat < 0x110000 := by
    rcases d.valid with hd | hd <;> omega
  unfold String.utf8EncodeChar
  dsimp only
  generalize c.val.toNat = m at hlt
  generalize d.val.toNat = n at hlt hd
  -- The smaller character is not the longer one.
  split_ifs <;> try omega
  all_goals refine cons_lt_cons_of_le (by omega) (by omega) fun hfirst => ?_
  -- If it is the shorter one, the first byte decides.
  all_goals try omega
  all_goals refine cons_lt_cons_of_le (by omega) (by omega) fun hsecond => ?_
  all_goals try omega
  all_goals refine cons_lt_cons_of_le (by omega) (by omega) fun hthird => ?_
  all_goals try omega
  exact cons_lt_cons_of_le (by omega) (by omega) fun hfourth => by omega

end Bytes

/-- The bytes of a text are those of its characters. -/
theorem bytesOf_ofList (cs : List Char) :
    bytesOf (String.ofList cs) = cs.flatMap String.utf8EncodeChar := by
  unfold bytesOf
  rw [String.toUTF8_eq_toByteArray, String.toByteArray_ofList, List.utf8Encode,
    List.toList_data_toByteArray]

/-- Texts in a row have their bytes in a row. -/
theorem bytesOf_append (a b : String) : bytesOf (a ++ b) = bytesOf a ++ bytesOf b :=
  ByteArray.toList_data_append'

/-- A smaller row of characters has the smaller bytes. -/
theorem flatMap_encode_lt {cs ds : List Char} (h : cs < ds) :
    cs.flatMap String.utf8EncodeChar < ds.flatMap String.utf8EncodeChar := by
  induction ds generalizing cs with
  | nil => exact absurd h (List.not_lt_nil cs)
  | cons d ds ih =>
    rw [List.flatMap_cons]
    cases cs with
    | nil =>
      obtain ⟨first, rest, hd⟩ := List.exists_cons_of_ne_nil (String.utf8EncodeChar_ne_nil (c := d))
      rw [hd, List.flatMap_nil, List.cons_append]
      exact List.nil_lt_cons _ _
    | cons c cs =>
      rw [List.flatMap_cons]
      rcases List.cons_lt_cons_iff.1 h with hlt | ⟨rfl, hrest⟩
      · exact encode_lt hlt
      · exact List.append_left_lt (ih hrest)

/-- Texts compare as their bytes do. -/
theorem bytesOf_lt_iff {a b : String} : bytesOf a < bytesOf b ↔ a < b := by
  have hlt : ∀ {a b : String}, a < b → bytesOf a < bytesOf b := by
    intro a b h
    rw [← String.ofList_toList (s := a), ← String.ofList_toList (s := b), bytesOf_ofList,
      bytesOf_ofList]
    exact flatMap_encode_lt (String.lt_iff.1 h)
  refine ⟨fun h => ?_, hlt⟩
  rcases lt_trichotomy a b with hab | rfl | hba
  · exact hab
  · exact absurd h (List.lt_irrefl _)
  · exact absurd (hlt hba) (List.lt_asymm h)

/-- Names stand in the order of their bytes. -/
theorem nameLe_iff {a b : String} : nameLe a b = true ↔ bytesOf a ≤ bytesOf b := by
  rw [← List.not_lt, bytesOf_lt_iff, nameLe, Bool.not_eq_true', decide_eq_false_iff_not]

/-- The order of names is transitive. -/
theorem nameLe_trans (a b c : String) (hab : nameLe a b = true) (hbc : nameLe b c = true) :
    nameLe a c = true := by
  rw [nameLe_iff] at hab hbc ⊢
  exact List.le_trans hab hbc

/-- Of two names one comes first. -/
theorem nameLe_total (a b : String) : (nameLe a b || nameLe b a) = true := by
  rw [Bool.or_eq_true, nameLe_iff, nameLe_iff]
  exact List.le_total _ _

/-- Names that come before each other are the same. -/
theorem nameLe_antisymm {a b : String} (hab : nameLe a b = true) (hba : nameLe b a = true) :
    a = b := by
  have hle : ¬ b < a := by simpa [nameLe] using hab
  have hge : ¬ a < b := by simpa [nameLe] using hba
  exact le_antisymm (not_lt.1 hle) (not_lt.1 hge)

/-- Sorted names are the same in whatever order they were given. -/
theorem mergeSort_eq_of_perm {names sorted : List String} (hperm : names.Perm sorted)
    (ho : sorted.Pairwise fun a b => nameLe a b = true) : names.mergeSort nameLe = sorted :=
  ((List.mergeSort_perm names nameLe).trans hperm).eq_of_pairwise
    (fun _ _ _ _ => nameLe_antisymm) (List.pairwise_mergeSort nameLe_trans nameLe_total names) ho

/-- The bytes of a path. -/
def Path.bytes (p : Path) : List UInt8 :=
  bytesOf p.text

/-- The paths of a directory's entries differ only behind a common beginning. -/
theorem text_join (p : Path) : ∃ front, ∀ name, (p.join name).text = front ++ name := by
  by_cases h : p.text = "" || p.endsWithSlash
  · exact ⟨p.text, fun name => by rw [Path.join, if_pos h]⟩
  · exact ⟨p.text ++ "/", fun name => by rw [Path.join, if_neg h]⟩

/-- Paths in one directory stand in the order of the names. -/
theorem bytes_join_le_iff {p : Path} {a b : String} :
    (p.join a).bytes ≤ (p.join b).bytes ↔ nameLe a b = true := by
  obtain ⟨front, hfront⟩ := text_join p
  unfold Path.bytes
  rw [hfront, hfront, bytesOf_append, bytesOf_append, nameLe_iff]
  constructor
  · intro h hlt
    exact h (List.append_left_lt hlt)
  · exact List.append_left_le

/-- In one directory the path of an earlier name comes first. -/
theorem bytes_join_lt {p : Path} {a b : String} (hab : nameLe a b = true) (hne : a ≠ b) :
    (p.join a).bytes < (p.join b).bytes := by
  by_contra hlt
  have hba : nameLe b a = true := bytes_join_le_iff.1 (List.not_lt.1 hlt)
  exact hne (nameLe_antisymm hab hba)

end EnergyMeter.Files
