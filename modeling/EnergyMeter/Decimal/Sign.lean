import EnergyMeter.Decimal.Binary

/-!
# Numbers without a minus sign

A sum or a quotient of numbers without a minus sign has none either. Amounts of
energy only grow from zero, so none of them is the zero that carries a minus
sign, the one number that adding zero would change. Everything here follows the
binary64 format down to the sign bit; no size of a number is looked at.
-/

namespace EnergyMeter

open Float.Model Float.Model.UnpackedFloat

/-- Whether a number carries no minus sign. A zero may carry one; what is no
number never does. -/
def Unsigned : UnpackedFloat → Prop
  | .notANumber => True
  | .infinity s => s = .positive
  | .zero s => s = .positive
  | .finite s _ _ _ => s = .positive

/-- The sign is read back from the bits that it was packed into. -/
theorem sign_packComponents {format : Format} {sign : Sign}
    {exponent : BitVec format.exponentBits}
    {mantissa : BitVec format.mantissaBitsWithoutImplicit} :
    unpackSign (packComponents format sign exponent mantissa) = sign.toBitVec := by
  ext i hi
  have h0 : i = 0 := by omega
  subst h0
  unfold unpackSign packComponents
  simp [BitVec.getLsbD_eq_getElem, BitVec.getLsbD_append, BitVec.getElem_append]

/-- Packing a number without a minus sign leaves the sign bit clear. -/
theorem sign_pack {x : UnpackedFloat} (hx : Unsigned x) :
    unpackSign (UnpackedFloat.pack Format.binary64 x) = 0#1 := by
  cases x with
  | notANumber => exact sign_packComponents
  | infinity s =>
    cases hx
    exact sign_packComponents
  | zero s =>
    cases hx
    exact sign_packComponents
  | finite s m e hm =>
    cases hx
    unfold UnpackedFloat.pack
    dsimp only
    split
    · exact sign_packComponents
    · split <;> exact sign_packComponents

/-- A choice between numbers without a minus sign has none. -/
theorem unsigned_ite {p : Prop} [Decidable p] {x y : UnpackedFloat} (hx : Unsigned x)
    (hy : Unsigned y) : Unsigned (if p then x else y) := by
  by_cases h : p
  · rwa [if_pos h]
  · rwa [if_neg h]

/-- The same where the numbers need to know what was chosen. -/
theorem unsigned_dite {p : Prop} [Decidable p] {x : p → UnpackedFloat} {y : ¬p → UnpackedFloat}
    (hx : ∀ h, Unsigned (x h)) (hy : ∀ h, Unsigned (y h)) :
    Unsigned (if h : p then x h else y h) := by
  by_cases h : p
  · rw [dif_pos h]
    exact hx h
  · rw [dif_neg h]
    exact hy h

/-- Bits with a clear sign bit hold a number without a minus sign. -/
theorem unsigned_unpack {b : BitVec Format.binary64.numBits} (hb : unpackSign b = 0#1) :
    Unsigned (UnpackedFloat.unpack Format.binary64 b) := by
  unfold UnpackedFloat.unpack
  dsimp only
  rw [hb]
  refine unsigned_ite (unsigned_ite rfl trivial) (unsigned_ite ?_ rfl)
  exact unsigned_dite (fun _ => rfl) (fun _ => rfl)

/-- Rounding keeps the sign, whatever the accuracy. -/
theorem unsigned_roundWithAccuracy {format : Format} {m : Nat} {e : Int} {a : Accuracy} :
    Unsigned (roundWithAccuracy format .positive m e a) := by
  unfold roundWithAccuracy
  exact unsigned_dite (fun _ => rfl) (fun _ => rfl)

/-- Rounding a mantissa that is not negative gives no minus sign. -/
theorem unsigned_normalize {format : Format} {m e : Int} (hm : 0 ≤ m) :
    Unsigned (UnpackedFloat.normalize format m e .positive) := by
  unfold UnpackedFloat.normalize
  split
  · rename_i hc
    have hlt := Int.compare_eq_lt.1 hc
    omega
  · rfl
  · exact unsigned_roundWithAccuracy

/-- A sum of numbers without a minus sign has none. -/
theorem unsigned_add {format : Format} {x y : UnpackedFloat} (hx : Unsigned x) (hy : Unsigned y) :
    Unsigned (UnpackedFloat.add format x y) := by
  cases x <;> cases y <;> cases hx <;> cases hy <;> try first | rfl | trivial
  dsimp only [UnpackedFloat.add, Sign.apply]
  exact unsigned_normalize (by omega)

/-- A quotient of numbers without a minus sign has none. -/
theorem unsigned_div {format : Format} {x y : UnpackedFloat} (hx : Unsigned x) (hy : Unsigned y) :
    Unsigned (UnpackedFloat.div format x y) := by
  cases x <;> cases y <;> cases hx <;> cases hy <;> try first | rfl | trivial
  exact unsigned_roundWithAccuracy

/-- The sign bit of a floating-point number is that of its bits. -/
theorem signBit_eq_false_iff {x : Float} :
    signBit x = false ↔
      @unpackSign Format.binary64 x.toModel.toBits.toBitVec = 0#1 := by
  have hlt : x.toModel.toBits.toNat < 2 ^ 64 := x.toModel.toBits.toNat_lt
  rw [signBit, decide_eq_false_iff_not, ← BitVec.toNat_inj]
  unfold unpackSign Float.toBits
  simp [Nat.shiftRight_eq_div_pow]
  omega

/-- What is packed without a minus sign has a clear sign bit. -/
theorem signBit_pack {x : UnpackedFloat} (hx : Unsigned x) :
    signBit (.ofModel (.pack x)) = false :=
  signBit_eq_false_iff.2 (sign_pack hx)

/-- A clear sign bit is read as no minus sign. -/
theorem unsigned_of_signBit {x : Float} (hx : signBit x = false) : Unsigned x.toModel.unpack :=
  unsigned_unpack (signBit_eq_false_iff.1 hx)

/-- Adding sets no sign bit. -/
theorem signBit_add {x y : Float} (hx : signBit x = false) (hy : signBit y = false) :
    signBit (x + y) = false :=
  signBit_pack (unsigned_add (unsigned_of_signBit hx) (unsigned_of_signBit hy))

/-- Dividing sets no sign bit. -/
theorem signBit_div {x y : Float} (hx : signBit x = false) (hy : signBit y = false) :
    signBit (x / y) = false :=
  signBit_pack (unsigned_div (unsigned_of_signBit hx) (unsigned_of_signBit hy))

/-- A count becomes a number without a sign bit. -/
theorem signBit_toFloat (n : UInt64) : signBit n.toFloat = false :=
  signBit_pack (unsigned_normalize (Int.natCast_nonneg n.toNat))

/-- Zero as it is written carries no sign bit. -/
theorem signBit_zero : signBit 0 = false := by decide +kernel

end EnergyMeter
