import EnergyMeter.Decimal.Sign
import Mathlib

/-!
# Adding nothing

A component that a package does not have is worth zero joules, and every sum of
joules starts from zero. Neither changes a digit: a number without a minus sign
stays the same number when zero is added to it, on either side. The one number
that would change is the zero with a minus sign.
-/

namespace EnergyMeter

open Float.Model Float.Model.UnpackedFloat

/-- Zero as it is written is the zero without a minus sign. -/
theorem unpack_zero : (0 : Float).toModel.unpack = .zero .positive := by
  rfl

/-- The zero without a minus sign changes nothing that it is added to in front. -/
theorem zero_add_unsigned {format : Format} {x : UnpackedFloat} (hx : Unsigned x) :
    UnpackedFloat.add format (.zero .positive) x = x := by
  cases x <;> cases hx <;> rfl

/-- The zero without a minus sign changes nothing that it is added to behind. -/
theorem add_zero_unsigned {format : Format} {x : UnpackedFloat} (hx : Unsigned x) :
    UnpackedFloat.add format x (.zero .positive) = x := by
  cases x <;> cases hx <;> rfl

/-- Zero in front changes no number without a minus sign. -/
theorem zero_add_of_signBit {x : Float} (hx : signBit x = false) : 0 + x = x := by
  show Float.ofModel (.pack (.add Format.binary64 (0 : Float).toModel.unpack x.toModel.unpack)) = x
  rw [unpack_zero, zero_add_unsigned (unsigned_of_signBit hx)]
  exact x.ofBits_toBits

/-- Zero behind changes no number without a minus sign. -/
theorem add_zero_of_signBit {x : Float} (hx : signBit x = false) : x + 0 = x := by
  show Float.ofModel (.pack (.add Format.binary64 x.toModel.unpack (0 : Float).toModel.unpack)) = x
  rw [unpack_zero, add_zero_unsigned (unsigned_of_signBit hx)]
  exact x.ofBits_toBits

end EnergyMeter
