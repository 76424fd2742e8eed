import Machining.Number.Numeral
set_option autoImplicit false

/-!
# Written numbers are numbers

"Not a number" comes from undefined operations alone.  Rounding never gives it, packing
keeps it apart from the numbers, and the rule that makes a double of a significand and
a power of ten multiplies or divides by a number other than zero.  So whatever is written
is a number.  It may be an infinity, and then it has no integer part.
-/

namespace Machining.Number

open Float.Model (UnpackedFloat Format)
open Float.Model.UnpackedFloat

/-! ## Packing -/

/-- The fields of a packed double read as a number unless the exponent is the greatest and
the mantissa is not zero. -/
theorem isNaN_unpack_packComponents {sign : Sign}
    {exponent : BitVec Format.binary64.exponentBits}
    {mantissa : BitVec Format.binary64.mantissaBitsWithoutImplicit}
    (h : exponent ≠ -1#_ ∨ mantissa = 0#_) :
    (unpack .binary64 (packComponents .binary64 sign exponent mantissa)).isNaN = false := by
  have hmantissa := @unpackMantissa_packComponents .binary64 sign exponent mantissa
  have hexponent := @unpackExponent_packComponents .binary64 sign exponent mantissa
  generalize packComponents .binary64 sign exponent mantissa = fields at hmantissa hexponent
  unfold unpack
  dsimp only
  by_cases hgreatest : unpackExponent fields = -1#_
  · have hexponent' : exponent = -1#_ := hexponent.symm.trans hgreatest
    have hzero : mantissa = 0#_ := h.resolve_left (not_not_intro hexponent')
    rw [if_pos hgreatest, if_pos (hmantissa.trans hzero)]
    rfl
  · rw [if_neg hgreatest]
    by_cases hleast : unpackExponent fields = 0#_
    · rw [if_pos hleast]
      by_cases hzero : unpackMantissa fields = 0#_
      · rw [dif_pos hzero]
        rfl
      · rw [dif_neg hzero]
        rfl
    · rw [if_neg hleast]
      rfl

/-- A number that is packed is unpacked as a number. -/
theorem isNaN_pack {f : UnpackedFloat} (h : f.isNaN = false) :
    (Float.Model.pack f).unpack.isNaN = false := by
  show (unpack .binary64 (pack .binary64 f)).isNaN = false
  cases f with
  | notANumber => cases h
  | infinity s => exact isNaN_unpack_packComponents (.inr rfl)
  | zero s => exact isNaN_unpack_packComponents (.inr rfl)
  | finite s m e hm =>
    unfold pack
    dsimp only
    generalize (e + _ + _ : Int).toNat = biased
    split
    · exact isNaN_unpack_packComponents (.inr rfl)
    · rename_i hbound
      have hbound : biased + 1 < 2048 := Nat.lt_of_not_le hbound
      split
      · -- The greatest exponent is 2047, and this one is less.
        refine isNaN_unpack_packComponents (.inl ?_)
        intro hgreatest
        have hvalue : biased % 2048 = 2047 := congrArg BitVec.toNat hgreatest
        omega
      · exact isNaN_unpack_packComponents (.inl (by decide))

/-! ## Operations that are defined -/

section

variable {p : Prop} [Decidable p]

theorem isNaN_ite {f g : UnpackedFloat} (hf : f.isNaN = false) (hg : g.isNaN = false) :
    (if p then f else g).isNaN = false := by
  by_cases h : p
  · rw [if_pos h]
    exact hf
  · rw [if_neg h]
    exact hg

theorem isNaN_dite {f : p → UnpackedFloat} {g : ¬ p → UnpackedFloat}
    (hf : ∀ h, (f h).isNaN = false) (hg : ∀ h, (g h).isNaN = false) :
    (if h : p then f h else g h).isNaN = false := by
  by_cases h : p
  · rw [dif_pos h]
    exact hf h
  · rw [dif_neg h]
    exact hg h

end

theorem isNaN_roundWithAccuracy (sign : Sign) (mantissa : Nat) (exponent : Int)
    (accuracy : Accuracy) :
    (roundWithAccuracy .binary64 sign mantissa exponent accuracy).isNaN = false := by
  unfold roundWithAccuracy
  dsimp only
  exact isNaN_dite (fun _ => rfl) fun _ => rfl

/-- A finite number other than zero. -/
def isScale : UnpackedFloat → Bool
  | .finite .. => true
  | _ => false

section

variable {f g : UnpackedFloat}

theorem isNaN_mul (hf : f.isNaN = false) (hg : isScale g = true) :
    (mul .binary64 f g).isNaN = false := by
  cases g with
  | finite =>
    cases f with
    | notANumber => cases hf
    | infinity s => rfl
    | zero s => rfl
    | finite => exact isNaN_roundWithAccuracy _ _ _ _
  | _ => cases hg

theorem isNaN_div (hf : f.isNaN = false) (hg : isScale g = true) :
    (div .binary64 f g).isNaN = false := by
  cases g with
  | finite =>
    cases f with
    | notANumber => cases hf
    | infinity s => rfl
    | zero s => rfl
    | finite => exact isNaN_roundWithAccuracy _ _ _ _
  | _ => cases hg

end

/-- The number nearest to a significand times a power of ten. -/
theorem isNaN_ofScientific (significand : Nat) (exponent : Int) :
    (UnpackedFloat.ofScientific .binary64 significand exponent).isNaN = false := by
  unfold UnpackedFloat.ofScientific
  apply isNaN_dite
  · intro _
    rfl
  · intro _
    apply isNaN_ite rfl
    apply isNaN_ite rfl
    apply isNaN_ite
    · exact isNaN_mul rfl rfl
    · exact isNaN_div rfl rfl

theorem isNaN_ofUInt64 (n : UInt64) : n.toFloat.toModel.unpack.isNaN = false := by
  apply isNaN_pack
  show (UnpackedFloat.normalize .binary64 n.toNat 0 .positive).isNaN = false
  unfold UnpackedFloat.normalize
  split
  · exact isNaN_roundWithAccuracy _ _ _ _
  · rfl
  · exact isNaN_roundWithAccuracy _ _ _ _

theorem powersOfTen_isScale :
    Float.exactlyRepresentablePowersOfTen.all (fun x => isScale x.toModel.unpack) = true := by
  decide +kernel

/-! ## Doubles -/

theorem isNaN_neg {x : Float} (h : x.isNaN = false) : (-x).isNaN = false := by
  have hneg : x.toModel.unpack.neg.isNaN = false := by
    change x.toModel.unpack.isNaN = false at h
    generalize x.toModel.unpack = f at h
    cases f with
    | notANumber => cases h
    | _ => rfl
  exact isNaN_pack hneg

/-- A decimal literal is a number. -/
theorem isNaN_float_ofScientific (significand : Nat) (isFraction : Bool) (power : Nat) :
    (Float.ofScientific significand isFraction power).isNaN = false := by
  unfold Float.ofScientific
  split
  · rename_i hexact
    have hscale := Array.all_eq_true.mp powersOfTen_isScale power (Nat.lt_succ_of_le hexact.2)
    have hnumber := isNaN_ofUInt64 significand.toUInt64
    dsimp only
    split
    · exact isNaN_pack (isNaN_div hnumber hscale)
    · exact isNaN_pack (isNaN_mul hnumber hscale)
  · exact isNaN_pack (isNaN_ofScientific _ _)

end Machining.Number

namespace Machining

/-- What the decimal rule gives is a number. -/
theorem isNaN_decimalFloat (negative : Bool) (significand : Nat) (exponent : Int) :
    (decimalFloat negative significand exponent).isNaN = false := by
  have hnumber :=
    Number.isNaN_float_ofScientific significand (exponent < 0) exponent.natAbs
  unfold decimalFloat
  dsimp only
  split
  · exact Number.isNaN_neg hnumber
  · exact hnumber

/-- The number of a numeral is a number. -/
theorem Numeral.isNaN_value (n : Numeral) : n.value.isNaN = false :=
  isNaN_decimalFloat _ _ _

section

variable {x : Float}

theorem integerPart_of_isInf (h : x.isInf = true) : integerPart x = .error .infinite := by
  change x.toModel.unpack.isInf = true at h
  unfold integerPart Exact.ofFloat
  generalize x.toModel.unpack = f at h
  cases f with
  | infinity s => rfl
  | _ => cases h

/-- A number that is no infinity has an integer part. -/
theorem exists_integerPart (hnumber : x.isNaN = false) (hfinite : x.isInf = false) :
    ∃ n, integerPart x = .ok n := by
  change x.toModel.unpack.isNaN = false at hnumber
  change x.toModel.unpack.isInf = false at hfinite
  unfold integerPart Exact.ofFloat
  generalize x.toModel.unpack = f at hnumber hfinite
  cases f with
  | notANumber => cases hnumber
  | infinity s => cases hfinite
  | zero s => exact ⟨_, rfl⟩
  | finite => exact ⟨_, rfl⟩

end

end Machining
