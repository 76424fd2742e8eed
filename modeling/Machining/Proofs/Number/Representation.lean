import Mathlib
import Machining.Proofs.Number.Order
set_option autoImplicit false

/-!
# Doubles by their parts

A double is packed into 64 bits and unpacked into a sign, a mantissa and an exponent for
every operation.  Of the parts that have the same value only one choice is ever unpacked,
the canonical one, and it is kept by packing.  So a double is known by its parts, and what
changes the parts alone, as negation does, is exact.
-/

namespace Machining.Number

open Float.Model (UnpackedFloat Format)
open Float.Model.UnpackedFloat

/-! ## Canonical parts -/

/-- Mantissa and exponent are those of a double: the mantissa has 53 binary digits, or fewer
at the least exponent. -/
def IsCanonical : UnpackedFloat → Prop
  | .finite _ mantissa exponent _ =>
    mantissa < 2 ^ 53 ∧ -1074 ≤ exponent ∧ exponent ≤ 971 ∧
      (2 ^ 52 ≤ mantissa ∨ exponent = -1074)
  | _ => True

/-- The leading digit of a mantissa is not stored. -/
theorem toNat_implicit_append (mantissa : BitVec 52) :
    (1#1 ++ mantissa).toNat = 2 ^ 52 + mantissa.toNat := by
  rw [BitVec.toNat_append, ← Nat.shiftLeft_add_eq_or_of_lt mantissa.isLt]
  rfl

section

variable (s : Sign) {exponent : BitVec Format.binary64.exponentBits}
  {mantissa : BitVec Format.binary64.mantissaBitsWithoutImplicit}

theorem unpack_infinity : unpack .binary64 (packedInfinity .binary64 s) = .infinity s := by
  unfold unpack packedInfinity
  simp only [unpackMantissa_packComponents, unpackExponent_packComponents,
    unpackSign_packComponents, Sign.ofBitVec_toBitVec, if_true]
  rfl

theorem unpack_normal (hleast : exponent ≠ 0#_) (hgreatest : exponent ≠ -1#_) :
    unpack .binary64 (packComponents .binary64 s exponent mantissa) =
      .finite s (2 ^ 52 + mantissa.toNat) (exponent.toNat - 1075) (by omega) := by
  unfold unpack
  simp only [unpackMantissa_packComponents, unpackExponent_packComponents,
    unpackSign_packComponents, Sign.ofBitVec_toBitVec, hleast, hgreatest, if_false]
  congr 1
  exact toNat_implicit_append mantissa

theorem unpack_subnormal (h : 0 < mantissa.toNat) :
    unpack .binary64 (packComponents .binary64 s 0#_ mantissa) =
      .finite s mantissa.toNat (-1074) h := by
  have hgreatest : BitVec.ofNat Format.binary64.exponentBits 0 ≠ -1#_ := by decide
  have hne : mantissa ≠ 0#_ := by
    rintro rfl
    exact absurd h (by decide)
  unfold unpack
  simp only [unpackMantissa_packComponents, unpackExponent_packComponents,
    unpackSign_packComponents, Sign.ofBitVec_toBitVec, hgreatest, hne, if_false, if_true,
    dif_neg, not_false_eq_true]
  rfl

end

/-- A double is unpacked canonically. -/
theorem isCanonical_unpack (b : BitVec Format.binary64.numBits) :
    IsCanonical (unpack .binary64 b) := by
  have hmantissa : (unpackMantissa b).toNat < 2 ^ 52 := (unpackMantissa b).isLt
  have hexponent : (unpackExponent b).toNat < 2 ^ 11 := (unpackExponent b).isLt
  rw [← packComponents_unpackSign_unpackExponent_unpackMantissa b]
  generalize unpackMantissa b = mantissa at hmantissa ⊢
  generalize unpackExponent b = exponent at hexponent ⊢
  by_cases hgreatest : exponent = -1#_
  · subst hgreatest
    unfold unpack
    simp only [unpackMantissa_packComponents, unpackExponent_packComponents, if_true]
    split <;> trivial
  by_cases hleast : exponent = 0#_
  · subst hleast
    by_cases hzero : mantissa.toNat = 0
    · have hzero : mantissa = 0#_ := BitVec.eq_of_toNat_eq hzero
      subst hzero
      show IsCanonical (unpack _ (packedZero _ _))
      rw [unpack_packedZero]
      trivial
    · rw [unpack_subnormal _ (Nat.pos_of_ne_zero hzero)]
      exact ⟨by omega, by decide, by decide, .inr rfl⟩
  · have hne : exponent.toNat ≠ 2047 := fun h => hgreatest (BitVec.eq_of_toNat_eq h)
    have hne' : exponent.toNat ≠ 0 := fun h => hleast (BitVec.eq_of_toNat_eq h)
    rw [unpack_normal _ hleast hgreatest]
    exact ⟨by omega, by omega, by omega, .inl (by omega)⟩

/-- A canonical double is unpacked as it was packed. -/
theorem unpack_pack {f : UnpackedFloat} (h : IsCanonical f) :
    unpack .binary64 (UnpackedFloat.pack .binary64 f) = f := by
  cases f with
  | notANumber => exact unpack_packedNaN
  | infinity s => exact unpack_infinity s
  | zero s => exact unpack_packedZero
  | finite s m e hm =>
    obtain ⟨hm53, hlow, hhigh, hnormal⟩ := h
    obtain ⟨biased, hbiased⟩ : ∃ biased : Nat, e = biased - 1075 :=
      ⟨(e + 1075).toNat, by omega⟩
    have hexponent : (e + (Format.binary64.exponentBias : Int) + (52 : Nat)).toNat = biased := by
      have hbias : Format.binary64.exponentBias = 1023 := rfl
      omega
    have hfits : ¬ 2 ^ 11 ≤ biased + 1 := by omega
    have hbits : Format.binary64.mantissaBits = 53 := rfl
    unfold UnpackedFloat.pack
    dsimp only
    rw [hexponent, if_neg hfits, hbits]
    by_cases hge : 2 ^ 52 ≤ m
    · have hlog : m.log2 + 1 = 53 := by
        have := (Nat.le_log2 hm.ne').mpr hge
        have := (Nat.log2_lt hm.ne').mpr hm53
        omega
      have hvalue : (BitVec.ofNat 11 biased).toNat = biased := Nat.mod_eq_of_lt (by omega)
      have hleast : BitVec.ofNat 11 biased ≠ 0#_ := by
        intro h
        rw [h] at hvalue
        change 0 = biased at hvalue
        omega
      have hgreatest : BitVec.ofNat 11 biased ≠ -1#_ := by
        intro h
        rw [h] at hvalue
        change 2047 = biased at hvalue
        omega
      rw [if_pos hlog, unpack_normal s hleast hgreatest]
      congr 1
      · show 2 ^ 52 + m % 2 ^ 52 = m
        omega
      · rw [hvalue, hbiased]
    · have hlog : m.log2 + 1 ≠ 53 := by
        have := (Nat.log2_lt hm.ne').mpr (Nat.lt_of_not_le hge)
        omega
      have hvalue : (BitVec.ofNat 52 m).toNat = m := Nat.mod_eq_of_lt (by omega)
      rw [if_neg hlog, unpack_subnormal s (by rw [hvalue]; exact hm)]
      congr 1
      exact (hnormal.resolve_left hge).symm

/-! ## Doubles by their parts -/

variable {x y : Float}

/-- A double is known by its parts. -/
theorem eq_of_unpack (h : x.toModel.unpack = y.toModel.unpack) : x = y := by
  obtain ⟨⟨xbits, hx⟩⟩ := x
  obtain ⟨⟨ybits, hy⟩⟩ := y
  have hbits := congrArg (UnpackedFloat.pack .binary64) h
  change UnpackedFloat.pack .binary64 (unpack .binary64 xbits.toBitVec) =
    UnpackedFloat.pack .binary64 (unpack .binary64 ybits.toBitVec) at hbits
  rw [pack_unpack_of_valid hx, pack_unpack_of_valid hy] at hbits
  cases UInt64.toBitVec_inj.mp hbits
  rfl

/-- There is only one "not a number". -/
theorem eq_of_isNaN (hx : x.isNaN = true) (hy : y.isNaN = true) : x = y :=
  eq_of_unpack ((isNaN_iff.mp hx).trans (isNaN_iff.mp hy).symm)

theorem isCanonical_neg {f : UnpackedFloat} (h : IsCanonical f) : IsCanonical f.neg := by
  cases f <;> exact h

theorem isCanonical_abs {f : UnpackedFloat} (h : IsCanonical f) : IsCanonical f.abs := by
  cases f <;> exact h

theorem unpack_neg (x : Float) : (-x).toModel.unpack = x.toModel.unpack.neg :=
  unpack_pack (isCanonical_neg (isCanonical_unpack _))

theorem unpack_abs (x : Float) : x.abs.toModel.unpack = x.toModel.unpack.abs :=
  unpack_pack (isCanonical_abs (isCanonical_unpack _))

/-! ## Negation is exact -/

theorem mul_neg_neg (f g : UnpackedFloat) :
    mul .binary64 f.neg g.neg = mul .binary64 f g := by
  have hsign : ∀ s t : Sign, -s * -t = s * t := by
    intro s t
    cases s <;> cases t <;> rfl
  cases f <;> cases g <;> simp only [mul, neg, hsign]

theorem neg_mul_neg (x y : Float) : -x * -y = x * y := by
  show Float.ofModel (.pack (mul .binary64 (-x).toModel.unpack (-y).toModel.unpack)) = _
  rw [unpack_neg, unpack_neg, mul_neg_neg]
  rfl

theorem abs_neg (x : Float) : (-x).abs = x.abs := by
  show Float.ofModel (.pack (-x).toModel.unpack.abs) = Float.ofModel (.pack x.toModel.unpack.abs)
  rw [unpack_neg]
  cases x.toModel.unpack <;> rfl

theorem unpack_zero : (0.0 : Float).toModel.unpack = .zero .positive :=
  (unpack_eq_zero_iff_of_valid (Float.Model.valid _)).mpr (by decide +kernel)

/-- A number is above zero just if its negative is below. -/
theorem neg_lt_zero_iff : -x < 0.0 ↔ 0.0 < x := by
  rw [lt_iff, lt_iff, unpack_neg, unpack_zero]
  cases x.toModel.unpack with
  | notANumber => exact Iff.rfl
  | infinity s => cases s <;> decide
  | zero s => cases s <;> decide
  | finite s m e hm => cases s <;> simp [UnpackedFloat.compare, neg]

/-- A number neither below zero nor above has the magnitude zero. -/
theorem abs_eq_zero (hx : x.isNaN = false) (hbelow : ¬ x < 0.0) (habove : ¬ 0.0 < x) :
    x.abs = 0.0 := by
  apply eq_of_unpack
  rw [unpack_abs, unpack_zero]
  rw [lt_iff, unpack_zero] at hbelow habove
  change x.toModel.unpack.isNaN = false at hx
  cases hparts : x.toModel.unpack with
  | zero s => rfl
  | notANumber =>
    rw [hparts] at hx
    cases hx
  | infinity s => cases s <;> simp [hparts, UnpackedFloat.compare] at hbelow habove
  | finite s m e hm => cases s <;> simp [hparts, UnpackedFloat.compare] at hbelow habove

/-! ## "Not a number" stays -/

theorem isNaN_packed {f : UnpackedFloat} (h : f.isNaN = true) :
    (Float.ofModel (.pack f)).isNaN = true := by
  rw [isNaN_iff.mp h]
  decide

theorem isNaN_add_right (x : Float) (hy : y.isNaN = true) : (x + y).isNaN = true := by
  apply isNaN_packed
  rw [isNaN_iff.mp hy]
  cases x.toModel.unpack <;> rfl

theorem isNaN_mul_right (x : Float) (hy : y.isNaN = true) : (x * y).isNaN = true := by
  apply isNaN_packed
  rw [isNaN_iff.mp hy]
  cases x.toModel.unpack <;> rfl

theorem isNaN_div_right (x : Float) (hy : y.isNaN = true) : (x / y).isNaN = true := by
  apply isNaN_packed
  rw [isNaN_iff.mp hy]
  cases x.toModel.unpack <;> rfl

end Machining.Number
