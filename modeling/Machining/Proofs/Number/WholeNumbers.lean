import Machining.Number.Numeral
import Machining.Proofs.Number.Representation
set_option autoImplicit false

/-!
# Whole numbers are read exactly

A double that is a whole number has binary zeros behind the number in its mantissa.  Rounding
shifts them out again and changes nothing, so a whole number that fits into a mantissa is what
its sign and its digits are read as.
-/

namespace Machining.Number

open Float.Model (UnpackedFloat Format totalExponent)
open Float.Model.UnpackedFloat

/-! ## Exact rounding -/

/-- Zeros that are shifted out of a mantissa leave no trace. -/
theorem shiftRight_zeros (m j : Nat) :
    ExtendedMantissa.ofMantissaAndAccuracy (m * 2 ^ j) .exact >>> j = ⟨m, false, false⟩ := by
  show Nat.repeat ExtendedMantissa.shiftRightOne j ⟨m * 2 ^ j, false, false⟩ = _
  induction j generalizing m with
  | zero => rw [pow_zero, mul_one]; rfl
  | succ j ih =>
    have hdouble : m * 2 ^ (j + 1) = 2 * m * 2 ^ j := by ring
    rw [Nat.repeat, hdouble, ih]
    simp [ExtendedMantissa.shiftRightOne]

theorem targetExponent_eq (total : Int) :
    Format.binary64.targetExponent total = max (total - 53) (-1074) := rfl

theorem log2_shift {m : Nat} (hm : 0 < m) (j : Nat) : (m * 2 ^ j).log2 = m.log2 + j := by
  rw [Nat.log2_eq_iff (Nat.mul_pos hm (Nat.two_pow_pos j)).ne', Nat.add_right_comm, Nat.pow_add,
    Nat.pow_add, Nat.mul_lt_mul_right (Nat.two_pow_pos j)]
  exact ⟨Nat.mul_le_mul_right _ (Nat.log2_self_le hm.ne'), Nat.lt_log2_self⟩

/-- Canonical parts have the exponent that rounding aims at, however many zeros are written
behind the mantissa. -/
theorem targetExponent_of_isCanonical {s : Sign} {m : Nat} {e : Int} {hm : 0 < m}
    (h : IsCanonical (.finite s m e hm)) (j : Nat) :
    Format.binary64.targetExponent (totalExponent (m * 2 ^ j) (e - j)) = e := by
  obtain ⟨hm53, hlow, -, hnormal⟩ := h
  have hhigh := (Nat.log2_lt hm.ne').mpr hm53
  have htotal : totalExponent (m * 2 ^ j) (e - j) = m.log2 + 1 + e := by
    unfold totalExponent
    rw [log2_shift hm]
    omega
  rw [targetExponent_eq, htotal]
  rcases hnormal with hnormal | rfl
  · have := (Nat.le_log2 hm.ne').mpr hnormal
    omega
  · omega

/-- Canonical parts are not changed by rounding. -/
theorem roundWithAccuracy_of_isCanonical {s : Sign} {m : Nat} {e : Int} {hm : 0 < m}
    (h : IsCanonical (.finite s m e hm)) (j : Nat) :
    roundWithAccuracy .binary64 s (m * 2 ^ j) (e - j) .exact = .finite s m e hm := by
  have hshift : ∀ i : Nat, shiftToTargetExponent .binary64 (m * 2 ^ i) (e - i) .exact =
      (⟨m, false, false⟩, e) := by
    intro i
    have hamount : (e - (e - i)).toNat = i := by omega
    unfold shiftToTargetExponent shiftToExponent
    dsimp only
    rw [targetExponent_of_isCanonical h, hamount, shiftRight_zeros]
    congr 1
    omega
  have hrest : shiftToTargetExponent .binary64 m e .exact = (⟨m, false, false⟩, e) := by
    simpa using hshift 0
  have hrounded : ExtendedMantissa.roundedMantissa ⟨m, false, false⟩ = m := rfl
  simp only [roundWithAccuracy, hshift j, hrounded, hrest, hm.ne', dif_neg, not_false_eq_true]

/-! ## Whole numbers -/

/-- The double is a whole number, with binary zeros behind it in the mantissa. -/
inductive IsWhole (x : Float) (s : Sign) : Nat → Prop
  | zero (h : x.toModel.unpack = .zero s) : IsWhole x s 0
  | positive {n d : Nat} {hm : 0 < n * 2 ^ d}
      (h : x.toModel.unpack = .finite s (n * 2 ^ d) (-d) hm) : IsWhole x s n

theorem natAbs_signedInt (negative : Bool) (n : Nat) : (signedInt negative n).natAbs = n := by
  cases negative with
  | false => rfl
  | true => exact Int.natAbs_neg n

theorem floor_mul_denominator {q : Magnitude} (h : q.isWhole = true) :
    q.floor * q.denominator = q.numerator :=
  Nat.div_mul_cancel (Nat.dvd_of_mod_eq_zero (of_decide_eq_true h))

/-- A whole number that fits into a mantissa needs no binary zeros outside it. -/
theorem exists_zeros {n m : Nat} {e : Int} (hn : n < 2 ^ 53)
    (hnormal : 2 ^ 52 ≤ m ∨ e = -1074) (hvalue : n * 2 ^ (-e).toNat = m * 2 ^ e.toNat) :
    ∃ d : Nat, e = -d ∧ m = n * 2 ^ d := by
  have hexponent : e ≤ 0 := by
    apply Decidable.byContradiction
    intro hlarge
    obtain ⟨j, hj⟩ : ∃ j, e.toNat = j + 1 := ⟨e.toNat - 1, by omega⟩
    have hzero : (-e).toNat = 0 := by omega
    have hfull : 2 ^ 52 ≤ m := hnormal.resolve_right (by omega)
    rw [hzero, hj, pow_zero, mul_one, pow_succ'] at hvalue
    have hdouble : 2 ^ 53 ≤ n :=
      calc 2 ^ 53 = 2 ^ 52 * (2 * 1) := by decide
        _ ≤ m * (2 * 2 ^ j) := Nat.mul_le_mul hfull (Nat.mul_le_mul_left 2 Nat.one_le_two_pow)
        _ = n := hvalue.symm
    omega
  have hzero : e.toNat = 0 := by omega
  rw [hzero, pow_zero, mul_one] at hvalue
  exact ⟨(-e).toNat, by omega, hvalue.symm⟩

/-- A whole number that fits into a mantissa is one with zeros behind it there. -/
theorem isWhole_of_wholeNumber? {x : Float} {i : Int} (h : wholeNumber? x = some i)
    (hi : i.natAbs < 2 ^ 53) : ∃ s, IsWhole x s i.natAbs := by
  have hcanonical := isCanonical_unpack x.toModel.toBits.toBitVec
  change IsCanonical x.toModel.unpack at hcanonical
  unfold wholeNumber? Exact.ofFloat at h
  cases hx : x.toModel.unpack with
  | notANumber => simp [hx] at h
  | infinity s => simp [hx] at h
  | zero s =>
    rw [hx] at h
    cases h
    rw [natAbs_signedInt]
    exact ⟨s, .zero hx⟩
  | finite s m e hm =>
    rw [hx] at h hcanonical
    dsimp only at h
    split at h
    · rename_i hwhole
      have hvalue := floor_mul_denominator hwhole
      rw [← Option.some.inj h, natAbs_signedInt] at hi ⊢
      obtain ⟨d, rfl, hmantissa⟩ := exists_zeros hi hcanonical.2.2.2 hvalue
      generalize (Magnitude.ofDyadic m (-d)).floor = n at hmantissa
      subst hmantissa
      exact ⟨s, .positive hx⟩
    · cases h

/-- Rounding a whole number that fits into a mantissa writes zeros behind it. -/
theorem round_of_isCanonical {s : Sign} {n d : Nat} {hm : 0 < n * 2 ^ d}
    (h : IsCanonical (.finite s (n * 2 ^ d) (-d) hm)) :
    UnpackedFloat.round .binary64 s n 0 = .finite s (n * 2 ^ d) (-d) hm := by
  have htotal : totalExponent n 0 = totalExponent (n * 2 ^ d * 2 ^ 0) (-d - (0 : Nat)) := by
    unfold totalExponent
    rw [pow_zero, mul_one, log2_shift (Nat.pos_of_mul_pos_right hm)]
    omega
  have hamount : ((0 : Int) - -d).toNat = d := by omega
  have hexact := roundWithAccuracy_of_isCanonical h 0
  unfold UnpackedFloat.round decreaseExponent
  dsimp only
  rw [htotal, targetExponent_of_isCanonical h 0, hamount, Nat.shiftLeft_eq]
  simpa using hexact

/-- The natural number is read as the double with its canonical parts. -/
theorem unpack_ofNat {n d : Nat} {hm : 0 < n * 2 ^ d}
    (h : IsCanonical (.finite .positive (n * 2 ^ d) (-d) hm)) (hn : n < 2 ^ 53) :
    n.toUInt64.toFloat.toModel.unpack = .finite .positive (n * 2 ^ d) (-d) hm := by
  have hpositive : 0 < n := Nat.pos_of_mul_pos_right hm
  have hvalue : n.toUInt64.toNat = n := Nat.mod_eq_of_lt (by omega)
  have hnormal : UnpackedFloat.normalize .binary64 (n : Int) 0 .positive =
      UnpackedFloat.round .binary64 .positive n 0 := by
    have horder : compare (n : Int) 0 = .gt := compare_gt_iff_gt.mpr (by omega)
    simp only [UnpackedFloat.normalize, horder, Int.toNat_natCast]
  show unpack .binary64 (UnpackedFloat.pack .binary64
    (UnpackedFloat.normalize .binary64 (n.toUInt64.toNat : Int) 0 .positive)) = _
  rw [hvalue, hnormal, round_of_isCanonical h]
  exact unpack_pack h

theorem unpack_one :
    Float.exactlyRepresentablePowersOfTen[0].toModel.unpack =
      .finite .positive (2 ^ 52) (-52) (by decide) := rfl

section

variable {x : Float} {s : Sign} {n : Nat}

/-- The digits of a whole number are read as its magnitude. -/
theorem IsWhole.unpack_ofScientific (h : IsWhole x s n) (hn : n < 2 ^ 53) :
    (Float.ofScientific n false 0).toModel.unpack = x.toModel.unpack.abs := by
  have hproduct : Float.ofScientific n false 0 =
      n.toUInt64.toFloat * Float.exactlyRepresentablePowersOfTen[0] := by
    unfold Float.ofScientific
    rw [dif_pos ⟨hn, Nat.zero_le _⟩]
    rfl
  rw [hproduct]
  show unpack .binary64 (UnpackedFloat.pack .binary64 (mul .binary64
    n.toUInt64.toFloat.toModel.unpack _)) = _
  rw [unpack_one]
  cases h with
  | zero h =>
    rw [h]
    rfl
  | @positive _ d hm h =>
    have hcanonical : IsCanonical (.finite .positive (n * 2 ^ d) (-d) hm) := by
      have hparts : IsCanonical (.finite s (n * 2 ^ d) (-d) hm) := h ▸ isCanonical_unpack _
      exact hparts
    have hexact := roundWithAccuracy_of_isCanonical hcanonical 52
    rw [unpack_ofNat hcanonical hn, h]
    show unpack .binary64 (UnpackedFloat.pack .binary64 (roundWithAccuracy .binary64 .positive
      (n * 2 ^ d * 2 ^ 52) (-d - (52 : Nat)) .exact)) = _
    rw [hexact]
    exact unpack_pack hcanonical

/-- A whole number that fits into a mantissa is read from its sign and its digits. -/
theorem IsWhole.decimalFloat (h : IsWhole x s n) (hn : n < 2 ^ 53) :
    decimalFloat (Exact.isNegative s) n 0 = x := by
  have hmagnitude := h.unpack_ofScientific hn
  apply eq_of_unpack
  cases s with
  | positive =>
    refine hmagnitude.trans ?_
    cases h with
    | zero h => rw [h]; rfl
    | positive h => rw [h]; rfl
  | negative =>
    refine (unpack_neg _).trans ?_
    refine (congrArg UnpackedFloat.neg hmagnitude).trans ?_
    cases h with
    | zero h => rw [h]; rfl
    | positive h => rw [h]; rfl

end

end Machining.Number
