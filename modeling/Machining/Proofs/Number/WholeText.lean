import Machining.Number.Text
import Machining.Proofs.Number.Conversion
import Machining.Proofs.Number.WholeNumbers
set_option autoImplicit false

/-!
# Text of whole numbers

A number of significant digits is written by rounding a fraction to a decimal, leaving out
the zeros at its end and laying the rest out around the point.  A whole number that has no
more digits than that is written by its sign and its decimal digits, and a numeral at the
front of a text with these characters is read as the number.
-/

namespace Machining

open Machining.Text

/-! ## Decimal digits -/

/-- The digits of a number end in the digit of its units. -/
theorem toDigits_ten_mul_add {n digit : Nat} (hn : 0 < n) (hdigit : digit < 10) :
    Nat.toDigits 10 (10 * n + digit) = Nat.toDigits 10 n ++ [Nat.digitChar digit] := by
  rw [← Nat.toDigits_append_toDigits (by decide) hn hdigit, Nat.toDigits_of_lt_base hdigit]

theorem digitsValue_append_digit (digits : List Char) {digit : Nat} (h : digit < 10) :
    digitsValue (digits ++ [Nat.digitChar digit]) = 10 * digitsValue digits + digit := by
  unfold digitsValue
  rw [List.foldl_append, List.foldl_cons, List.foldl_nil, (digitChar_of_lt_ten digit h).2]
  rfl

/-- The digits of a number are read as the number. -/
theorem digitsValue_toDigits (n : Nat) : digitsValue (Nat.toDigits 10 n) = n := by
  induction n using Nat.strong_induction_on with
  | _ n ih =>
    by_cases hn : n < 10
    · rw [Nat.toDigits_of_lt_base hn, ← List.nil_append [_], digitsValue_append_digit _ hn]
      simp [digitsValue]
    · have hparts : n = 10 * (n / 10) + n % 10 := by omega
      rw [hparts, toDigits_ten_mul_add (by omega) (by omega),
        digitsValue_append_digit _ (by omega), ih (n / 10) (by omega)]

/-- The zeros of a power of ten stand behind the digits. -/
theorem toDigits_mul_pow {n : Nat} (hn : 0 < n) (j : Nat) :
    Nat.toDigits 10 (n * 10 ^ j) = Nat.toDigits 10 n ++ List.replicate j '0' := by
  induction j with
  | zero => rw [Nat.pow_zero, Nat.mul_one, List.replicate_zero, List.append_nil]
  | succ j ih =>
    have hnext : n * 10 ^ (j + 1) = 10 * (n * 10 ^ j) + 0 := by ring
    have hpositive : 0 < n * 10 ^ j := Nat.mul_pos hn (Nat.pow_pos (by decide))
    rw [hnext, toDigits_ten_mul_add hpositive (by decide), ih, List.append_assoc,
      List.replicate_succ']
    rfl

/-- The number of digits tells between which powers of ten a number is. -/
theorem length_toDigits_eq_iff {n k : Nat} (hn : 0 < n) :
    (Nat.toDigits 10 n).length = k + 1 ↔ 10 ^ k ≤ n ∧ n < 10 ^ (k + 1) := by
  have hmost := @Nat.length_toDigits_le_iff 10 n (k + 1) (by decide) (by omega)
  have hleast : (Nat.toDigits 10 n).length ≤ k ↔ n < 10 ^ k := by
    cases k with
    | zero =>
      have := @Nat.length_toDigits_pos 10 n
      rw [Nat.pow_zero]
      omega
    | succ k => exact Nat.length_toDigits_le_iff (by decide) (by omega)
  omega

/-! ## Whole magnitudes -/

section

variable {n d p : Nat}

/-- The lengths of numerator and denominator tell the leading power up to one. -/
theorem length_toDigits_mul (hn : 0 < n) (hd : 0 < d)
    (hlength : (Nat.toDigits 10 n).length = p + 1) :
    ((Nat.toDigits 10 (n * d)).length : Int) - (Nat.toDigits 10 d).length = p ∨
      ((Nat.toDigits 10 (n * d)).length : Int) - (Nat.toDigits 10 d).length = p + 1 := by
  obtain ⟨b, hb⟩ := Nat.exists_eq_succ_of_ne_zero (@Nat.length_toDigits_pos 10 d).ne'
  obtain ⟨c, hc⟩ := Nat.exists_eq_succ_of_ne_zero (@Nat.length_toDigits_pos 10 (n * d)).ne'
  obtain ⟨hnlow, hnhigh⟩ := (length_toDigits_eq_iff hn).mp hlength
  obtain ⟨hdlow, hdhigh⟩ := (length_toDigits_eq_iff hd).mp hb
  obtain ⟨hlow, hhigh⟩ := (length_toDigits_eq_iff (Nat.mul_pos hn hd)).mp hc
  have hleast : 10 ^ (p + b) < 10 ^ (c + 1) :=
    calc 10 ^ (p + b) = 10 ^ p * 10 ^ b := pow_add 10 p b
      _ ≤ n * d := Nat.mul_le_mul hnlow hdlow
      _ < 10 ^ (c + 1) := hhigh
  have hmost : 10 ^ c < 10 ^ (p + 1 + (b + 1)) :=
    calc 10 ^ c ≤ n * d := hlow
      _ < 10 ^ (p + 1) * 10 ^ (b + 1) := Nat.mul_lt_mul_of_lt_of_lt hnhigh hdhigh
      _ = 10 ^ (p + 1 + (b + 1)) := (pow_add 10 _ _).symm
  have hleast := (Nat.pow_lt_pow_iff_right (by decide)).mp hleast
  have hmost := (Nat.pow_lt_pow_iff_right (by decide)).mp hmost
  omega

/-- The leading power of a whole magnitude is that of the number. -/
theorem leadingPower_mul (hn : 0 < n) (hd : 0 < d)
    (hlength : (Nat.toDigits 10 n).length = p + 1) :
    Magnitude.leadingPower ⟨n * d, d⟩ = p := by
  obtain ⟨hlow, hhigh⟩ := (length_toDigits_eq_iff hn).mp hlength
  have hle : ∀ k : Nat, (Magnitude.scale ⟨1, 1⟩ k).le ⟨n * d, d⟩ = decide (10 ^ k ≤ n) := by
    intro k
    show decide (1 * Nat.pow 10 k * d ≤ n * d * (1 * Nat.pow 10 (-(k : Int)).toNat)) = _
    rw [show (-(k : Int)).toNat = 0 by omega]
    apply decide_eq_decide.mpr
    show 1 * 10 ^ k * d ≤ n * d * 1 ↔ 10 ^ k ≤ n
    rw [one_mul, mul_one, Nat.mul_le_mul_right_iff hd]
  unfold Magnitude.leadingPower
  dsimp only
  -- The lengths may be off by one, and then the comparison with the power of ten corrects it.
  rcases length_toDigits_mul hn hd hlength with hguess | hguess
  · rw [hguess, hle, if_pos (decide_eq_true hlow)]
  · rw [hguess, show (p : Int) + 1 = (p + 1 : Nat) from rfl, hle, if_neg (by simpa using hhigh)]
    omega

/-- A whole number with no more digits than are asked for is not rounded; zeros stand behind it
for the digits that it lacks. -/
theorem toSignificant_mul (hn : 0 < n) (hd : 0 < d)
    (hlength : (Nat.toDigits 10 n).length = p + 1) {count : Nat} (hcount : p < count) :
    Magnitude.toSignificant count ⟨n * d, d⟩ =
      ⟨n * 10 ^ (count - 1 - p), -((count - 1 - p : Nat) : Int)⟩ := by
  obtain ⟨j, rfl⟩ : ∃ j, count = p + 1 + j := ⟨count - p - 1, by omega⟩
  have hlast : (p : Int) - ((p + 1 + j : Nat) - 1) = -(j : Int) := by omega
  have hzeros : p + 1 + j - 1 - p = j := by omega
  unfold Magnitude.toSignificant
  rw [if_neg (Nat.mul_pos hn hd).ne', leadingPower_mul hn hd hlength, hlast, hzeros]
  dsimp only
  congr 1
  have hpowers : (-(-(j : Int))).toNat = j ∧ (- -(-(j : Int))).toNat = 0 := by omega
  unfold Magnitude.scale Magnitude.nearest
  rw [hpowers.1, hpowers.2]
  show divNearest (n * d * Nat.pow 10 j) (d * 1) = n * Nat.pow 10 j
  rw [Nat.mul_one, Nat.mul_right_comm]
  exact divNearest_mul_left _ d hd

end

/-! ## Zeros at the end -/

theorem digitsValue_zeros (k : Nat) : digitsValue (List.replicate k '0') = 0 := by
  induction k with
  | zero => rfl
  | succ k ih =>
    rw [List.replicate_succ']
    exact (digitsValue_append_digit _ (by decide : 0 < 10)).trans (by rw [ih])

theorem rdropWhile_append_replicate (digits : List Char) (j : Nat) :
    (digits ++ List.replicate j '0').rdropWhile (· == '0') = digits.rdropWhile (· == '0') := by
  induction j with
  | zero => rw [List.replicate_zero, List.append_nil]
  | succ j ih =>
    rw [List.replicate_succ', ← List.append_assoc, List.rdropWhile_concat_pos _ _ _ rfl, ih]

/-- Zeros that are left out at the end of digits can be put back. -/
theorem rdropWhile_append_zeros (digits : List Char) :
    digits.rdropWhile (· == '0') ++
      List.replicate (digits.length - (digits.rdropWhile (· == '0')).length) '0' = digits := by
  have hsplit : digits.rdropWhile (· == '0') ++ digits.rtakeWhile (· == '0') = digits :=
    List.rdropWhile_append_rtakeWhile
  have hlength := congrArg List.length hsplit
  rw [List.length_append] at hlength
  have hzeros : digits.rtakeWhile (· == '0') =
      List.replicate (digits.length - (digits.rdropWhile (· == '0')).length) '0' := by
    rw [List.eq_replicate_iff]
    refine ⟨by omega, ?_⟩
    intro c hc
    simpa using List.mem_rtakeWhile_imp hc
  rw [← hzeros]
  exact hsplit

/-- A number other than zero has a digit that is not left out. -/
theorem rdropWhile_toDigits_ne_nil {n : Nat} (hn : 0 < n) :
    (Nat.toDigits 10 n).rdropWhile (· == '0') ≠ [] := by
  intro hnil
  have hzeros := rdropWhile_append_zeros (Nat.toDigits 10 n)
  rw [hnil, List.nil_append] at hzeros
  have hvalue := digitsValue_toDigits n
  rw [← hzeros, digitsValue_zeros] at hvalue
  omega

/-! ## Text of a whole decimal -/

section

variable {n p : Nat}

theorem digits_mul_pow (hn : 0 < n) (j : Nat) (exponent : Int) :
    Decimal.digits ⟨n * 10 ^ j, exponent⟩ = (Nat.toDigits 10 n).rdropWhile (· == '0') := by
  have hkept : (Nat.toDigits 10 (n * 10 ^ j)).rdropWhile (· == '0') =
      (Nat.toDigits 10 n).rdropWhile (· == '0') := by
    rw [toDigits_mul_pow hn, rdropWhile_append_replicate]
  unfold Decimal.digits
  show (if ((Nat.toDigits 10 (n * 10 ^ j)).rdropWhile (· == '0')).isEmpty then ['0'] else
    (Nat.toDigits 10 (n * 10 ^ j)).rdropWhile (· == '0')) = _
  rw [hkept, if_neg (by simpa using rdropWhile_toDigits_ne_nil hn)]

theorem leadingPower_mul_pow (hn : 0 < n) (hlength : (Nat.toDigits 10 n).length = p + 1)
    (j : Nat) : Decimal.leadingPower ⟨n * 10 ^ j, -(j : Int)⟩ = p := by
  unfold Decimal.leadingPower
  dsimp only
  rw [if_neg (Nat.mul_pos hn (Nat.pow_pos (by decide))).ne', toDigits_mul_pow hn,
    List.length_append, List.length_replicate, hlength]
  omega

/-- A whole decimal is written by its digits where the layout has room for them. -/
theorem general_decimal_mul_pow (hn : 0 < n) (hlength : (Nat.toDigits 10 n).length = p + 1)
    (j : Nat) {count : Nat} (hcount : p < count) :
    (Layout.general count).decimal ⟨n * 10 ^ j, -(j : Int)⟩ =
      String.ofList (Nat.toDigits 10 n) := by
  have hinside : ¬ ((p : Int) < -4 ∨ (Layout.general count).exponentFrom ≤ p) := by
    show ¬ ((p : Int) < -4 ∨ (count : Int) ≤ p)
    omega
  have hzeros := rdropWhile_append_zeros (Nat.toDigits 10 n)
  have hkept := (List.rdropWhile_prefix (· == '0') (Nat.toDigits 10 n)).length_le
  unfold Layout.decimal Layout.positional
  rw [leadingPower_mul_pow hn hlength, if_neg hinside, if_neg (by omega), digits_mul_pow hn]
  dsimp only
  rw [Int.toNat_natCast, ← hlength, if_pos hkept, hzeros]
  exact String.append_empty

end

theorem general_decimal_zero {count : Nat} (hcount : 0 < count) :
    (Layout.general count).decimal ⟨0, 0⟩ = String.ofList (Nat.toDigits 10 0) := by
  have hinside : ¬ ((0 : Int) < -4 ∨ (Layout.general count).exponentFrom ≤ 0) := by
    show ¬ ((0 : Int) < -4 ∨ (count : Int) ≤ 0)
    omega
  unfold Layout.decimal
  rw [show Decimal.leadingPower ⟨0, 0⟩ = 0 from rfl, if_neg hinside]
  rfl

/-! ## Whole numbers -/

namespace Number

open Float.Model.UnpackedFloat (Sign)

section

variable {x : Float} {s : Sign} {n count : Nat}

theorem IsWhole.ofFloat (h : IsWhole x s n) :
    ∃ d : Nat, Exact.ofFloat x = .finite (Exact.isNegative s) (n * 2 ^ d) (-d) := by
  unfold Exact.ofFloat
  cases h with
  | zero h =>
    rw [h]
    exact ⟨0, rfl⟩
  | @positive _ d _ h =>
    rw [h]
    exact ⟨d, rfl⟩

/-- A whole number is written by its sign and its digits, if they are no more than are
asked for. -/
theorem IsWhole.general (h : IsWhole x s n) (hn : n < 10 ^ count) (hcount : 0 < count) :
    Number.general count x = sign (Exact.isNegative s) ++ String.ofList (Nat.toDigits 10 n) := by
  obtain ⟨d, hparts⟩ := h.ofFloat
  have hfraction : Magnitude.ofDyadic (n * 2 ^ d) (-d) = ⟨n * 2 ^ d, 2 ^ d⟩ := by
    have hpowers : (-(d : Int)).toNat = 0 ∧ (- -(d : Int)).toNat = d := by omega
    unfold Magnitude.ofDyadic
    rw [hpowers.1, hpowers.2]
    show Magnitude.mk (n * 2 ^ d * 1) (2 ^ d) = _
    rw [mul_one]
  have hpositive : 0 < 2 ^ d := Nat.two_pow_pos d
  unfold Number.general textWith
  rw [hparts]
  dsimp only
  rw [hfraction]
  congr 1
  by_cases hzero : n = 0
  · have hnumerator : n * 2 ^ d = 0 := by rw [hzero, zero_mul]
    rw [Magnitude.toSignificant, if_pos hnumerator, hzero]
    exact general_decimal_zero hcount
  · have hsome : 0 < n := Nat.pos_of_ne_zero hzero
    obtain ⟨p, hlength⟩ := Nat.exists_eq_succ_of_ne_zero (@Nat.length_toDigits_pos 10 n).ne'
    have hfits : p < count := by
      have := (Nat.length_toDigits_le_iff (by decide) hcount).mpr hn
      omega
    rw [toSignificant_mul hsome hpositive hlength hfits]
    exact general_decimal_mul_pow hsome hlength _ hfits

/-- A text that begins with a whole number, and goes on neither with a digit nor with a
point, begins with a numeral of the number. -/
theorem IsWhole.scan_general (h : IsWhole x s n) (hn : n < 10 ^ count) (hfits : n < 2 ^ 53)
    (hcount : 0 < count) {tail : List Char}
    (htail : ∀ c, tail.head? = some c → isDigit c = false ∧ c ≠ '.') :
    ∃ numeral, Numeral.scan ((Number.general count x).toList ++ tail) = some (numeral, tail) ∧
      numeral.value = x := by
  have hsign : IsSign (sign (Exact.isNegative s)).toList := by
    cases s with
    | positive => exact .inl rfl
    | negative => exact .inr (.inr rfl)
  have hdigits : AllDigits (Nat.toDigits 10 n) := by
    intro c hc
    exact isDigit_of_plain (Nat.isDigit_of_mem_toDigits (by decide) (by decide) hc)
  refine ⟨⟨(sign (Exact.isNegative s)).toList, Nat.toDigits 10 n, none⟩, ?_, ?_⟩
  · rw [h.general hn hcount, String.toList_append, String.toList_ofList, List.append_assoc]
    exact Numeral.scan_whole_apart tail hsign hdigits Nat.toDigits_ne_nil htail
  · have hminus : decide ((sign (Exact.isNegative s)).toList = ['-']) = Exact.isNegative s := by
      cases s <;> rfl
    unfold Numeral.value
    simp only [Option.getD_none, List.append_nil, hminus, digitsValue_toDigits]
    exact h.decimalFloat hfits

end

end Number

end Machining
