import Machining.Number.Bounds
set_option autoImplicit false

/-!
# The order of doubles

Apart from "not a number", doubles are ordered in a row: of two numbers that are not
less one than the other, each is at most the other.  So the rules that pick one of two
numbers bring a number within limits.
-/

namespace Machining.Number

open Float.Model (UnpackedFloat)

/-! ## Comparing -/

theorem sign_compare_swap (s t : UnpackedFloat.Sign) :
    compare t s = (compare s t).swap := by
  cases s <;> cases t <;> rfl

theorem magnitude_compare_swap (e f : Int) (m n : Nat) :
    (compare f e).then (compare n m) = ((compare e f).then (compare m n)).swap := by
  rw [Ordering.swap_then, ← Std.OrientedCmp.eq_swap, ← Std.OrientedCmp.eq_swap]

/-- Comparing the other way round gives the opposite. -/
theorem compare_swap (a b : UnpackedFloat) :
    b.compare a = (a.compare b).map Ordering.swap := by
  cases a with
  | notANumber => cases b <;> rfl
  | infinity s =>
    cases b with
    | notANumber => rfl
    | infinity t => exact congrArg some (sign_compare_swap s t)
    | zero t => cases s <;> rfl
    | finite t n f hn => cases s <;> rfl
  | zero s =>
    cases b with
    | notANumber => rfl
    | infinity t => cases t <;> rfl
    | zero t => rfl
    | finite t n f hn => cases t <;> rfl
  | finite s m e hm =>
    cases b with
    | notANumber => rfl
    | infinity t => cases t <;> rfl
    | zero t => cases s <;> rfl
    | finite t n f hn =>
      cases s with
      | negative =>
        cases t with
        | negative => exact congrArg (some ·.swap) (magnitude_compare_swap e f m n)
        | positive => rfl
      | positive =>
        cases t with
        | negative => rfl
        | positive => exact congrArg some (magnitude_compare_swap e f m n)

/-- Two numbers can be compared. -/
theorem exists_compare {a b : UnpackedFloat} (ha : a.isNaN = false) (hb : b.isNaN = false) :
    ∃ order, a.compare b = some order := by
  cases hcompare : a.compare b with
  | some order => exact ⟨order, rfl⟩
  | none =>
    exfalso
    unfold UnpackedFloat.compare at hcompare
    split at hcompare
    · cases ha
    · cases hb
    all_goals cases hcompare

variable {x y : Float}

theorem lt_iff : x < y ↔ x.toModel.unpack.compare y.toModel.unpack = some .lt := by
  show Float.lt x y = true ↔ _
  unfold Float.lt
  show decide (Float.Model.lt x.toModel y.toModel = true) = true ↔ _
  rw [decide_eq_true_iff]
  exact beq_iff_eq

theorem le_iff :
    x ≤ y ↔ ∃ order, x.toModel.unpack.compare y.toModel.unpack = some order ∧
      order.isLE = true := by
  show Float.le x y = true ↔ _
  unfold Float.le
  show decide (Float.Model.le x.toModel y.toModel = true) = true ↔ _
  rw [decide_eq_true_iff]
  exact Option.any_eq_true _ _

/-- "Not a number" compares with nothing. -/
theorem compare_of_isNaN {a b : UnpackedFloat} (h : a.isNaN = true ∨ b.isNaN = true) :
    a.compare b = none := by
  rcases h with ha | hb
  · cases a with
    | notANumber => rfl
    | _ => cases ha
  · cases b with
    | notANumber => cases a <;> rfl
    | _ => cases hb

theorem not_lt_of_isNaN (h : x.isNaN = true ∨ y.isNaN = true) : ¬ x < y := by
  rw [lt_iff, compare_of_isNaN h]
  intro hlt
  cases hlt

theorem isNaN_of_le (h : x ≤ y) : x.isNaN = false ∧ y.isNaN = false := by
  obtain ⟨order, horder, _⟩ := le_iff.mp h
  constructor
  · apply Bool.eq_false_iff.mpr
    intro hx
    cases (compare_of_isNaN (.inl hx)).symm.trans horder
  · apply Bool.eq_false_iff.mpr
    intro hy
    cases (compare_of_isNaN (.inr hy)).symm.trans horder

theorem le_of_lt (h : x < y) : x ≤ y :=
  le_iff.mpr ⟨.lt, lt_iff.mp h, rfl⟩

/-- One of two numbers is at most the other if it is not greater. -/
theorem le_of_not_lt (hx : x.isNaN = false) (hy : y.isNaN = false) (h : ¬ x < y) :
    y ≤ x := by
  obtain ⟨order, horder⟩ := exists_compare hx hy
  have hswap := compare_swap x.toModel.unpack y.toModel.unpack
  rw [horder] at hswap
  refine le_iff.mpr ⟨order.swap, hswap, ?_⟩
  cases order with
  | lt => exact absurd (lt_iff.mpr horder) h
  | eq => rfl
  | gt => rfl

theorem le_refl (hx : x.isNaN = false) : x ≤ x := by
  by_cases h : x < x
  · exact le_of_lt h
  · exact le_of_not_lt hx hx h

theorem not_lt_of_le (h : x ≤ y) : ¬ y < x := by
  obtain ⟨order, horder, hle⟩ := le_iff.mp h
  intro hlt
  have hswap := compare_swap x.toModel.unpack y.toModel.unpack
  rw [lt_iff.mp hlt, horder] at hswap
  cases order with
  | gt => cases hle
  | lt => cases hswap
  | eq => cases hswap

/-! ## Equal numbers -/

theorem beq_iff : (x == y) = true ↔ x.toModel.unpack.compare y.toModel.unpack = some .eq := by
  show (x.toModel.unpack.compare y.toModel.unpack == some .eq) = true ↔ _
  exact beq_iff_eq

theorem compare_self {a : UnpackedFloat} (h : a.isNaN = false) : a.compare a = some .eq := by
  obtain ⟨order, horder⟩ := exists_compare h h
  have hswap := compare_swap a a
  rw [horder] at hswap ⊢
  cases order with
  | eq => rfl
  | lt => cases hswap
  | gt => cases hswap

/-- A number equals itself, and "not a number" does not. -/
theorem beq_self_iff : (x == x) = true ↔ x.isNaN = false := by
  rw [beq_iff]
  constructor
  · intro h
    rw [Bool.eq_false_iff]
    intro hx
    cases (compare_of_isNaN (.inl hx)).symm.trans h
  · exact compare_self

theorem beq_eq_false_of_lt (h : x < y) : (x == y) = false := by
  rw [Bool.eq_false_iff]
  intro heq
  cases (lt_iff.mp h).symm.trans (beq_iff.mp heq)

theorem beq_eq_false_of_gt (h : y < x) : (x == y) = false := by
  rw [Bool.eq_false_iff]
  intro heq
  have hswap := compare_swap x.toModel.unpack y.toModel.unpack
  rw [lt_iff.mp h, beq_iff.mp heq] at hswap
  cases hswap

/-- Of two numbers that are each at most the other, neither is less. -/
theorem beq_of_le_of_le (h : x ≤ y) (h' : y ≤ x) : (x == y) = true := by
  obtain ⟨order, horder, hle⟩ := le_iff.mp h
  rw [beq_iff, horder]
  cases order with
  | eq => rfl
  | lt => exact absurd (lt_iff.mpr horder) (not_lt_of_le h')
  | gt => cases hle

/-! ## In a row -/

/-- Three integers by which numbers stand in a row: infinities at the ends and zero in the
middle, and the others by exponent and then by mantissa. -/
def rank : UnpackedFloat → Int × Int × Int
  | .infinity .negative => (-2, 0, 0)
  | .finite .negative mantissa exponent _ => (-1, -exponent, -mantissa)
  | .finite .positive mantissa exponent _ => (1, exponent, mantissa)
  | .infinity .positive => (2, 0, 0)
  | _ => (0, 0, 0)

/-- Ranks are compared from the first integer on. -/
def compareRank : Int × Int × Int → Int × Int × Int → Ordering :=
  compareLex (compareOn Prod.fst)
    (compareLex (compareOn fun r => r.2.1) (compareOn fun r => r.2.2))

instance : Std.TransCmp compareRank :=
  inferInstanceAs (Std.TransCmp (compareLex _ (compareLex _ _)))

theorem compare_neg (i j : Int) : compare (-i) (-j) = compare j i := by
  show compareOfLessAndEq (-i) (-j) = compareOfLessAndEq j i
  unfold compareOfLessAndEq
  grind

theorem compare_natCast (m n : Nat) : compare (m : Int) (n : Int) = compare m n := by
  show compareOfLessAndEq (m : Int) (n : Int) = compareOfLessAndEq m n
  unfold compareOfLessAndEq
  grind

/-- Numbers compare as their ranks do. -/
theorem compare_eq_rank {a b : UnpackedFloat} (ha : a.isNaN = false) (hb : b.isNaN = false) :
    a.compare b = some (compareRank (rank a) (rank b)) := by
  cases a with
  | notANumber => cases ha
  | infinity s =>
    cases b with
    | notANumber => cases hb
    | infinity t => cases s <;> cases t <;> rfl
    | zero t => cases s <;> rfl
    | finite t n f hn => cases s <;> cases t <;> rfl
  | zero s =>
    cases b with
    | notANumber => cases hb
    | infinity t => cases t <;> rfl
    | zero t => rfl
    | finite t n f hn => cases t <;> rfl
  | finite s m e hm =>
    cases b with
    | notANumber => cases hb
    | infinity t => cases s <;> cases t <;> rfl
    | zero t => cases s <;> rfl
    | finite t n f hn =>
      cases s with
      | negative =>
        cases t with
        | negative =>
          show some ((compare e f).then (compare m n)).swap =
            some ((compare (-e) (-f)).then (compare (-(m : Int)) (-(n : Int))))
          rw [compare_neg, compare_neg, compare_natCast, magnitude_compare_swap e f m n]
        | positive => rfl
      | positive =>
        cases t with
        | negative => rfl
        | positive =>
          show some ((compare e f).then (compare m n)) =
            some ((compare e f).then (compare (m : Int) (n : Int)))
          rw [compare_natCast]

theorem le_iff_rank (hx : x.isNaN = false) (hy : y.isNaN = false) :
    x ≤ y ↔ (compareRank (rank x.toModel.unpack) (rank y.toModel.unpack)).isLE = true := by
  rw [le_iff, compare_eq_rank hx hy]
  constructor
  · rintro ⟨order, horder, hle⟩
    cases horder
    exact hle
  · intro hle
    exact ⟨_, rfl, hle⟩

theorem le_trans {z : Float} (h : x ≤ y) (h' : y ≤ z) : x ≤ z := by
  obtain ⟨hx, hy⟩ := isNaN_of_le h
  obtain ⟨_, hz⟩ := isNaN_of_le h'
  rw [le_iff_rank hx hy] at h
  rw [le_iff_rank hy hz] at h'
  rw [le_iff_rank hx hz]
  exact Std.TransCmp.isLE_trans h h'

theorem lt_trans {z : Float} (h : x < y) (h' : y < z) : x < z := by
  have hx : x.isNaN = false := (isNaN_of_le (le_of_lt h)).1
  have hz : z.isNaN = false := (isNaN_of_le (le_of_lt h')).2
  apply Decidable.byContradiction
  intro hnot
  have hzy : z ≤ y := le_trans (le_of_not_lt hx hz hnot) (le_of_lt h)
  exact not_lt_of_le hzy h'

/-! ## Limits -/

/-- A number is brought within limits that are in order. -/
theorem clip_mem {low high : Float} (hlow : low.isNaN = false) (hhigh : high.isNaN = false)
    (hle : low ≤ high) (hx : x.isNaN = false) :
    low ≤ clip low high x ∧ clip low high x ≤ high := by
  unfold clip
  rw [if_neg (Bool.eq_false_iff.mp hlow), if_neg (Bool.eq_false_iff.mp hhigh)]
  -- The number after the first rule, which brings it above the low limit.
  obtain ⟨raised, hraised, hnumber, habove⟩ : ∃ raised,
      keepUnlessGreater x low = raised ∧ raised.isNaN = false ∧ low ≤ raised := by
    refine ⟨_, rfl, ?_⟩
    unfold keepUnlessGreater
    split
    · exact ⟨hlow, le_refl hlow⟩
    · rename_i hnot
      exact ⟨hx, le_of_not_lt hx hlow hnot⟩
  rw [hraised]
  unfold keepUnlessLess
  split
  · exact ⟨hle, le_refl hhigh⟩
  · rename_i hnot
    exact ⟨habove, le_of_not_lt hhigh hnumber hnot⟩

/-- Limits that are in order do not exclude what they bring a number to, even if it is
"not a number". -/
theorem clip_not_lt {low high : Float} (hlow : low.isNaN = false) (hhigh : high.isNaN = false)
    (hle : low ≤ high) (x : Float) :
    ¬ clip low high x < low ∧ ¬ high < clip low high x := by
  unfold clip
  rw [if_neg (Bool.eq_false_iff.mp hlow), if_neg (Bool.eq_false_iff.mp hhigh)]
  have habove : ¬ keepUnlessGreater x low < low := by
    unfold keepUnlessGreater
    split
    · exact not_lt_of_le (le_refl hlow)
    · assumption
  unfold keepUnlessLess
  split
  · exact ⟨not_lt_of_le hle, not_lt_of_le (le_refl hhigh)⟩
  · exact ⟨habove, by assumption⟩

/-- With limits that are in order it does not matter how "not a number" counts in each of
the two rules. -/
theorem clip_eq_lesser_greater {low high : Float} (hle : low ≤ high) (x : Float) :
    clip low high x = lesser (greater x low) high := by
  obtain ⟨hlow, hhigh⟩ := isNaN_of_le hle
  unfold clip lesser greater
  rw [if_neg (Bool.eq_false_iff.mp hlow), if_neg (Bool.eq_false_iff.mp hhigh)]
  by_cases hx : x.isNaN = true
  · rw [if_pos hx, if_pos hx]
    unfold keepUnlessLess keepUnlessGreater
    rw [if_neg (not_lt_of_isNaN (.inl hx)), if_neg (not_lt_of_isNaN (.inr hx))]
  · have hraised : (keepUnlessGreater x low).isNaN ≠ true := by
      unfold keepUnlessGreater
      split
      · exact Bool.eq_false_iff.mp hlow
      · exact hx
    rw [if_neg hx, if_neg (Bool.eq_false_iff.mp hlow), if_neg hraised,
      if_neg (Bool.eq_false_iff.mp hhigh)]

/-- A number that is within the limits stays when it is brought there again. -/
theorem clip_clip {low high : Float} (hlow : low.isNaN = false) (hhigh : high.isNaN = false)
    (hle : low ≤ high) (x : Float) :
    clip low high (clip low high x) = clip low high x :=
  clip_eq_self hlow hhigh (clip_not_lt hlow hhigh hle x).1 (clip_not_lt hlow hhigh hle x).2

/-- Limits that are in order change just what they exclude, and "not a number" counts as
changed. -/
theorem clip_beq_eq_false_iff {low high : Float} (hle : low ≤ high) (x : Float) :
    (clip low high x == x) = false ↔ x.isNaN = true ∨ x < low ∨ high < x := by
  obtain ⟨hlow, hhigh⟩ := isNaN_of_le hle
  by_cases hbelow : x < low
  · have hclip : clip low high x = low := by
      unfold clip keepUnlessGreater keepUnlessLess
      rw [if_neg (Bool.eq_false_iff.mp hlow), if_neg (Bool.eq_false_iff.mp hhigh),
        if_pos hbelow, if_neg (not_lt_of_le hle)]
    rw [hclip]
    exact iff_of_true (beq_eq_false_of_gt hbelow) (.inr (.inl hbelow))
  by_cases habove : high < x
  · have hclip : clip low high x = high := by
      unfold clip keepUnlessGreater keepUnlessLess
      rw [if_neg (Bool.eq_false_iff.mp hlow), if_neg (Bool.eq_false_iff.mp hhigh),
        if_neg hbelow, if_pos habove]
    rw [hclip]
    exact iff_of_true (beq_eq_false_of_lt habove) (.inr (.inr habove))
  rw [clip_eq_self hlow hhigh hbelow habove, ← Bool.not_eq_true, beq_self_iff,
    Bool.not_eq_false]
  constructor
  · exact .inl
  · rintro (hx | hx | hx)
    · exact hx
    · exact absurd hx hbelow
    · exact absurd hx habove

end Machining.Number
