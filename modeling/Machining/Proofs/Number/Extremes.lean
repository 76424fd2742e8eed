import Machining.Proofs.Number.Order
set_option autoImplicit false

/-!
# The extremes of a row of numbers

The lesser and the greater of two numbers are found by one rule, towards the one end of
the order or the other.  The extreme of a row is one of its numbers and bounds them all.
How the row is cut into parts does not matter, and neither does the order in which its
numbers are met, except for the sign of a zero.
-/

namespace Machining.Number

/-- One end of the order of numbers. -/
inductive Extreme where
  | least
  | greatest
  deriving DecidableEq, Repr

/-- The same as numbers; "not a number" counts as the same as itself. -/
def SameNumber (x y : Float) : Prop := (x == y) = true ∨ x.isNaN = true ∧ y.isNaN = true

theorem sameNumber_refl (x : Float) : SameNumber x x := by
  cases hx : x.isNaN with
  | true => exact .inr ⟨hx, hx⟩
  | false => exact .inl (beq_self_iff.mpr hx)

namespace Extreme

/-- The one of two numbers that is nearer to the end; "not a number" if either is. -/
def pick : Extreme → Float → Float → Float
  | least => lesser
  | greatest => greater

/-- The first number is nearer to the end than the second. -/
def Passes : Extreme → Float → Float → Prop
  | least, x, y => x < y
  | greatest, x, y => y < x

/-- The second number is not beyond the first, seen from within. -/
def Bounds : Extreme → Float → Float → Prop
  | least, bound, x => bound ≤ x
  | greatest, bound, x => x ≤ bound

instance (side : Extreme) (x y : Float) : Decidable (side.Passes x y) :=
  match side with
  | least => inferInstanceAs (Decidable (x < y))
  | greatest => inferInstanceAs (Decidable (y < x))

variable {side : Extreme} {x y z : Float}

/-! ## Bounds -/

theorem bounds_refl (hx : x.isNaN = false) : side.Bounds x x := by
  cases side <;> exact le_refl hx

theorem Bounds.trans (h : side.Bounds x y) (h' : side.Bounds y z) : side.Bounds x z := by
  cases side with
  | least => exact le_trans h h'
  | greatest => exact le_trans h' h

theorem Passes.trans (h : side.Passes x y) (h' : side.Passes y z) : side.Passes x z := by
  cases side with
  | least => exact lt_trans h h'
  | greatest => exact lt_trans h' h

theorem Passes.bounds (h : side.Passes x y) : side.Bounds x y := by
  cases side <;> exact le_of_lt h

theorem Bounds.not_passes (h : side.Bounds x y) : ¬ side.Passes y x := by
  cases side <;> exact not_lt_of_le h

theorem bounds_of_not_passes (hx : x.isNaN = false) (hy : y.isNaN = false)
    (h : ¬ side.Passes y x) : side.Bounds x y := by
  cases side with
  | least => exact le_of_not_lt hy hx h
  | greatest => exact le_of_not_lt hx hy h

/-- Numbers that bound one another are the same. -/
theorem Bounds.sameNumber (h : side.Bounds x y) (h' : side.Bounds y x) : SameNumber x y := by
  cases side with
  | least => exact .inl (beq_of_le_of_le h h')
  | greatest => exact .inl (beq_of_le_of_le h' h)

/-! ## Two numbers -/

theorem pick_of_isNaN_left (hx : x.isNaN = true) (y : Float) : side.pick x y = x := by
  cases side <;> exact if_pos hx

theorem pick_of_isNaN_right (hx : x.isNaN = false) (hy : y.isNaN = true) :
    side.pick x y = y := by
  cases side <;> exact (if_neg (Bool.eq_false_iff.mp hx)).trans (if_pos hy)

theorem pick_of_numbers (hx : x.isNaN = false) (hy : y.isNaN = false) :
    side.pick x y = if side.Passes y x then y else x := by
  cases side <;>
    exact (if_neg (Bool.eq_false_iff.mp hx)).trans (if_neg (Bool.eq_false_iff.mp hy))

theorem pick_eq_or (side : Extreme) (x y : Float) : side.pick x y = x ∨ side.pick x y = y := by
  cases hx : x.isNaN with
  | true => exact .inl (pick_of_isNaN_left hx y)
  | false =>
    cases hy : y.isNaN with
    | true => exact .inr (pick_of_isNaN_right hx hy)
    | false =>
      rw [pick_of_numbers hx hy]
      split
      · exact .inr rfl
      · exact .inl rfl

theorem isNaN_pick (side : Extreme) (x y : Float) :
    (side.pick x y).isNaN = (x.isNaN || y.isNaN) := by
  cases hx : x.isNaN with
  | true => rw [pick_of_isNaN_left hx, hx, Bool.true_or]
  | false =>
    cases hy : y.isNaN with
    | true => rw [pick_of_isNaN_right hx hy, hy, Bool.or_true]
    | false =>
      rcases pick_eq_or side x y with h | h
      · rw [h, hx, Bool.or_self]
      · rw [h, hy, Bool.or_self]

/-- What is picked of two numbers bounds both. -/
theorem pick_bounds (side : Extreme) (hx : x.isNaN = false) (hy : y.isNaN = false) :
    side.Bounds (side.pick x y) x ∧ side.Bounds (side.pick x y) y := by
  rw [pick_of_numbers hx hy]
  split
  · rename_i hpasses
    exact ⟨hpasses.bounds, bounds_refl hy⟩
  · rename_i hnot
    exact ⟨bounds_refl hx, bounds_of_not_passes hx hy hnot⟩

/-- Of three numbers the first of those nearest to the end is picked, in whichever order
they are paired. -/
theorem pick_assoc_of_numbers (hx : x.isNaN = false) (hy : y.isNaN = false)
    (hz : z.isNaN = false) : side.pick (side.pick x y) z = side.pick x (side.pick y z) := by
  by_cases hyx : side.Passes y x
  · have hxy : side.pick x y = y := (pick_of_numbers hx hy).trans (if_pos hyx)
    by_cases hzy : side.Passes z y
    · have hyz : side.pick y z = z := (pick_of_numbers hy hz).trans (if_pos hzy)
      have hxz : side.pick x z = z := (pick_of_numbers hx hz).trans (if_pos (hzy.trans hyx))
      rw [hxy, hyz, hxz]
    · have hyz : side.pick y z = y := (pick_of_numbers hy hz).trans (if_neg hzy)
      rw [hxy, hyz, hxy]
  · have hxy : side.pick x y = x := (pick_of_numbers hx hy).trans (if_neg hyx)
    by_cases hzy : side.Passes z y
    · have hyz : side.pick y z = z := (pick_of_numbers hy hz).trans (if_pos hzy)
      rw [hxy, hyz]
    · have hyz : side.pick y z = y := (pick_of_numbers hy hz).trans (if_neg hzy)
      have hbounds : side.Bounds x z :=
        (bounds_of_not_passes hx hy hyx).trans (bounds_of_not_passes hy hz hzy)
      have hxz : side.pick x z = x :=
        (pick_of_numbers hx hz).trans (if_neg hbounds.not_passes)
      rw [hxy, hyz, hxy, hxz]

/-- The first that is not a number is picked before any number. -/
theorem pick_assoc (side : Extreme) (x y z : Float) :
    side.pick (side.pick x y) z = side.pick x (side.pick y z) := by
  cases hx : x.isNaN with
  | true => rw [pick_of_isNaN_left hx, pick_of_isNaN_left hx, pick_of_isNaN_left hx]
  | false =>
    cases hy : y.isNaN with
    | true =>
      rw [pick_of_isNaN_right hx hy, pick_of_isNaN_left hy, pick_of_isNaN_right hx hy]
    | false =>
      cases hz : z.isNaN with
      | true =>
        have hxy : (side.pick x y).isNaN = false := by rw [isNaN_pick, hx, hy]; rfl
        rw [pick_of_isNaN_right hxy hz, pick_of_isNaN_right hy hz, pick_of_isNaN_right hx hz]
      | false => exact pick_assoc_of_numbers hx hy hz

/-! ## A row of numbers -/

theorem isNaN_foldl_pick (side : Extreme) (x : Float) (row : List Float) :
    (row.foldl side.pick x).isNaN = (x :: row).any Float.isNaN := by
  induction row generalizing x with
  | nil => exact (Bool.or_false _).symm
  | cons y rest ih =>
    rw [List.foldl_cons, ih, List.any_cons, List.any_cons, List.any_cons, isNaN_pick,
      Bool.or_assoc]

/-- The extreme of a row is one of its numbers. -/
theorem foldl_pick_mem (side : Extreme) (x : Float) (row : List Float) :
    row.foldl side.pick x ∈ x :: row := by
  induction row generalizing x with
  | nil => exact List.mem_cons_self
  | cons y rest ih =>
    rw [List.foldl_cons]
    rcases List.mem_cons.mp (ih (side.pick x y)) with hpicked | hrest
    · rw [hpicked]
      rcases pick_eq_or side x y with h | h
      · rw [h]
        exact List.mem_cons_self
      · rw [h]
        exact List.mem_cons_of_mem _ List.mem_cons_self
    · exact List.mem_cons_of_mem _ (List.mem_cons_of_mem _ hrest)

/-- The extreme of a row bounds all its numbers. -/
theorem foldl_pick_bounds (side : Extreme) {row : List Float}
    (h : ∀ v ∈ x :: row, v.isNaN = false) :
    ∀ v ∈ x :: row, side.Bounds (row.foldl side.pick x) v := by
  induction row generalizing x with
  | nil =>
    intro v hv
    rw [List.mem_singleton.mp hv]
    exact bounds_refl (h x List.mem_cons_self)
  | cons y rest ih =>
    have hx : x.isNaN = false := h x List.mem_cons_self
    have hy : y.isNaN = false := h y (List.mem_cons_of_mem _ List.mem_cons_self)
    obtain ⟨hbx, hby⟩ := pick_bounds side hx hy
    have hnumbers : ∀ v ∈ side.pick x y :: rest, v.isNaN = false := by
      intro v hv
      rcases List.mem_cons.mp hv with rfl | hv
      · rw [isNaN_pick, hx, hy]
        rfl
      · exact h v (List.mem_cons_of_mem _ (List.mem_cons_of_mem _ hv))
    have hall := ih hnumbers
    have hpicked := hall _ List.mem_cons_self
    intro v hv
    rw [List.foldl_cons]
    rcases List.mem_cons.mp hv with rfl | hv
    · exact hpicked.trans hbx
    rcases List.mem_cons.mp hv with rfl | hv
    · exact hpicked.trans hby
    · exact hall v (List.mem_cons_of_mem _ hv)

/-- Rows of the same numbers have the same extreme. -/
theorem foldl_pick_sameNumber {row row' : List Float}
    (h : ∀ v, v ∈ x :: row ↔ v ∈ y :: row') :
    SameNumber (row.foldl side.pick x) (row'.foldl side.pick y) := by
  have hany : (x :: row).any Float.isNaN = (y :: row').any Float.isNaN := by
    rw [Bool.eq_iff_iff, List.any_eq_true, List.any_eq_true]
    simp only [h]
  cases hnan : (x :: row).any Float.isNaN with
  | true => exact .inr ⟨(isNaN_foldl_pick ..).trans hnan,
      (isNaN_foldl_pick ..).trans (hany.symm.trans hnan)⟩
  | false =>
    have hnumbers : ∀ v ∈ x :: row, v.isNaN = false := by
      intro v hv
      exact Bool.eq_false_iff.mpr (List.any_eq_false.mp hnan v hv)
    have hnumbers' : ∀ v ∈ y :: row', v.isNaN = false :=
      fun v hv => hnumbers v ((h v).mpr hv)
    -- Each extreme is a number of the other row.
    have hbounds := foldl_pick_bounds side hnumbers _
      ((h _).mpr (foldl_pick_mem side y row'))
    have hbounds' := foldl_pick_bounds side hnumbers' _
      ((h _).mp (foldl_pick_mem side x row))
    exact hbounds.sameNumber hbounds'

end Extreme

end Machining.Number
