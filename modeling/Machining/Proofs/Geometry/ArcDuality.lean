import Machining.Proofs.Geometry.ArcValidity
import Machining.Proofs.Number.Representation
set_option autoImplicit false

/-!
# Radius and direction

A negative radius selects the longer arc, and turning the other way round exchanges the
two.  So an arc with a radius has the centre of the arc that runs the other way with the
opposite radius, or neither has a centre.  Only the sign of the radius is at work here:
negation is exact, so its square and its magnitude are the same.
-/

namespace Machining.Geometry

open Machining.Number

/-! ## Steps that end alike -/

/-- Two steps end alike: both in the same way, or both with the finding that an arc makes
no circle. -/
def EndAlike {α : Type} (x y : Except Fault α) : Prop :=
  x = y ∨ ∃ reason reason', x = .error (.arc reason) ∧ y = .error (.arc reason')

namespace EndAlike

variable {α β : Type} {x y : Except Fault α}

theorem refl (x : Except Fault α) : EndAlike x x := .inl rfl

theorem bind {f g : α → Except Fault β} (h : EndAlike x y) (hfg : ∀ a, EndAlike (f a) (g a)) :
    EndAlike (x >>= f) (y >>= g) := by
  rcases h with rfl | ⟨reason, reason', rfl, rfl⟩
  · cases x with
    | error fault => exact .inl rfl
    | ok a => exact hfg a
  · exact .inr ⟨reason, reason', rfl, rfl⟩

end EndAlike

namespace Arc

/-! ## Centres -/

/-- The opposite radius, the other way round, has the centre on the same side. -/
theorem side_neg {radius : Float} (h : radius < 0.0 ∨ 0.0 < radius) :
    side false (-radius) = side true radius := by
  unfold side
  dsimp only
  rcases h with hbelow | habove
  · have hnot : ¬ -radius < 0.0 := fun h => not_lt_of_le (le_of_lt hbelow) (neg_lt_zero_iff.mp h)
    rw [if_neg hnot, if_pos hbelow]
    decide
  · have hnot : ¬ radius < 0.0 := not_lt_of_le (le_of_lt habove)
    rw [if_pos (neg_lt_zero_iff.mpr habove), if_neg hnot]
    rfl

/-- A radius of zero reaches nothing, so what passes both tests is no distance at all. -/
theorem isNaN_chord {radius chord : Float} (hzero : radius.abs = 0.0)
    (hnear : ¬ chord < epsilon)
    (hreach : ¬ 2.0 * radius.abs * (1.0 + radiusTolerance) < chord) : chord.isNaN = true := by
  have hbelow : 2.0 * (0.0 : Float) * (1.0 + radiusTolerance) < epsilon := by decide +kernel
  rw [hzero] at hreach
  rw [← Bool.not_eq_false]
  intro hnumber
  have hle : epsilon ≤ chord := le_of_not_lt hnumber (by decide) hnear
  have hle' : chord ≤ 2.0 * (0.0 : Float) * (1.0 + radiusTolerance) :=
    le_of_not_lt (by decide +kernel) hnumber hreach
  exact not_lt_of_le (le_trans hle hle') hbelow

theorem centreByRadius_neg {radius : Float} (h : radius.isNaN = false) (line : Int)
    (p q : Float × Float) :
    EndAlike (centreByRadius true radius line p q) (centreByRadius false (-radius) line p q) := by
  unfold centreByRadius
  dsimp only
  rw [abs_neg, neg_mul_neg]
  generalize ((q.1 - p.1) * (q.1 - p.1) + (q.2 - p.2) * (q.2 - p.2)).sqrt = chord
  by_cases hnear : chord < epsilon
  · rw [if_pos hnear, if_pos hnear]
    exact .refl _
  rw [if_neg hnear, if_neg hnear]
  by_cases hreach : 2.0 * radius.abs * (1.0 + radiusTolerance) < chord
  · rw [if_pos hreach, if_pos hreach]
    exact .inr ⟨_, _, rfl, rfl⟩
  rw [if_neg hreach, if_neg hreach]
  left
  by_cases hsign : radius < 0.0 ∨ 0.0 < radius
  · rw [side_neg hsign]
  · -- The sides differ for a radius of zero, but then both centres are undefined.
    obtain ⟨hbelow, habove⟩ := not_or.mp hsign
    have hchord := isNaN_chord (abs_eq_zero h hbelow habove) hnear hreach
    have hsame : ∀ middle offset offset' way : Float,
        middle + offset * (way / chord) = middle + offset' * (way / chord) := by
      intro middle offset offset' way
      have hway := isNaN_div_right way hchord
      exact eq_of_isNaN (isNaN_add_right _ (isNaN_mul_right _ hway))
        (isNaN_add_right _ (isNaN_mul_right _ hway))
    rw [Except.ok.injEq, Prod.mk.injEq]
    exact ⟨hsame _ _ _ _, hsame _ _ _ _⟩

/-- The arc with its centre given by a radius, in a direction. -/
def byRadius (arc : Arc) (clockwise : Bool) (radius : Float) : Arc :=
  { arc with clockwise := clockwise, radius := some radius }

section

variable (arc : Arc) {radius : Float}

theorem centre_byRadius_neg (h : radius.isNaN = false) :
    EndAlike (arc.byRadius true radius).centre (arc.byRadius false (-radius)).centre :=
  .bind (.refl _) fun p => .bind (.refl _) fun q =>
    .bind (centreByRadius_neg h arc.line p q) fun _ => .refl _

/-- Arcs between the same positions are checked alike if their centres are found alike. -/
theorem isValid_congr {arc arc' : Arc} (hstart : arc.start = arc'.start)
    (hfinish : arc.finish = arc'.finish) (hplane : arc.plane = arc'.plane)
    (h : EndAlike arc.centre arc'.centre) : arc.isValid = arc'.isValid := by
  unfold isValid
  rcases h with heq | ⟨reason, reason', hfault, hfault'⟩
  · rw [heq, hstart, hfinish, hplane]
  · rw [hfault, hfault']

end

end Arc

/-- The clockwise arc with a radius and the counterclockwise one with the opposite radius,
between the same positions, have the same centre or are both refused one for the arc they
would make, and the check has the same result for both.  Nothing else can go wrong when the
positions are on the linear axes. -/
theorem opposite_radius_keeps_centre (arc : Arc) {radius : Float} (h : radius.isNaN = false) :
    let clockwise := arc.byRadius true radius
    let counterclockwise := arc.byRadius false (-radius)
    EndAlike clockwise.centre counterclockwise.centre ∧
    clockwise.isValid = counterclockwise.isValid ∧
    (HasLinearAxes arc.start → HasLinearAxes arc.finish →
      (∃ centre, clockwise.centre = .ok centre ∧ counterclockwise.centre = .ok centre) ∨
      ∃ reason reason', clockwise.centre = .error (.arc reason) ∧
        counterclockwise.centre = .error (.arc reason')) := by
  intro clockwise counterclockwise
  have halike : EndAlike clockwise.centre counterclockwise.centre := arc.centre_byRadius_neg h
  refine ⟨halike, Arc.isValid_congr rfl rfl rfl halike, ?_⟩
  intro hstart hfinish
  rcases halike with heq | hrefused
  · cases hcentre : clockwise.centre with
    | ok centre => exact .inl ⟨centre, rfl, heq.symm.trans hcentre⟩
    | error fault =>
      have hfaults : OnlyArcFaults clockwise.centre := Arc.centre_onlyArcFaults hstart hfinish
      obtain ⟨reason, rfl⟩ := hfaults fault hcentre
      exact .inr ⟨reason, reason, rfl, heq.symm.trans hcentre⟩
  · exact .inr hrefused

/-- An arc over a chord of six. -/
def overSix : Arc :=
  { start := ⟨[("x", 0.0), ("y", 0.0), ("z", 0.0)]⟩
    finish := ⟨[("x", 6.0), ("y", 0.0), ("z", 0.0)]⟩
    offsets := {}
    radius := none
    plane := 17
    clockwise := true
    line := 1 }

/-- With a radius of five the centre is four away from the chord, and both arcs are
accepted; with a radius of two both are refused. -/
theorem opposite_radius_keeps_centre_over_six :
    (overSix.byRadius false (-5.0)).centre = .ok ⟨3.0, -4.0, 0.0⟩ ∧
    (overSix.byRadius false (-5.0)).isValid = .ok true ∧
    ∃ reason, (overSix.byRadius false (-2.0)).centre = .error (.arc reason) := by
  obtain ⟨_, hvalid, hfive⟩ := opposite_radius_keeps_centre overSix
    (by decide : (5.0 : Float).isNaN = false)
  obtain ⟨_, _, htwo⟩ := opposite_radius_keeps_centre overSix
    (by decide : (2.0 : Float).isNaN = false)
  have hcentre : (overSix.byRadius true 5.0).centre = .ok ⟨3.0, -4.0, 0.0⟩ :=
    eq_ok_of_toOption (by decide +kernel)
  have haccepted : (overSix.byRadius true 5.0).isValid = .ok true :=
    eq_ok_of_toOption (by decide +kernel)
  have hrefused : (overSix.byRadius true 2.0).centre.toOption = none := by decide +kernel
  refine ⟨?_, hvalid.symm.trans haccepted, ?_⟩
  · rcases hfive (by decide) (by decide) with ⟨centre, hclockwise, hcounter⟩ | ⟨_, _, hfault, _⟩
    · cases hcentre.symm.trans hclockwise
      exact hcounter
    · cases hcentre.symm.trans hfault
  · rcases htwo (by decide) (by decide) with ⟨centre, hclockwise, _⟩ | ⟨_, reason, _, hfault⟩
    · rw [hclockwise] at hrefused
      cases hrefused
    · exact ⟨reason, hfault⟩

end Machining.Geometry
