import Machining.Proofs.Geometry.ArcValidity
set_option autoImplicit false

/-!
# Arcs in unknown planes

A plane number that has no plane is refused when the plane is looked up, but the centre of
an arc is then taken in the XY plane.  So length and points are refused in any case, while
the centre is refused only if the radius does not reach there.  The check finds the arc not
valid in that case alone: around a centre that was found it fails for the plane.
-/

namespace Machining.Geometry

open Machining.Number

/-! ## Plane numbers -/

namespace Plane

variable {n : Int}

/-- An integer stands for itself. -/
theorem ofDatum_integer (n : Int) : ofDatum (.integer n) = ofNumber n := by
  unfold ofDatum ofNumber
  simp only [numberOf, bind, Except.bind]
  cases ofNumber? n <;> rfl

theorem ofNumber?_eq_none_iff : ofNumber? n = none ↔ ¬ (n = 17 ∨ n = 18 ∨ n = 19) := by
  unfold ofNumber?
  split <;> simp_all

/-- The look-up fails for one reason only, and that names the number. -/
theorem ofNumber_eq_error_iff {fault : Fault} :
    ofNumber n = .error fault ↔
      ofNumber? n = none ∧ fault = .arc (.unknownPlane (toString n)) := by
  unfold ofNumber
  cases ofNumber? n with
  | some plane => simp
  | none => simp [eq_comm]

end Plane

/-! ## Centres -/

/-- No circle of the radius leads over a chord: its ends coincide, or it is longer than the
diameter, beyond the tolerance. -/
def MissesChord (radius chord : Float) : Prop :=
  chord < epsilon ∨ 2.0 * radius.abs * (1.0 + radiusTolerance) < chord

instance (radius chord : Float) : Decidable (MissesChord radius chord) :=
  inferInstanceAs (Decidable (_ ∨ _))

namespace Arc

/-- Straight distance between the ends as seen in a plane. -/
def chord (arc : Arc) (plane : Plane) : Float :=
  let du := coordinate arc.finish plane.first - coordinate arc.start plane.first
  let dv := coordinate arc.finish plane.second - coordinate arc.start plane.second
  (du * du + dv * dv).sqrt

/-- The arc is given by a radius that does not lead from start to end in a plane. -/
def IsOutOfReach (arc : Arc) (plane : Plane) : Prop :=
  ∃ radius ∈ arc.radius, MissesChord radius (arc.chord plane)

instance (arc : Arc) (plane : Plane) : Decidable (arc.IsOutOfReach plane) :=
  inferInstanceAs (Decidable (∃ radius ∈ arc.radius, MissesChord radius (arc.chord plane)))

theorem exists_centreByRadius_iff (clockwise : Bool) (radius : Float) (line : Int)
    (p q : Float × Float) :
    (∃ c, centreByRadius clockwise radius line p q = .ok c) ↔
      ¬ MissesChord radius
        ((q.1 - p.1) * (q.1 - p.1) + (q.2 - p.2) * (q.2 - p.2)).sqrt := by
  unfold centreByRadius MissesChord
  dsimp only
  split
  · rename_i hnear
    exact iff_of_false (fun ⟨_, h⟩ => nomatch h) (fun h => h (.inl hnear))
  · rename_i hapart
    split
    · rename_i hfar
      exact iff_of_false (fun ⟨_, h⟩ => nomatch h) (fun h => h (.inr hfar))
    · rename_i hreach
      exact iff_of_true ⟨_, rfl⟩ (not_or.mpr ⟨hapart, hreach⟩)

variable {arc : Arc}

/-- An arc has a centre unless its radius does not reach, in its own plane or else in the
XY plane. -/
theorem exists_centre_iff (hstart : HasLinearAxes arc.start)
    (hfinish : HasLinearAxes arc.finish) :
    (∃ centre, arc.centre = .ok centre) ↔
      ¬ arc.IsOutOfReach ((Plane.ofNumber? arc.plane).getD .xy) := by
  unfold centre IsOutOfReach
  -- From here on it does not matter in which plane the arc is taken.
  generalize (Plane.ofNumber? arc.plane).getD .xy = plane
  simp only [hstart.inPlane_eq, bind, Except.bind]
  cases arc.radius with
  | none => exact iff_of_true ⟨_, rfl⟩ (fun ⟨_, hradius, _⟩ => nomatch hradius)
  | some radius =>
    have hreach := exists_centreByRadius_iff arc.clockwise radius arc.line
      (coordinate arc.start plane.first, coordinate arc.start plane.second)
      (coordinate arc.finish plane.first, coordinate arc.finish plane.second)
    simp only [hfinish.inPlane_eq, Option.mem_some_iff, exists_eq_left']
    refine Iff.trans ?_ hreach
    cases centreByRadius arc.clockwise radius arc.line _ _ with
    | error fault => exact iff_of_false (fun ⟨_, h⟩ => nomatch h) (fun ⟨_, h⟩ => nomatch h)
    | ok c => exact iff_of_true ⟨_, rfl⟩ ⟨_, rfl⟩

/-- Without a plane of its own an arc has the centre that it has in the XY plane. -/
theorem centre_of_unknownPlane (h : Plane.ofNumber? arc.plane = none) :
    arc.centre = { arc with plane := 17 }.centre := by
  unfold centre
  rw [h]
  rfl

/-! ## What is refused -/

/-- Centre, length and points of the arc are refused for what the arc is, and the check
says that it is not valid. -/
structure IsRefused (arc : Arc) : Prop where
  centre : ∃ reason, arc.centre = .error (.arc reason)
  length : ∃ reason, arc.length = .error (.arc reason)
  points : ∀ rate, ∃ reason, arc.points rate = .error (.arc reason)
  check : arc.isValid = .ok false

section

variable {fault : Fault} {centre : Point}

/-- An arc without a centre is not resolved, and for the same reason. -/
theorem resolve_of_centre_eq_error (h : arc.centre = .error fault) :
    (arc.centre >>= arc.sweep) = .error fault := by
  rw [h]
  rfl

/-- An arc whose plane is refused has no sweep around its centre. -/
theorem resolve_of_unknownPlane (hcentre : arc.centre = .ok centre)
    (hplane : Plane.ofNumber arc.plane = .error fault) :
    (arc.centre >>= arc.sweep) = .error fault := by
  rw [hcentre]
  change arc.sweep centre = .error fault
  unfold sweep
  rw [hplane]
  rfl

/-- What resolving an arc fails for, drawing it fails for, at any rate. -/
theorem points_eq_error (h : (arc.centre >>= arc.sweep) = .error fault) (rate : SampleRate) :
    arc.points rate = .error fault := by
  unfold points
  cases hcentre : arc.centre with
  | error found =>
    rw [hcentre] at h
    cases h
    rfl
  | ok centre =>
    rw [hcentre] at h
    have hsweep : arc.sweep centre = .error fault := h
    simp only [hsweep, bind, Except.bind]

/-- Around a centre, the check of an arc whose plane is refused fails. -/
theorem isValid_of_unknownPlane (hcentre : arc.centre = .ok centre)
    (hplane : Plane.ofNumber arc.plane = .error fault) : arc.isValid = .error fault := by
  unfold isValid
  rw [hcentre]
  simp only [hplane, bind, Except.bind]

end

/-- An arc without a centre is refused throughout, and for the same reason. -/
theorem isRefused_of_centre_eq_error {reason : ArcFault}
    (h : arc.centre = .error (.arc reason)) : arc.IsRefused where
  centre := ⟨reason, h⟩
  length := ⟨reason, length_eq_error (resolve_of_centre_eq_error h)⟩
  points rate := ⟨reason, points_eq_error (resolve_of_centre_eq_error h) rate⟩
  check := isValid_of_centre_eq_error h

end Arc

section

variable {arc : Arc} (hstart : HasLinearAxes arc.start) (hfinish : HasLinearAxes arc.finish)

include hstart hfinish

/-- In an unknown plane the centre is refused if the radius does not reach in the XY plane,
and in no other case. -/
theorem Arc.centre_cases_of_unknownPlane (hplane : Plane.ofNumber? arc.plane = none) :
    (arc.IsOutOfReach .xy ∧ ∃ reason, arc.centre = .error (.arc reason)) ∨
      ¬ arc.IsOutOfReach .xy ∧ ∃ centre, arc.centre = .ok centre := by
  have hfound := Arc.exists_centre_iff hstart hfinish
  rw [hplane, Option.getD_none] at hfound
  cases hcentre : arc.centre with
  | ok centre => exact .inr ⟨hfound.mp ⟨centre, hcentre⟩, centre, rfl⟩
  | error fault =>
    obtain ⟨reason, rfl⟩ := Arc.centre_onlyArcFaults hstart hfinish fault hcentre
    refine .inl ⟨?_, reason, rfl⟩
    apply Decidable.byContradiction
    intro hreach
    obtain ⟨centre, hcentre'⟩ := hfound.mpr hreach
    cases hcentre.symm.trans hcentre'

/-- An arc in an unknown plane is refused throughout just if its radius does not reach in
the XY plane. -/
theorem Arc.isRefused_iff_isOutOfReach (hplane : Plane.ofNumber? arc.plane = none) :
    arc.IsRefused ↔ arc.IsOutOfReach .xy := by
  rcases Arc.centre_cases_of_unknownPlane hstart hfinish hplane with
    ⟨hbeyond, reason, hcentre⟩ | ⟨hreach, centre, hcentre⟩
  · exact iff_of_true (Arc.isRefused_of_centre_eq_error hcentre) hbeyond
  · refine iff_of_false ?_ hreach
    intro hrefused
    obtain ⟨reason, hfault⟩ := hrefused.centre
    cases hcentre.symm.trans hfault

end

/-- That an arc whose plane is refused is itself refused throughout holds of the arcs that
have a plane and of those whose radius does not reach in the XY plane, and of no other.  In
an unknown plane the centre is that in the XY plane.  If there is none, length and points
fail for the same reason; otherwise length, points and check fail as the look-up does. -/
theorem unknown_plane_refused_iff (arc : Arc) (hstart : HasLinearAxes arc.start)
    (hfinish : HasLinearAxes arc.finish) :
    ((∀ reason, Plane.ofDatum (.integer arc.plane) = .error (.arc reason) → arc.IsRefused) ↔
      (arc.plane = 17 ∨ arc.plane = 18 ∨ arc.plane = 19) ∨ arc.IsOutOfReach .xy) ∧
    ∀ reason, Plane.ofDatum (.integer arc.plane) = .error (.arc reason) →
      arc.centre = { arc with plane := 17 }.centre ∧
      (arc.IsOutOfReach .xy → ∃ found, arc.centre = .error (.arc found) ∧
        arc.length = .error (.arc found) ∧ ∀ rate, arc.points rate = .error (.arc found)) ∧
      (¬ arc.IsOutOfReach .xy → (∃ centre, arc.centre = .ok centre) ∧
        arc.length = .error (.arc reason) ∧
        (∀ rate, arc.points rate = .error (.arc reason)) ∧
        arc.isValid = .error (.arc reason)) := by
  rw [Plane.ofDatum_integer]
  constructor
  · cases hplane : Plane.ofNumber? arc.plane with
    | none =>
      have hunknown := Plane.ofNumber?_eq_none_iff.mp hplane
      have hrejected := Plane.ofNumber_eq_error_iff.mpr ⟨hplane, rfl⟩
      rw [or_iff_right hunknown, ← Arc.isRefused_iff_isOutOfReach hstart hfinish hplane]
      exact ⟨fun h => h _ hrejected, fun h _ _ => h⟩
    | some plane =>
      -- A plane that the look-up finds is never refused, and its number is one of the three.
      refine iff_of_true ?_ (.inl ?_)
      · intro reason hrejected
        obtain ⟨hnone, _⟩ := Plane.ofNumber_eq_error_iff.mp hrejected
        cases hplane.symm.trans hnone
      · apply Decidable.byContradiction
        intro hunknown
        cases hplane.symm.trans (Plane.ofNumber?_eq_none_iff.mpr hunknown)
  · intro reason hrejected
    obtain ⟨hplane, _⟩ := Plane.ofNumber_eq_error_iff.mp hrejected
    refine ⟨Arc.centre_of_unknownPlane hplane, ?_⟩
    rcases Arc.centre_cases_of_unknownPlane hstart hfinish hplane with
      ⟨hbeyond, found, hcentre⟩ | ⟨hreach, centre, hcentre⟩
    · refine ⟨fun _ => ?_, fun hreach => absurd hbeyond hreach⟩
      have hfails := Arc.resolve_of_centre_eq_error hcentre
      exact ⟨found, hcentre, Arc.length_eq_error hfails, Arc.points_eq_error hfails⟩
    · refine ⟨fun hbeyond => absurd hbeyond hreach, fun _ => ?_⟩
      have hfails := Arc.resolve_of_unknownPlane hcentre hrejected
      exact ⟨⟨centre, hcentre⟩, Arc.length_eq_error hfails, Arc.points_eq_error hfails,
        Arc.isValid_of_unknownPlane hcentre hrejected⟩

/-- The quarter turn with a number that has no plane. -/
def quarterTurnNowhere : Arc := { quarterTurn with plane := 42 }

/-- The short reach with a number that has no plane. -/
def shortReachNowhere : Arc := { shortReach with plane := -17 }

theorem ofDatum_quarterTurnNowhere :
    Plane.ofDatum (.integer quarterTurnNowhere.plane) = .error (.arc (.unknownPlane "42")) :=
  (Plane.ofDatum_integer _).trans (Plane.ofNumber_eq_error_iff.mpr ⟨rfl, by decide⟩)

theorem ofDatum_shortReachNowhere :
    Plane.ofDatum (.integer shortReachNowhere.plane) = .error (.arc (.unknownPlane "-17")) :=
  (Plane.ofDatum_integer _).trans (Plane.ofNumber_eq_error_iff.mpr ⟨rfl, by decide⟩)

/-- The short reach is refused throughout without a plane.  The quarter turn keeps the centre
that it has in the XY plane, and its check fails. -/
theorem unknown_plane_refused_iff_nowhere :
    shortReachNowhere.IsRefused ∧
    quarterTurnNowhere.centre = quarterTurn.centre ∧
    quarterTurnNowhere.isValid = .error (.arc (.unknownPlane "42")) := by
  constructor
  · obtain ⟨⟨_, hrefused⟩, _⟩ := unknown_plane_refused_iff shortReachNowhere (by decide)
      (by decide)
    have hbeyond : shortReachNowhere.IsOutOfReach .xy := by decide +kernel
    exact hrefused (.inr hbeyond) _ ofDatum_shortReachNowhere
  · obtain ⟨_, hfound⟩ := unknown_plane_refused_iff quarterTurnNowhere (by decide) (by decide)
    have hreach : ¬ quarterTurnNowhere.IsOutOfReach .xy := by decide +kernel
    obtain ⟨hcentre, _, hfails⟩ := hfound _ ofDatum_quarterTurnNowhere
    obtain ⟨_, _, _, hcheck⟩ := hfails hreach
    exact ⟨hcentre, hcheck⟩

/-- Without a plane the quarter turn has a centre, and its check fails. -/
theorem centre_found_in_unknown_plane :
    (HasLinearAxes quarterTurnNowhere.start ∧ HasLinearAxes quarterTurnNowhere.finish) ∧
    Plane.ofDatum (.integer quarterTurnNowhere.plane) = .error (.arc (.unknownPlane "42")) ∧
    quarterTurnNowhere.centre = .ok ⟨10.0, 0.0, 0.0⟩ ∧
    quarterTurnNowhere.isValid = .error (.arc (.unknownPlane "42")) ∧
    ¬ quarterTurnNowhere.IsRefused := by
  have hcentre : quarterTurnNowhere.centre = .ok ⟨10.0, 0.0, 0.0⟩ :=
    eq_ok_of_toOption (by decide +kernel)
  have hcheck : quarterTurnNowhere.isValid = .error (.arc (.unknownPlane "42")) :=
    Arc.isValid_of_unknownPlane hcentre
      ((Plane.ofDatum_integer _).symm.trans ofDatum_quarterTurnNowhere)
  refine ⟨by decide, ofDatum_quarterTurnNowhere, hcentre, hcheck, ?_⟩
  intro hrefused
  cases hcheck.symm.trans hrefused.check

end Machining.Geometry
