import Machining.Proofs.Geometry.ArcLength
set_option autoImplicit false

/-!
# Valid arcs

Checking an arc, measuring it and drawing it each look for the centre and for the ends
around it, and each decides for itself whether there is a circle.  In a known plane they
agree: what the check accepts can be measured and drawn, and what cannot be measured is
not accepted.
-/

namespace Machining.Geometry

open Machining.Number
open Machining.Toolpath

/-! ## Positions around a centre -/

namespace HasLinearAxes

variable {m : AddressMap}

theorem get_eq_coordinate (h : HasLinearAxes m) {axis : Axis} (haxis : axis ∈ Axis.linear) :
    m.get axis.name = .ok (coordinate m axis) := by
  obtain ⟨value, hvalue⟩ := Option.isSome_iff_exists.mp (h axis haxis)
  unfold coordinate AddressMap.getD
  rw [AddressMap.get_eq_ok_iff, hvalue]
  rfl

theorem inPlane_eq (h : HasLinearAxes m) (plane : Plane) :
    Arc.inPlane m plane = .ok (coordinate m plane.first, coordinate m plane.second) := by
  unfold Arc.inPlane
  rw [h.get_eq_coordinate plane.first_mem_linear, h.get_eq_coordinate plane.second_mem_linear]
  rfl

theorem exists_relative (h : HasLinearAxes m) (centre : Point) (plane : Plane) :
    ∃ p, Arc.relative m centre plane = .ok p := by
  unfold Arc.relative
  rw [h.inPlane_eq plane]
  exact ⟨_, rfl⟩

end HasLinearAxes

/-- The three plane numbers have planes. -/
theorem Plane.exists_ofNumber {n : Int} (h : n = 17 ∨ n = 18 ∨ n = 19) :
    ∃ plane, Plane.ofNumber n = .ok plane := by
  rcases h with rfl | rfl | rfl
  · exact ⟨.xy, rfl⟩
  · exact ⟨.zx, rfl⟩
  · exact ⟨.yz, rfl⟩

namespace Arc

variable {arc : Arc}

/-! ## What the check refuses -/

section

variable {centre : Point} {plane : Plane} {p q : Float × Float}

/-- In its plane an arc has a sweep unless it starts at the centre. -/
theorem sweep_eq_error_iff (hplane : Plane.ofNumber arc.plane = .ok plane)
    (hp : relative arc.start centre plane = .ok p)
    (hq : relative arc.finish centre plane = .ok q) :
    (∃ fault, arc.sweep centre = .error fault) ↔ hypotenuse p.1 p.2 < epsilon := by
  unfold sweep
  simp only [hplane, hp, hq, bind, Except.bind]
  split
  · rename_i hnear
    exact iff_of_true ⟨_, rfl⟩ hnear
  · rename_i hfar
    exact iff_of_false (fun ⟨_, h⟩ => nomatch h) hfar

/-- An arc that starts at the centre is not valid. -/
theorem isValid_of_near (hcentre : arc.centre = .ok centre)
    (hplane : Plane.ofNumber arc.plane = .ok plane)
    (hp : relative arc.start centre plane = .ok p)
    (hq : relative arc.finish centre plane = .ok q)
    (hnear : hypotenuse p.1 p.2 < epsilon) : arc.isValid = .ok false := by
  unfold isValid
  rw [hcentre]
  simp only [hplane, hp, hq, bind, Except.bind, if_pos hnear]
  rfl

end

/-- An arc that no centre is found for is not valid. -/
theorem isValid_of_centre_eq_error {reason : ArcFault} (h : arc.centre = .error (.arc reason)) :
    arc.isValid = .ok false := by
  unfold isValid
  rw [h]

/-- In a known plane an arc that makes no circle is not valid, and checking it does not
fail. -/
theorem isValid_of_isUnresolved (hplane : ∃ plane, Plane.ofNumber arc.plane = .ok plane)
    (hstart : HasLinearAxes arc.start) (hfinish : HasLinearAxes arc.finish)
    (h : arc.IsUnresolved) : arc.isValid = .ok false := by
  obtain ⟨fault, hcentre | ⟨centre, hcentre, hsweep⟩⟩ := h
  · obtain ⟨reason, rfl⟩ := centre_onlyArcFaults hstart hfinish fault hcentre
    exact isValid_of_centre_eq_error hcentre
  · obtain ⟨plane, hplane⟩ := hplane
    obtain ⟨p, hp⟩ := hstart.exists_relative centre plane
    obtain ⟨q, hq⟩ := hfinish.exists_relative centre plane
    exact isValid_of_near hcentre hplane hp hq
      ((sweep_eq_error_iff hplane hp hq).mp ⟨fault, hsweep⟩)

/-! ## What can be drawn -/

/-- Counting chords fails for reasons that have nothing to do with the arc. -/
theorem chordCount_ne_arc (angle : Float) (rate : SampleRate) (reason : ArcFault) :
    chordCount angle rate ≠ .error (.arc reason) := by
  have hrate : rate.toFloat ≠ .error (.arc reason) := by
    unfold SampleRate.toFloat doubleOfInteger
    split
    · dsimp only
      split <;> exact fun h => nomatch h
    · exact fun h => nomatch h
  unfold chordCount
  cases hperTurn : rate.toFloat with
  | error fault =>
    intro h
    cases h
    exact hrate hperTurn
  | ok perTurn =>
    simp only [bind, Except.bind]
    split <;> exact fun h => nomatch h

/-- An arc that makes a circle is drawn, as far as the arc is concerned. -/
theorem points_ne_arc (hstart : HasLinearAxes arc.start) (hfinish : HasLinearAxes arc.finish)
    (h : ¬ arc.IsUnresolved) (rate : SampleRate) (reason : ArcFault) :
    arc.points rate ≠ .error (.arc reason) := by
  obtain ⟨centre, sweep, hcentre, hsweep⟩ := exists_sweep h
  obtain ⟨plane, hplane⟩ := exists_plane_of_sweep hsweep
  obtain ⟨top, htop⟩ := hfinish.exists_get plane.normal_mem_linear
  obtain ⟨bottom, hbottom⟩ := hstart.exists_get plane.normal_mem_linear
  obtain ⟨x, hx⟩ := hfinish.exists_get (by decide : Axis.x ∈ Axis.linear)
  obtain ⟨y, hy⟩ := hfinish.exists_get (by decide : Axis.y ∈ Axis.linear)
  obtain ⟨z, hz⟩ := hfinish.exists_get (by decide : Axis.z ∈ Axis.linear)
  simp only [Axis.name] at hx hy hz
  unfold points
  cases hcount : chordCount sweep.angle rate with
  | error fault =>
    simp only [hcentre, hsweep, hplane, hcount, bind, Except.bind]
    intro heq
    cases heq
    exact chordCount_ne_arc _ _ _ hcount
  | ok n =>
    simp only [hcentre, hsweep, hplane, hcount, htop, hbottom, hx, hy, hz, bind, Except.bind]
    exact fun heq => nomatch heq

end Arc

/-- In a known plane, an arc that the check accepts has a centre and a length, which is that
of its segment, and drawing it finds no fault with the arc.  An arc whose centre or length
cannot be found is refused by the check, without a fault, and its segment has the length of
the chord. -/
theorem valid_arcs_are_measured_and_drawn {g : Segment} {arc : Arc}
    (harc : Arc.ofSegment? g = some arc)
    (hplane : arc.plane = 17 ∨ arc.plane = 18 ∨ arc.plane = 19)
    (hstart : HasLinearAxes arc.start) (hfinish : HasLinearAxes arc.finish) :
    (arc.isValid = .ok true →
      (∃ centre, arc.centre = .ok centre) ∧
      (∃ length, arc.length = .ok length ∧ segmentLength g = (.ok length, [])) ∧
      ∀ rate reason, arc.points rate ≠ .error (.arc reason)) ∧
    ∀ reason, arc.centre = .error (.arc reason) ∨ arc.length = .error (.arc reason) →
      arc.isValid = .ok false ∧ (segmentLength g).1 = .ok (distance g.start g.finish) := by
  have hrefused := Arc.isValid_of_isUnresolved (Plane.exists_ofNumber hplane) hstart hfinish
  constructor
  · intro hvalid
    have hresolved : ¬ arc.IsUnresolved := by
      intro h
      rw [hrefused h] at hvalid
      cases hvalid
    obtain ⟨length, hlength⟩ := Arc.exists_length hstart hfinish hresolved
    have hsegment := segmentLength_of_resolved harc hstart hfinish hresolved
    rw [hlength] at hsegment
    refine ⟨?_, ⟨length, hlength, hsegment⟩,
      Arc.points_ne_arc hstart hfinish hresolved⟩
    cases hcentre : arc.centre with
    | error fault => exact absurd ⟨fault, .inl hcentre⟩ hresolved
    | ok centre => exact ⟨centre, rfl⟩
  · intro reason hfault
    have hunresolved : arc.IsUnresolved := by
      rcases hfault with hcentre | hlength
      · exact ⟨_, .inl hcentre⟩
      · apply Decidable.byContradiction
        intro hresolved
        obtain ⟨length, hlength'⟩ := Arc.exists_length hstart hfinish hresolved
        cases hlength'.symm.trans hlength
    exact ⟨hrefused hunresolved, segmentLength_of_isUnresolved harc hstart hfinish hunresolved⟩

theorem eq_ok_of_toOption {α : Type} {x : Except Fault α} {a : α} (h : x.toOption = some a) :
    x = .ok a := by
  cases x with
  | error fault => cases h
  | ok b => exact congrArg Except.ok (Option.some.inj h)

/-- A segment with the path of an arc. -/
def Arc.toSegment (arc : Arc) (feedrate : Float) : Segment :=
  { kind := if arc.clockwise then .clockwiseArc else .counterclockwiseArc
    start := arc.start
    finish := arc.finish
    shape := .arc arc.offsets arc.radius arc.plane
    feedrate := some feedrate
    line := arc.line }

theorem Arc.ofSegment?_toSegment (arc : Arc) (feedrate : Float) :
    Arc.ofSegment? (arc.toSegment feedrate) = some arc := by
  obtain ⟨start, finish, offsets, radius, plane, clockwise, line⟩ := arc
  cases clockwise <;> rfl

/-- A quarter turn downwards, given by its centre. -/
def quarterTurn : Arc :=
  { start := ⟨[("x", 0.0), ("y", 0.0), ("z", 0.0)]⟩
    finish := ⟨[("x", 10.0), ("y", 10.0), ("z", -2.0)]⟩
    offsets := ⟨[("i", 10.0)]⟩
    radius := none
    plane := 17
    clockwise := true
    line := 1 }

/-- An arc whose radius does not reach from one end to the other. -/
def shortReach : Arc :=
  { start := ⟨[("x", 0.0), ("y", 0.0), ("z", 0.0)]⟩
    finish := ⟨[("x", 10.0), ("y", 0.0), ("z", 0.0)]⟩
    offsets := {}
    radius := some 4.0
    plane := 18
    clockwise := false
    line := 2 }

/-- The quarter turn is accepted and has the length of its arc; the other arc is refused and
has that of its chord. -/
theorem valid_arcs_are_measured_and_drawn_apart :
    (quarterTurn.isValid = .ok true ∧ ∃ length, quarterTurn.length = .ok length ∧
      segmentLength (quarterTurn.toSegment 100.0) = (.ok length, [])) ∧
    ∃ reason, shortReach.length = .error (.arc reason) ∧ shortReach.isValid = .ok false ∧
      (segmentLength (shortReach.toSegment 100.0)).1 =
        .ok (distance shortReach.start shortReach.finish) := by
  constructor
  · obtain ⟨haccepted, _⟩ := valid_arcs_are_measured_and_drawn
      (quarterTurn.ofSegment?_toSegment 100.0) (.inl rfl) (by decide) (by decide)
    have hvalid : quarterTurn.isValid = .ok true := eq_ok_of_toOption (by decide +kernel)
    exact ⟨hvalid, (haccepted hvalid).2.1⟩
  · obtain ⟨_, hrefused⟩ := valid_arcs_are_measured_and_drawn
      (shortReach.ofSegment?_toSegment 100.0) (.inr (.inl rfl)) (by decide) (by decide)
    have hunresolved : shortReach.IsUnresolved := by decide +kernel
    obtain ⟨fault, hlength⟩ := Arc.length_of_isUnresolved hunresolved
    obtain ⟨reason, rfl⟩ := Arc.length_onlyArcFaults (by decide) (by decide) fault hlength
    exact ⟨reason, hlength, hrefused reason (.inr hlength)⟩

end Machining.Geometry
