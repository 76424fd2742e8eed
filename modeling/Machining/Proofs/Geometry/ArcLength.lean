import Machining.Proofs.Geometry.Estimate
set_option autoImplicit false

/-!
# Lengths of arcs

An arc has a length if it has a centre and a sweep around it; whatever else its length
looks up is there when both ends are on the five axes.  A segment that is an arc has the
length of the arc, or else that of the chord.
-/

namespace Machining.Geometry

open Machining.Toolpath

namespace Arc

/-- The arc makes no circle: it has no centre, or no sweep around its centre. -/
def IsUnresolved (arc : Arc) : Prop :=
  ∃ fault, arc.centre = .error fault ∨
    ∃ centre, arc.centre = .ok centre ∧ arc.sweep centre = .error fault

/-- Resolving an arc is finding its centre and then the sweep around it. -/
theorem isUnresolved_iff (arc : Arc) :
    arc.IsUnresolved ↔ (arc.centre >>= arc.sweep).toOption = none := by
  unfold IsUnresolved
  cases hcentre : arc.centre with
  | error fault => simp [bind, Except.bind, Except.toOption]
  | ok centre =>
    cases hsweep : arc.sweep centre <;> simp [bind, Except.bind, Except.toOption, hsweep]

instance (arc : Arc) : Decidable arc.IsUnresolved :=
  decidable_of_iff _ arc.isUnresolved_iff.symm

variable {arc : Arc}

/-- An arc that has a sweep lies in a plane. -/
theorem exists_plane_of_sweep {centre : Point} {sweep : Sweep}
    (h : arc.sweep centre = .ok sweep) : ∃ plane, Plane.ofNumber arc.plane = .ok plane := by
  unfold Arc.sweep at h
  cases hplane : Plane.ofNumber arc.plane with
  | ok plane => exact ⟨plane, rfl⟩
  | error fault =>
    rw [hplane] at h
    cases h

/-- A resolved arc has a centre and a sweep around it. -/
theorem exists_sweep (h : ¬ arc.IsUnresolved) :
    ∃ centre sweep, arc.centre = .ok centre ∧ arc.sweep centre = .ok sweep := by
  cases hcentre : arc.centre with
  | error fault => exact absurd ⟨fault, .inl hcentre⟩ h
  | ok centre =>
    cases hsweep : arc.sweep centre with
    | error fault => exact absurd ⟨fault, .inr ⟨centre, hcentre, hsweep⟩⟩ h
    | ok sweep => exact ⟨centre, sweep, rfl, hsweep⟩

/-- An arc between positions on the linear axes has a length unless it is unresolved. -/
theorem exists_length (hstart : HasLinearAxes arc.start)
    (hfinish : HasLinearAxes arc.finish) (h : ¬ arc.IsUnresolved) :
    ∃ length, arc.length = .ok length := by
  obtain ⟨centre, sweep, hcentre, hsweep⟩ := exists_sweep h
  obtain ⟨plane, hplane⟩ := exists_plane_of_sweep hsweep
  obtain ⟨top, htop⟩ := hfinish.exists_get plane.normal_mem_linear
  obtain ⟨bottom, hbottom⟩ := hstart.exists_get plane.normal_mem_linear
  unfold Arc.length
  simp only [hcentre, hsweep, hplane, htop, hbottom, bind, Except.bind]
  exact ⟨_, rfl⟩

/-- What resolving an arc fails for, its length fails for. -/
theorem length_eq_error {fault : Fault} (h : (arc.centre >>= arc.sweep) = .error fault) :
    arc.length = .error fault := by
  unfold Arc.length
  cases hcentre : arc.centre with
  | error found =>
    rw [hcentre] at h
    cases h
    rfl
  | ok centre =>
    rw [hcentre] at h
    have hsweep : arc.sweep centre = .error fault := h
    simp only [hsweep, bind, Except.bind]

/-- An unresolved arc has no length. -/
theorem length_of_isUnresolved (h : arc.IsUnresolved) : ∃ fault, arc.length = .error fault := by
  obtain ⟨fault, hcentre | ⟨centre, hcentre, hsweep⟩⟩ := h
  · exact ⟨fault, length_eq_error (by rw [hcentre]; rfl)⟩
  · exact ⟨fault, length_eq_error (by rw [hcentre]; exact hsweep)⟩

end Arc

theorem Arc.exists_shape {g : Segment} {arc : Arc} (h : Arc.ofSegment? g = some arc) :
    ∃ offsets radius plane, g.shape = .arc offsets radius plane ∧
      arc = ⟨g.start, g.finish, offsets, radius, plane, g.isClockwise, g.line⟩ := by
  unfold Arc.ofSegment? at h
  split at h
  · rename_i offsets radius plane hshape
    cases h
    exact ⟨offsets, radius, plane, hshape, rfl⟩
  · cases h

section

variable {g : Segment} {arc : Arc} (harc : Arc.ofSegment? g = some arc)
  (hstart : HasLinearAxes arc.start) (hfinish : HasLinearAxes arc.finish)

include harc hstart hfinish

/-- A segment that is an arc has the length of the arc, and nothing is reported. -/
theorem segmentLength_of_resolved (h : ¬ arc.IsUnresolved) :
    segmentLength g = (arc.length, []) := by
  obtain ⟨length, hlength⟩ := Arc.exists_length hstart hfinish h
  obtain ⟨offsets, radius, plane, hshape, rfl⟩ := Arc.exists_shape harc
  unfold segmentLength
  rw [hshape]
  dsimp only
  rw [hlength]

/-- If the arc makes no circle, the segment has the length of the chord. -/
theorem segmentLength_of_isUnresolved (h : arc.IsUnresolved) :
    (segmentLength g).1 = .ok (distance g.start g.finish) := by
  obtain ⟨fault, hlength⟩ := Arc.length_of_isUnresolved h
  obtain ⟨reason, rfl⟩ := Arc.length_onlyArcFaults hstart hfinish fault hlength
  obtain ⟨offsets, radius, plane, hshape, rfl⟩ := Arc.exists_shape harc
  unfold segmentLength
  rw [hshape]
  dsimp only
  rw [hlength]

end

/-- A segment that is an arc has the length of the arc, or of the chord if the arc has
none. -/
theorem segmentLength_of_arc {g : Segment} {arc : Arc} (h : IsMeasurable g)
    (harc : Arc.ofSegment? g = some arc) :
    (arc.IsUnresolved → (segmentLength g).1 = .ok (distance g.start g.finish)) ∧
      (¬ arc.IsUnresolved → (segmentLength g).1 = arc.length) := by
  obtain ⟨hstart, hfinish⟩ : HasLinearAxes arc.start ∧ HasLinearAxes arc.finish := by
    obtain ⟨_, _, _, _, rfl⟩ := Arc.exists_shape harc
    exact ⟨hasLinearAxes h.start, hasLinearAxes h.finish⟩
  exact ⟨segmentLength_of_isUnresolved harc hstart hfinish,
    fun hresolved => congrArg Prod.fst (segmentLength_of_resolved harc hstart hfinish hresolved)⟩

end Machining.Geometry
