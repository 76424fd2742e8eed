import Machining.Geometry.Duration
import Machining.Proofs.Execution.Composition
import Machining.Proofs.Execution.Continuity
set_option autoImplicit false

/-!
# When durations can be estimated

Every segment of a run has a length: what an arc lacks for a circle is made up for by
its chord, and nothing else can be missing.  So an estimate fails for one reason only,
a rate that is above zero while its sixtieth is zero.  This module says so for each
function of the estimate, and for toolpaths as a whole.
-/

namespace Machining.Geometry

open Machining.Execution
open Machining.Program
open Machining.Toolpath

/-! ## Lengths -/

/-- The step fails for no other reason than that an arc makes no circle. -/
def OnlyArcFaults {α : Type} (x : Except Fault α) : Prop :=
  ∀ fault, x = .error fault → ∃ reason, fault = .arc reason

namespace OnlyArcFaults

variable {α β : Type}

theorem ok (a : α) : OnlyArcFaults (.ok a) := by
  intro fault h
  cases h

theorem arc (reason : ArcFault) : OnlyArcFaults (.error (.arc reason) : Except Fault α) := by
  intro fault h
  cases h
  exact ⟨reason, rfl⟩

theorem bind {x : Except Fault α} {f : α → Except Fault β} (hx : OnlyArcFaults x)
    (hf : ∀ a, OnlyArcFaults (f a)) : OnlyArcFaults (x >>= f) := by
  cases x with
  | error fault =>
    obtain ⟨reason, rfl⟩ := hx fault rfl
    exact arc reason
  | ok a => exact hf a

end OnlyArcFaults

/-- The map has a coordinate on each linear axis; it may lack others. -/
def HasLinearAxes (m : AddressMap) : Prop :=
  ∀ axis ∈ Axis.linear, (m.get? axis.name).isSome = true

instance (m : AddressMap) : Decidable (HasLinearAxes m) :=
  inferInstanceAs (Decidable (∀ axis ∈ Axis.linear, (m.get? axis.name).isSome = true))

/-- A position on the five axes has a coordinate on each linear one. -/
theorem hasLinearAxes {m : AddressMap} (h : HasAxes m) : HasLinearAxes m := by
  intro axis _
  obtain ⟨value, hvalue⟩ := h.exists_get axis
  exact Option.isSome_of_eq_some (AddressMap.get_eq_ok_iff.mp hvalue)

theorem HasLinearAxes.exists_get {m : AddressMap} (h : HasLinearAxes m) {axis : Axis}
    (haxis : axis ∈ Axis.linear) : ∃ value, m.get axis.name = .ok value := by
  obtain ⟨value, hvalue⟩ := Option.isSome_iff_exists.mp (h axis haxis)
  exact ⟨value, AddressMap.get_eq_ok_iff.mpr hvalue⟩

theorem get_onlyArcFaults {m : AddressMap} (h : HasLinearAxes m) {axis : Axis}
    (haxis : axis ∈ Axis.linear) : OnlyArcFaults (m.get axis.name) := by
  obtain ⟨value, hvalue⟩ := h.exists_get haxis
  rw [hvalue]
  exact .ok value

namespace Plane

theorem first_mem_linear (plane : Plane) : plane.first ∈ Axis.linear := by
  cases plane <;> decide

theorem second_mem_linear (plane : Plane) : plane.second ∈ Axis.linear := by
  cases plane <;> decide

theorem normal_mem_linear (plane : Plane) : plane.normal ∈ Axis.linear := by
  cases plane <;> decide

end Plane

theorem ofNumber_onlyArcFaults (n : Int) : OnlyArcFaults (Plane.ofNumber n) := by
  unfold Plane.ofNumber
  split
  · exact .ok _
  · exact .arc _

namespace Arc

theorem inPlane_onlyArcFaults {m : AddressMap} (h : HasLinearAxes m) (plane : Plane) :
    OnlyArcFaults (inPlane m plane) :=
  .bind (get_onlyArcFaults h plane.first_mem_linear) fun _ =>
    .bind (get_onlyArcFaults h plane.second_mem_linear) fun _ => .ok _

theorem centreByRadius_onlyArcFaults (clockwise : Bool) (radius : Float) (line : Int)
    (p q : Float × Float) : OnlyArcFaults (centreByRadius clockwise radius line p q) := by
  unfold centreByRadius
  dsimp only
  split
  · exact .arc _
  · split
    · exact .arc _
    · exact .ok _

variable {arc : Arc}

theorem centre_onlyArcFaults (hstart : HasLinearAxes arc.start)
    (hfinish : HasLinearAxes arc.finish) : OnlyArcFaults arc.centre := by
  refine .bind (inPlane_onlyArcFaults hstart _) fun p => ?_
  split
  · exact .bind (inPlane_onlyArcFaults hfinish _) fun q =>
      .bind (centreByRadius_onlyArcFaults _ _ _ p q) fun _ => .ok _
  · exact .ok _

theorem relative_onlyArcFaults {m : AddressMap} (h : HasLinearAxes m) (centre : Point)
    (plane : Plane) : OnlyArcFaults (relative m centre plane) :=
  .bind (inPlane_onlyArcFaults h plane) fun _ => .ok _

theorem sweep_onlyArcFaults (hstart : HasLinearAxes arc.start)
    (hfinish : HasLinearAxes arc.finish) (centre : Point) :
    OnlyArcFaults (arc.sweep centre) := by
  refine .bind (ofNumber_onlyArcFaults _) fun plane => ?_
  refine .bind (relative_onlyArcFaults hstart _ _) fun p => ?_
  refine .bind (relative_onlyArcFaults hfinish _ _) fun q => ?_
  dsimp only
  split
  · exact .arc _
  · exact .ok _

theorem length_onlyArcFaults (hstart : HasLinearAxes arc.start)
    (hfinish : HasLinearAxes arc.finish) : OnlyArcFaults arc.length :=
  .bind (centre_onlyArcFaults hstart hfinish) fun centre =>
    .bind (sweep_onlyArcFaults hstart hfinish centre) fun _ =>
      .bind (ofNumber_onlyArcFaults _) fun plane =>
        .bind (get_onlyArcFaults hfinish plane.normal_mem_linear) fun _ =>
          .bind (get_onlyArcFaults hstart plane.normal_mem_linear) fun _ => .ok _

end Arc

/-- The segment has what measuring it looks up: both ends on the five axes, and the hole
of a drilling cycle with its two coordinates. -/
structure IsMeasurable (g : Segment) : Prop where
  start : HasAxes g.start
  finish : HasAxes g.finish
  path : g.kind ≠ .drill →
    ∀ number hole depth retract, g.shape ≠ .drill number hole depth retract
  hole : g.kind = .drill →
    ∃ number hole depth retract, g.shape = .drill number hole depth retract ∧
      (∃ x, hole.get "x" = .ok x) ∧ ∃ y, hole.get "y" = .ok y

theorem IsMeasurable.hole_of_shape {g : Segment} (h : IsMeasurable g) {number : Int}
    {hole : AddressMap} {depth retract : Float}
    (hshape : g.shape = .drill number hole depth retract) :
    (∃ x, hole.get "x" = .ok x) ∧ ∃ y, hole.get "y" = .ok y := by
  have hkind : g.kind = .drill := by
    rcases Decidable.em (g.kind = .drill) with hkind | hkind
    · exact hkind
    · exact absurd hshape (h.path hkind _ _ _ _)
  obtain ⟨_, _, _, _, hshape', hcoordinates⟩ := h.hole hkind
  cases hshape.symm.trans hshape'
  exact hcoordinates

/-- Every segment of a run can be measured. -/
theorem runFrom_measurable {commands : List Command} {count : Nat} {s : Modal}
    (h : HasAxes s.position) :
    ∀ g ∈ (runFrom count s commands).toolpath, IsMeasurable g := by
  intro g hg
  obtain ⟨⟨hstart, hfinish⟩, _⟩ := runFrom_hasAxes commands count s h g hg
  obtain ⟨_, _, _, hmove | hcycle⟩ := isMove_or_isCycle_of_mem hg
  · exact ⟨hstart, hfinish, fun _ => hmove.shape, fun hkind => absurd hkind hmove.kind⟩
  · exact ⟨hstart, hfinish, fun hkind => absurd hcycle.kind hkind, fun _ => hcycle.shape⟩

section

variable {g : Segment}

theorem exists_drillApproach {hole : AddressMap} (hx : ∃ x, hole.get "x" = .ok x)
    (hy : ∃ y, hole.get "y" = .ok y) : ∃ length, drillApproach g hole = .ok length := by
  obtain ⟨x, hx⟩ := hx
  obtain ⟨y, hy⟩ := hy
  unfold drillApproach
  rw [hx, hy]
  exact ⟨_, rfl⟩

/-- Every measurable segment has a length. -/
theorem IsMeasurable.exists_length (h : IsMeasurable g) :
    ∃ length, (segmentLength g).1 = .ok length := by
  unfold segmentLength
  split
  · exact ⟨_, rfl⟩
  · rename_i number hole depth retract hshape
    obtain ⟨hx, hy⟩ := h.hole_of_shape hshape
    obtain ⟨length, hlength⟩ := exists_drillApproach (g := g) hx hy
    rw [hlength]
    exact ⟨_, rfl⟩
  · rename_i offsets radius plane hshape
    have honly : OnlyArcFaults (Arc.length
        ⟨g.start, g.finish, offsets, radius, plane, g.isClockwise, g.line⟩) :=
      Arc.length_onlyArcFaults (hasLinearAxes h.start) (hasLinearAxes h.finish)
    dsimp only
    split
    · exact ⟨_, rfl⟩
    · rename_i other
      generalize Arc.length _ = measured at honly other
      cases measured with
      | ok length => exact ⟨length, rfl⟩
      | error fault =>
        obtain ⟨reason, rfl⟩ := honly fault rfl
        exact absurd rfl (other reason)

end

/-! ## Durations -/

/-- A rate that vanishes: it is not zero or below, but its sixtieth is zero, so that
nothing can be divided by it. -/
def vanishes : Option Float → Bool
  | some rate => !decide (rate ≤ 0.0) && rate / 60.0 == 0.0
  | none => false

/-- The rates that the estimate of a segment divides by. -/
def rates (rapidRate : Option Float) (g : Segment) : List (Option Float) :=
  match g.kind with
  | .rapid => [rapidRate]
  | .drill => [g.feedrate, rapidRate]
  | _ => [g.feedrate]

/-- There is an estimate, unless one of the rates vanishes; then it ends in a division by
zero. -/
inductive Estimates {α : Type} (rates : List (Option Float)) : Except Fault α → Prop where
  | estimate (a : α) (h : rates.any vanishes = false) : Estimates rates (.ok a)
  | division (h : rates.any vanishes = true) : Estimates rates (.error .divisionByZero)

namespace Estimates

variable {α β : Type} {rates later : List (Option Float)} {x : Except Fault α}

theorem map (h : Estimates rates x) (f : α → β) : Estimates rates (x.map f) := by
  cases h with
  | estimate a h => exact .estimate (f a) h
  | division h => exact .division h

/-- Two estimates one after the other use the rates of both. -/
theorem bind {f : α → Except Fault β} (h : Estimates rates x)
    (hf : ∀ a, Estimates later (f a)) : Estimates (rates ++ later) (x >>= f) := by
  cases h with
  | division h =>
    refine .division ?_
    rw [List.any_append, h, Bool.true_or]
  | estimate a h =>
    have heq : (rates ++ later).any vanishes = later.any vanishes := by
      rw [List.any_append, h, Bool.false_or]
    have hlater := hf a
    show Estimates (rates ++ later) (f a)
    generalize f a = y at hlater
    cases hlater with
    | estimate b hb => exact .estimate b (heq.trans hb)
    | division hb => exact .division (heq.trans hb)

end Estimates

theorem travelTime_estimates (distance : Float) (rate : Option Float) :
    Estimates [rate] (travelTime distance rate) := by
  unfold travelTime
  split
  · exact .estimate _ rfl
  · rename_i rate
    split
    · rename_i hzero
      exact .estimate _ (by simp [vanishes, hzero])
    · rename_i hpositive
      split
      · rename_i hsixtieth
        exact .division (by simp [vanishes, hpositive, hsixtieth])
      · rename_i hsixtieth
        exact .estimate _ (by simp [vanishes, hsixtieth])

theorem lengthTime_estimates {g : Segment} (h : IsMeasurable g) (rate : Option Float) :
    Estimates [rate] (lengthTime g rate).1 := by
  obtain ⟨length, hlength⟩ := h.exists_length
  unfold lengthTime
  dsimp only
  rw [hlength]
  exact travelTime_estimates length rate

theorem drillTime_estimates {g : Segment} {hole : AddressMap} (depth retract : Float)
    (rapidRate : Option Float) (hx : ∃ x, hole.get "x" = .ok x)
    (hy : ∃ y, hole.get "y" = .ok y) :
    Estimates [g.feedrate, rapidRate] (drillTime g hole depth retract rapidRate) := by
  obtain ⟨approach, happroach⟩ := exists_drillApproach (g := g) hx hy
  unfold drillTime
  rw [happroach]
  refine Estimates.bind (travelTime_estimates _ g.feedrate) fun down => ?_
  exact (travelTime_estimates _ rapidRate).map (down + ·)

/-- A segment is estimated unless one of its rates vanishes. -/
theorem segmentTime_estimates {g : Segment} (h : IsMeasurable g)
    (rapidRate : Option Float) :
    Estimates (rates rapidRate g) (segmentTime rapidRate g).1 := by
  unfold segmentTime rates
  by_cases hrapid : g.kind = .rapid
  · rw [if_pos hrapid, hrapid]
    exact lengthTime_estimates h rapidRate
  · rw [if_neg hrapid]
    by_cases hdrill : g.kind = .drill
    · obtain ⟨number, hole, depth, retract, hshape, hx, hy⟩ := h.hole hdrill
      rw [hshape, hdrill]
      exact drillTime_estimates depth retract rapidRate hx hy
    · have htime := lengthTime_estimates h g.feedrate
      have hpath := h.path hdrill
      split
      · rename_i hkind
        exact absurd hkind hrapid
      · rename_i hkind
        exact absurd hkind hdrill
      · split
        · rename_i hshape
          exact absurd hshape (hpath _ _ _ _)
        · exact htime

theorem segmentTimes_cons (rapidRate : Option Float) (g : Segment)
    (rest : List Segment) :
    (segmentTimes rapidRate (g :: rest)).1 =
      (segmentTime rapidRate g).1 >>= fun time =>
        (segmentTimes rapidRate rest).1.map (time :: ·) := by
  rw [segmentTimes]
  split
  · rename_i htime
    rw [htime]
    rfl
  · rename_i htime
    rw [htime]
    rfl

/-- A toolpath is estimated unless a rate of one of its segments vanishes. -/
theorem segmentTimes_estimates (rapidRate : Option Float) :
    ∀ toolpath : List Segment, (∀ g ∈ toolpath, IsMeasurable g) →
      Estimates (toolpath.flatMap (rates rapidRate)) (segmentTimes rapidRate toolpath).1 := by
  intro toolpath
  induction toolpath with
  | nil => intro _; exact .estimate [] rfl
  | cons g rest ih =>
    intro h
    have hlater := ih fun g' hg' => h g' (List.mem_cons_of_mem _ hg')
    rw [List.flatMap_cons, segmentTimes_cons]
    exact (segmentTime_estimates (h g List.mem_cons_self) rapidRate).bind
      fun time => hlater.map (time :: ·)

end Machining.Geometry
