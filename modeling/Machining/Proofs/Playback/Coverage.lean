import Machining.Program.Reading
import Machining.Proofs.Geometry.Box
import Machining.Proofs.Playback.Playthrough
set_option autoImplicit false

/-!
# The box holds what is played

The moves of a segment and the points of its box are found by different rules: playing
looks at the end of a path only, and at the heights of a cycle in the order of its moves.
But every target of a move along a linear axis is a coordinate that the segment names,
so the box of a toolpath holds whatever playing it asks of a machine.
-/

namespace Machining.Playback

open Machining.Execution
open Machining.Geometry
open Machining.Machine
open Machining.Number
open Machining.Program
open Machining.Toolpath

/-! ## Targets -/

section

variable {g : Segment} {axis : Axis} {target : Float} {rapid : Bool}

theorem mem_coordinatesOf_of_axisMoves (hshape : ∀ number hole depth retract,
      g.shape ≠ .drill number hole depth retract)
    (h : Cue.call (.moveAxis axis target rapid) ∈ axisMoves g) :
    target ∈ coordinatesOf g axis := by
  obtain ⟨moved, _, hmove⟩ := List.mem_filterMap.mp h
  obtain ⟨finish, hfinish, heq⟩ := Option.map_eq_some_iff.mp hmove
  cases heq
  rw [coordinatesOf_path hshape, hfinish]
  exact List.mem_append_right _ List.mem_cons_self

/-- The targets of a segment's moves are coordinates of the segment. -/
theorem mem_coordinatesOf_of_movePlan
    (h : Cue.call (.moveAxis axis target rapid) ∈ (movePlan g).cues) :
    target ∈ coordinatesOf g axis := by
  unfold movePlan at h
  split at h
  · rename_i number hole depth retract hshape
    rw [coordinatesOf_cycle hshape]
    unfold drillPlan at h
    split at h
    · cases h
    rename_i x hx
    have hx : hole.get? "x" = some x := AddressMap.get_eq_ok_iff.mp hx
    dsimp only at h
    split at h
    · cases List.mem_singleton.mp h
      simp [Axis.name, hx]
    rename_i y hy
    have hy : hole.get? "y" = some y := AddressMap.get_eq_ok_iff.mp hy
    simp only [List.mem_cons, Cue.call.injEq, Call.moveAxis.injEq, List.not_mem_nil,
      or_false] at h
    rcases h with h | h | h | h | h <;> obtain ⟨rfl, rfl, _⟩ := h
    · simp [Axis.name, hx]
    · simp [Axis.name, hy]
    · simp
    · simp
    · simp
  · rename_i hshape
    exact mem_coordinatesOf_of_axisMoves hshape h

theorem not_move_of_directiveCues {present : Bool} {a : Directive} :
    Cue.call (.moveAxis axis target rapid) ∉ directiveCues present a := by
  intro h
  rcases List.mem_cons.mp h with h | h
  · cases h
  · split at h
    · have heffect := List.mem_singleton.mp h
      cases a with
      | mk effect line before => cases effect <;> cases heffect
    · cases h

/-- The moves of a plan are those of its segment; its directives ask for none. -/
theorem mem_movePlan_of_plan {p : Schedule} {present : Bool} {i : Int}
    (h : Cue.call (.moveAxis axis target rapid) ∈ (p.plan present i g).cues) :
    Cue.call (.moveAxis axis target rapid) ∈ (movePlan g).cues := by
  have hopening : Cue.call (.moveAxis axis target rapid) ∉
      p.directiveCuesAt present i ++ [playNote .trace
        (s!"Executing segment {i}: " ++ g.kind.name ++ s!" (line {g.line})")] := by
    intro h
    rcases List.mem_append.mp h with h | h
    · obtain ⟨a, _, ha⟩ := List.mem_flatMap.mp h
      exact not_move_of_directiveCues ha
    · cases List.mem_singleton.mp h
  unfold Schedule.plan at h
  dsimp only at h
  split at h
  · exact (List.mem_append.mp h).resolve_left hopening
  · exact absurd h hopening

end

/-- A recording machine shows nothing but calls that it was given. -/
theorem mem_of_calls_performFrom {changer : Bool} {call : Call} (cues : List Cue)
    (reached : AddressMap)
    (h : call ∈ (performFrom (.recorder changer) reached cues).journal.calls) :
    Cue.call call ∈ cues := by
  induction cues generalizing reached with
  | nil => cases h
  | cons cue rest ih =>
    cases cue with
    | note record => exact List.mem_cons_of_mem _ (ih reached h)
    | call first =>
      simp only [performFrom, Attachment.perform, Journal.calls, List.filterMap_append,
        List.mem_append] at h
      rcases h with h | h
      · split at h
        · cases List.mem_singleton.mp h
          exact List.mem_cons_self
        · cases h
      · exact List.mem_cons_of_mem _ (ih _ h)

/-! ## The box of a program -/

/-- The toolpath of a program has a box, provided it is not empty and its coordinates are
numbers.  Each of the six bounds is a coordinate of some segment, and whatever move along
a linear axis playing a segment asks for, with whatever directives before it, leads to
between the bounds.  A recording machine sees no other moves.  Of any toolpath the order
of the segments does not matter to the box, and the box of a concatenation is that around
the boxes of the parts that are not empty. -/
theorem box_covers_playback {commands : List Command}
    (hsome : (run {} commands).toolpath ≠ [])
    (hnumbers : ∀ g ∈ (run {} commands).toolpath, ∀ axis ∈ Axis.linear,
      ∀ v ∈ coordinatesOf g axis, v.isNaN = false) :
    let toolpath := (run {} commands).toolpath
    (∃ box, Extent.ofToolpath toolpath = .ok box ∧
      (∀ axis ∈ Axis.linear,
        (∃ g ∈ toolpath, box.low.get axis ∈ coordinatesOf g axis) ∧
        ∃ g ∈ toolpath, box.high.get axis ∈ coordinatesOf g axis) ∧
      ∀ (p : Schedule) (i : Int), ∀ g ∈ toolpath, ∀ axis ∈ Axis.linear, ∀ target rapid,
        (Cue.call (.moveAxis axis target rapid) ∈ (p.plan true i g).cues ∨
          ∃ changer, .moveAxis axis target rapid ∈
            (p.play (.recorder changer) i g).1.journal.calls) →
        box.low.get axis ≤ target ∧ target ≤ box.high.get axis) ∧
    (∀ (toolpath order : List Segment) (box : Extent), order.Perm toolpath →
      Extent.ofToolpath toolpath = .ok box →
      ∃ box', Extent.ofToolpath order = .ok box' ∧ box.SameBounds box') ∧
    ∀ parts : List (List Segment),
      Extent.ofToolpath parts.flatten =
        ((parts.filter fun part => !part.isEmpty).mapM Extent.ofToolpath).map
          Extent.around := by
  intro toolpath
  obtain ⟨box, hbox⟩ : ∃ box, Extent.ofToolpath toolpath = .ok box :=
    Extent.exists_ofToolpath (runFrom_measurable zeroPosition_hasAxes)
  refine ⟨⟨box, hbox, ?_, ?_⟩, ?_, Extent.ofToolpath_flatten⟩
  · intro axis haxis
    exact ⟨Extent.bound_mem hbox hsome haxis .least,
      Extent.bound_mem hbox hsome haxis .greatest⟩
  · intro p i g hg axis haxis target rapid hasked
    have hplan : Cue.call (.moveAxis axis target rapid) ∈ (p.plan true i g).cues := by
      rcases hasked with hplan | ⟨changer, hcalls⟩
      · exact hplan
      · exact mem_of_calls_performFrom _ _ hcalls
    have htarget : target ∈ coordinatesOf g axis :=
      mem_coordinatesOf_of_movePlan (mem_movePlan_of_plan hplan)
    have hbounds := Extent.bound_bounds hbox haxis
      (fun g hg v hv => hnumbers g hg axis haxis v hv) hg htarget
    exact ⟨hbounds .least, hbounds .greatest⟩
  · intro toolpath order box horder hbox
    exact Extent.ofToolpath_congr hbox fun g => horder.symm.mem_iff

/-- A program with a path, an arc and two cycles, one of which drills upwards: its depth is
the top of the box, and its retract height the bottom. -/
theorem box_covers_playback_drilling_upwards :
    let commands :=
      (readText "T2\nG1 X10 Y-5 Z2 F100\nG81 X-3 Y1 Z-8 R4\nG2 X5 I1\nG82 Y3 Z6 R-9").1.commands
    let toolpath := (run {} commands).toolpath
    let p : Schedule := ⟨(run {} commands).directives, toolpath.length⟩
    let box : Extent := ⟨⟨-3.0, -5.0, -9.0⟩, ⟨10.0, 3.0, 6.0⟩⟩
    toolpath ≠ [] ∧
      (∀ g ∈ toolpath, ∀ axis ∈ Axis.linear, ∀ v ∈ coordinatesOf g axis, v.isNaN = false) ∧
      Extent.ofToolpath toolpath = .ok box ∧
      (∀ i : Nat, ∀ g ∈ toolpath, ∀ target rapid,
        .moveAxis .z target rapid ∈ (p.play (.recorder true) i g).1.journal.calls →
        -9.0 ≤ target ∧ target ≤ 6.0) ∧
      ∃ box', Extent.ofToolpath toolpath.reverse = .ok box' ∧ box.SameBounds box' := by
  intro commands toolpath p box
  have hsome : toolpath ≠ [] := by decide +kernel
  have hnumbers : ∀ g ∈ toolpath, ∀ axis ∈ Axis.linear, ∀ v ∈ coordinatesOf g axis,
      v.isNaN = false := by decide +kernel
  have hbox : (Extent.ofToolpath toolpath).toOption = some box := by decide +kernel
  obtain ⟨⟨found, hfound, _, hplayed⟩, horder, _⟩ := box_covers_playback hsome hnumbers
  have heq : found = box := Option.some.inj ((congrArg Except.toOption hfound).symm.trans hbox)
  subst heq
  refine ⟨hsome, hnumbers, hfound, ?_, ?_⟩
  · intro i g hg target rapid hcalls
    exact hplayed p i g hg .z (by decide) target rapid (.inr ⟨true, hcalls⟩)
  · exact horder toolpath toolpath.reverse box toolpath.reverse_perm hfound

end Machining.Playback
