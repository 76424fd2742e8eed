import Machining.Program.Review
import Machining.Proofs.Execution.LastWord
import Machining.Proofs.Program.LineOrder
set_option autoImplicit false

/-!
# Review and execution

A review looks at the commands alone and keeps its own account of the spindle, by `M3`,
`M4` and `M5`; execution keeps the direction of the spindle in its state, and meets
commands that fail or that it ignores.  The two accounts agree before every command of a
program, so the review finds a rapid move just where execution meets one with the spindle
turning.  What the review says about coordinates is put apart by their order.
-/

namespace Machining.Program

/-! ## Findings in order -/

/-- The place of an axis among `X`, `Y`, `Z`, `A` and `B`. -/
def axisPlace : Axis → Nat
  | .x => 0
  | .y => 1
  | .z => 2
  | .a => 3
  | .b => 4

/-- The axis of a finding about a coordinate. -/
def Finding.axis? (f : Finding) : Option Axis :=
  match f.cause with
  | .largeCoordinate axis _ => some axis
  | .rapidWithSpindle => none

/-- One finding about a coordinate stands before another: on an earlier line, or on the
same line for an earlier axis. -/
def Finding.Precedes (f g : Finding) : Prop :=
  f.line < g.line ∨
    f.line = g.line ∧ ∃ p q, f.axis? = some p ∧ g.axis? = some q ∧ axisPlace p < axisPlace q

/-- The finding is about a parameter of the commands beyond the limit. -/
def IsOversized (limit : Float) (commands : List Command) (f : Finding) : Prop :=
  ∃ c ∈ commands, ∃ axis value,
    c.params.get? axis.letter = some value ∧ limit < value.abs ∧
      f = ⟨c.line, .largeCoordinate axis value⟩

section

variable {limit : Float} {c : Command} {f : Finding}

/-- The finding about one axis of a command, if its parameter is beyond the limit. -/
def largeCoordinate? (limit : Float) (c : Command) (axis : Axis) : Option Finding :=
  (c.params.get? axis.letter).bind fun value =>
    if limit < value.abs then some ⟨c.line, .largeCoordinate axis value⟩ else none

theorem largeCoordinate?_eq_some {axis : Axis} :
    largeCoordinate? limit c axis = some f ↔ ∃ value,
      c.params.get? axis.letter = some value ∧ limit < value.abs ∧
        f = ⟨c.line, .largeCoordinate axis value⟩ := by
  unfold largeCoordinate?
  rw [Option.bind_eq_some_iff]
  constructor
  · rintro ⟨value, hvalue, hfinding⟩
    obtain ⟨hlarge, hfinding⟩ := Option.ite_none_right_eq_some.mp hfinding
    exact ⟨value, hvalue, hlarge, (Option.some.inj hfinding).symm⟩
  · rintro ⟨value, hvalue, hlarge, rfl⟩
    exact ⟨value, hvalue, if_pos hlarge⟩

theorem largeCoordinates_eq (limit : Float) (c : Command) :
    largeCoordinates limit c = Axis.all.filterMap (largeCoordinate? limit c) := by
  unfold largeCoordinates
  congr
  funext axis
  unfold largeCoordinate?
  cases c.params.get? axis.letter <;> rfl

theorem mem_largeCoordinates :
    f ∈ largeCoordinates limit c ↔ ∃ axis value,
      c.params.get? axis.letter = some value ∧ limit < value.abs ∧
        f = ⟨c.line, .largeCoordinate axis value⟩ := by
  rw [largeCoordinates_eq, List.mem_filterMap]
  constructor
  · rintro ⟨axis, _, hfinding⟩
    exact ⟨axis, largeCoordinate?_eq_some.mp hfinding⟩
  · rintro ⟨axis, hfinding⟩
    exact ⟨axis, Axis.mem_all axis, largeCoordinate?_eq_some.mpr hfinding⟩

theorem mem_flatMap_largeCoordinates {commands : List Command} :
    f ∈ commands.flatMap (largeCoordinates limit) ↔ IsOversized limit commands f := by
  rw [List.mem_flatMap]
  constructor
  · rintro ⟨c, hc, hf⟩
    exact ⟨c, hc, mem_largeCoordinates.mp hf⟩
  · rintro ⟨c, hc, hf⟩
    exact ⟨c, hc, mem_largeCoordinates.mpr hf⟩

theorem axes_in_place : Axis.all.Pairwise fun p q => axisPlace p < axisPlace q := by
  decide

/-- The findings about one command are in the order of the axes. -/
theorem largeCoordinates_in_order (limit : Float) (c : Command) :
    (largeCoordinates limit c).Pairwise Finding.Precedes := by
  rw [largeCoordinates_eq, List.pairwise_filterMap]
  refine axes_in_place.imp ?_
  intro p q hplace f hf g hg
  obtain ⟨_, _, _, rfl⟩ := largeCoordinate?_eq_some.mp hf
  obtain ⟨_, _, _, rfl⟩ := largeCoordinate?_eq_some.mp hg
  exact .inr ⟨rfl, p, q, rfl, rfl, hplace⟩

/-- The findings about coordinates are in the order of the commands. -/
theorem flatMap_largeCoordinates_in_order (limit : Float) {commands : List Command}
    (h : (commands.map (·.line)).Pairwise (· < ·)) :
    (commands.flatMap (largeCoordinates limit)).Pairwise Finding.Precedes := by
  rw [List.pairwise_flatMap]
  refine ⟨fun c _ => largeCoordinates_in_order limit c, ?_⟩
  rw [List.pairwise_map] at h
  refine h.imp ?_
  intro c d hlines f hf g hg
  obtain ⟨_, _, _, _, rfl⟩ := mem_largeCoordinates.mp hf
  obtain ⟨_, _, _, _, rfl⟩ := mem_largeCoordinates.mp hg
  exact .inl hlines

/-! ## Wording -/

/-- The wording of a finding tells whether it is about the spindle. -/
theorem Finding.message_eq_iff :
    f.message = "Rapid move (G0) with spindle running" ↔ f.cause = .rapidWithSpindle := by
  unfold Finding.message
  split
  · rename_i axis value hcause
    rw [hcause]
    constructor
    · intro h
      have hfirst := congrArg (fun text : String => text.toList.head?) h
      simp only [String.toList_append] at hfirst
      cases hfirst
    · intro h
      cases h
  · rename_i hcause
    exact iff_of_true rfl hcause

theorem cause_of_mem_rapidsWithSpindle : ∀ (commands : List Command) (running : Bool),
    f ∈ rapidsWithSpindle running commands → f.cause = .rapidWithSpindle := by
  intro commands
  induction commands with
  | nil => intro running h; cases h
  | cons c rest ih =>
    intro running h
    unfold rapidsWithSpindle at h
    dsimp only at h
    split at h
    · rcases List.mem_cons.mp h with rfl | hrest
      · rfl
      · exact ih _ hrest
    · exact ih _ h

end

end Machining.Program

namespace Machining.Execution

open Machining.Program

/-! ## The two accounts of the spindle -/

/-- The spindle turns. -/
def Modal.turns (s : Modal) : Bool := s.spindleDirection ≠ 0

/-- If the account of the review agrees with the state before a command, it agrees with
the state after it. -/
theorem Outcome.turns {s : Modal} {c : Command} {r : Step} (h : Outcome s c r) :
    r.state.turns = spindleAfter s.turns c.head := by
  have hdirection := h.spindleDirection
  unfold Modal.turns spindleAfter
  rw [hdirection]
  unfold Command.spindleDirection?
  generalize c.head.mNumber? = number?
  split <;> simp

/-- The rapid moves that an execution of the commands meets with the spindle turning. -/
def rapidsMetTurning (commands : List Command) : List Command :=
  (commands.zipIdx.filter fun p =>
    p.1.head.gNumber? = some 0 && (run {} (commands.take p.2)).state.turns).map Prod.fst

/-- From a state on which the two accounts agree, the review of the commands that follow
finds the rapid moves that an execution of them meets with the spindle turning. -/
theorem lines_rapidsWithSpindle : ∀ (rest before : List Command),
    (rapidsWithSpindle (run {} before).state.turns rest).map (·.line) =
      ((rest.zipIdx before.length).filter fun p =>
        p.1.head.gNumber? = some 0 &&
          (run {} ((before ++ rest).take p.2)).state.turns).map (·.1.line) := by
  intro rest
  induction rest with
  | nil => intro before; rfl
  | cons c rest ih =>
    intro before
    have hready := Modal.IsReady.initial.runFrom before 0
    have hnext : (run {} (before ++ [c])).state.turns =
        spindleAfter (run {} before).state.turns c.head := by
      show (runFrom 0 {} (before ++ [c])).state.turns = _
      rw [state_runFrom_concat]
      exact (hready.outcome _ c).turns
    have hlater := ih (before ++ [c])
    rw [hnext, List.append_assoc, List.singleton_append, List.length_append] at hlater
    have htake : (before ++ c :: rest).take before.length = before := List.take_left
    rw [rapidsWithSpindle, List.zipIdx_cons, List.filter_cons, htake, Bool.and_comm]
    dsimp only
    split
    · rw [List.map_cons, List.map_cons, hlater]
      rfl
    · exact hlater

/-- All that a review says about coordinates comes first: there is a finding for each axis
parameter beyond the limit and no other, by the order of the commands and, for one
command, of the axes.  What it says about the spindle follows: a finding for each rapid
move that an execution from a new state meets with the spindle turning, in their order. -/
theorem review_agrees_with_execution (limit : Float) (text : String) (check : LineCheck) :
    let commands := (readText text check).1.commands
    ∃ large rapid, review limit commands = large ++ rapid ∧
      (∀ f, f ∈ large ↔ IsOversized limit commands f) ∧
      large.Pairwise Finding.Precedes ∧
      (∀ f ∈ large, f.message ≠ "Rapid move (G0) with spindle running") ∧
      (∀ f ∈ rapid, f.message = "Rapid move (G0) with spindle running") ∧
      rapid.map (·.line) = (rapidsMetTurning commands).map (·.line) := by
  have hlines := readText_lines_increasing text check
  generalize (readText text check).1.commands = commands at hlines
  intro commands
  refine ⟨_, _, rfl, fun f => mem_flatMap_largeCoordinates,
    flatMap_largeCoordinates_in_order limit hlines, ?_, ?_, ?_⟩
  · intro f hf
    obtain ⟨_, _, _, _, _, _, rfl⟩ := mem_flatMap_largeCoordinates.mp hf
    rw [Ne, Finding.message_eq_iff]
    exact FindingCause.noConfusion
  · intro f hf
    exact Finding.message_eq_iff.mpr (cause_of_mem_rapidsWithSpindle _ _ hf)
  · have hreview := lines_rapidsWithSpindle commands []
    unfold rapidsMetTurning
    rw [List.map_map]
    exact hreview

/-- A tool change in between, a cycle that fails and a fractional code do not bear on the
spindle, and the rapid move after `M5` is not found. -/
example :
    let commands := (readText ("G0 X1\nM3 S5\nG0 Z-20000\nT2\nG81 Z1\nM5.5\nG0.0 Y1\n" ++
      "M5\nG0 X2")).1.commands
    (rapidsMetTurning commands).map (·.line) = [3, 7] ∧
      (review 10000.0 commands).map (·.line) = [3, 3, 7] := by
  decide +kernel

end Machining.Execution
