import Machining.Execution.Run
set_option autoImplicit false

/-!
# What a command emits

A command emits at most one thing: a directive, a move or a drilling cycle.  This
module says so once, for every command in every modal state, with what the emitted
thing has to do with the state before and after.  Facts about whole runs follow from
it by induction on the commands.
-/

namespace Machining.Execution

open Machining.Program
open Machining.Toolpath

/-! ## What leaves the position alone -/

namespace Modal

@[simp] theorem withFeedrate_position (s : Modal) (params : AddressMap) :
    (s.withFeedrate params).position = s.position := by
  unfold withFeedrate
  split <;> rfl

@[simp] theorem withFeedrate_positioning (s : Modal) (params : AddressMap) :
    (s.withFeedrate params).positioning = s.positioning := by
  unfold withFeedrate
  split <;> rfl

@[simp] theorem withSpindleSpeed_position (s : Modal) (params : AddressMap) :
    (s.withSpindleSpeed params).position = s.position := by
  unfold withSpindleSpeed
  split <;> rfl

@[simp] theorem withSpindleSpeed_positioning (s : Modal) (params : AddressMap) :
    (s.withSpindleSpeed params).positioning = s.positioning := by
  unfold withSpindleSpeed
  split <;> rfl

theorem rebaseAxes_position (params : AddressMap) :
    ∀ (axes : List Axis) (s : Modal),
      (rebaseAxes params axes s).1.position = s.position := by
  intro axes
  induction axes with
  | nil => intro s; rfl
  | cons axis rest ih =>
    intro s
    unfold rebaseAxes
    split
    · exact ih s
    · split
      · rfl
      · rw [ih]

/-- Redefining the current position does not move the tool. -/
@[simp] theorem rebase_position (s : Modal) (params : AddressMap) :
    (s.rebase params).1.position = s.position :=
  rebaseAxes_position params Axis.linear s

/-- Where axis words lead depends on the position and on the positioning mode only. -/
theorem destination_congr {s t : Modal} (hposition : t.position = s.position)
    (hmode : t.positioning = s.positioning) (params : AddressMap) :
    t.destination params = s.destination params := by
  have habsolute : t.isAbsolute = s.isAbsolute := by
    unfold isAbsolute
    rw [hmode]
  have htarget : ∀ axis value, t.target axis value = s.target axis value := by
    intro axis value
    unfold target
    rw [habsolute, hposition]
  have haxes : ∀ (axes : List Axis) (reached : AddressMap),
      t.moveAxes params axes reached = s.moveAxes params axes reached := by
    intro axes
    induction axes with
    | nil => intro reached; rfl
    | cons axis rest ih =>
      intro reached
      simp only [moveAxes, htarget, ih]
  unfold destination
  rw [haxes, hposition]

end Modal

/-! ## The four outcomes -/

/-- A segment that moves the tool from where a command finds it to where the command
leaves it. -/
structure IsMove (s : Modal) (c : Command) (t : Modal) (g : Segment) : Prop where
  start : g.start = s.position
  finish : g.finish = t.position
  reached : s.destination c.params = .ok g.finish
  line : g.line = c.line
  kind : g.kind ≠ .drill
  shape : ∀ number hole depth retract, g.shape ≠ .drill number hole depth retract

/-- A drilling cycle, over a hole with both coordinates, that leaves the tool where
it was. -/
structure IsCycle (s : Modal) (c : Command) (t : Modal) (g : Segment) : Prop where
  start : g.start = s.position
  finish : g.finish = s.position
  position : t.position = s.position
  line : g.line = c.line
  kind : g.kind = .drill
  shape : ∃ number hole depth retract, g.shape = .drill number hole depth retract ∧
    (∃ x, hole.get "x" = .ok x) ∧ ∃ y, hole.get "y" = .ok y

/-- What a step can give when `count` segments precede the command. -/
inductive Emission (count : Nat) (s : Modal) (c : Command) (r : Step) : Prop where
  /-- Neither a segment nor a directive, as of every command that fails. -/
  | silent (segment : r.segment? = none) (directive : r.directive? = none)
      (position : r.state.position = s.position)
  | directive (effect : Effect) (segment : r.segment? = none)
      (directive : r.directive? = some ⟨effect, count, c.line⟩)
      (position : r.state.position = s.position)
  | move (g : Segment) (segment : r.segment? = some g)
      (directive : r.directive? = none) (isMove : IsMove s c r.state g)
  | cycle (g : Segment) (segment : r.segment? = some g)
      (directive : r.directive? = none) (isCycle : IsCycle s c r.state g)

namespace Emission

variable {count : Nat} {s t : Modal} {c : Command} {r : Step}

/-- The emission of a command that first took words which do not bear on the
position. -/
theorem of_congr (h : Emission count t c r) (hposition : t.position = s.position)
    (hmode : t.positioning = s.positioning) : Emission count s c r := by
  cases h with
  | silent segment directive position =>
    exact .silent segment directive (position.trans hposition)
  | directive effect segment directive position =>
    exact .directive effect segment directive (position.trans hposition)
  | move g segment directive m =>
    have hreached : s.destination c.params = .ok g.finish := by
      rw [← Modal.destination_congr hposition hmode]
      exact m.reached
    exact .move g segment directive
      { m with start := m.start.trans hposition, reached := hreached }
  | cycle g segment directive m =>
    exact .cycle g segment directive
      { m with
        start := m.start.trans hposition
        finish := m.finish.trans hposition
        position := m.position.trans hposition }

/-- A step that also changes modes emits the same. -/
theorem withState (h : Emission count s c r)
    (hposition : t.position = r.state.position) :
    Emission count s c { r with state := t } := by
  cases h with
  | silent segment directive position =>
    exact .silent segment directive (hposition.trans position)
  | directive effect segment directive position =>
    exact .directive effect segment directive (hposition.trans position)
  | move g segment directive m =>
    exact .move g segment directive { m with finish := m.finish.trans hposition.symm }
  | cycle g segment directive m =>
    exact .cycle g segment directive { m with position := hposition.trans m.position }

/-- A directive is anchored to the number of segments before its command. -/
theorem anchored (h : Emission count s c r) {a : Directive} (ha : r.directive? = some a) :
    a.before = count := by
  cases h with
  | silent segment directive position => rw [directive] at ha; cases ha
  | directive effect segment directive position =>
    rw [directive] at ha
    cases ha
    rfl
  | move g segment directive m => rw [directive] at ha; cases ha
  | cycle g segment directive m => rw [directive] at ha; cases ha

/-- A segment is a move or a drilling cycle. -/
theorem isMove_or_isCycle (h : Emission count s c r) {g : Segment}
    (hg : r.segment? = some g) : IsMove s c r.state g ∨ IsCycle s c r.state g := by
  cases h with
  | silent segment directive position => rw [segment] at hg; cases hg
  | directive effect segment directive position => rw [segment] at hg; cases hg
  | move g' segment directive m =>
    rw [segment] at hg
    cases hg
    exact .inl m
  | cycle g' segment directive m =>
    rw [segment] at hg
    cases hg
    exact .inr m

end Emission

/-! ## Emissions of the commands -/

variable (count : Nat) (s : Modal) (c : Command)

/-- The path of a motion mode is no drilling cycle. -/
theorem motionShape_ne_drill (mode : Int) (params : AddressMap) (number : Int)
    (hole : AddressMap) (depth retract : Float) :
    motionShape s mode params ≠ .drill number hole depth retract := by
  unfold motionShape
  split <;> exact Shape.noConfusion

theorem segmentKind_ne_drill (mode : Int) : segmentKind mode ≠ .drill := by
  unfold segmentKind
  split
  · decide
  · split
    · decide
    · split <;> decide

theorem move_emission (mode : Int) :
    Emission count s c (move s mode c.params c.line) := by
  have hdestination :=
    Modal.destination_congr (s := s) (Modal.withFeedrate_position s c.params)
    (Modal.withFeedrate_positioning s c.params) c.params
  unfold move
  dsimp only
  split
  · exact .silent rfl rfl (Modal.withFeedrate_position s c.params)
  · rename_i finish hfinish
    refine .move _ rfl rfl ?_
    exact
      { start := Modal.withFeedrate_position s c.params
        finish := rfl
        reached := hdestination.symm.trans hfinish
        line := rfl
        kind := segmentKind_ne_drill mode
        shape := motionShape_ne_drill _ mode c.params }

theorem hole_get {params : AddressMap} {hole : AddressMap}
    (h : Execution.hole s params = .ok hole) :
    (∃ x, hole.get "x" = .ok x) ∧ ∃ y, hole.get "y" = .ok y := by
  unfold Execution.hole at h
  cases hx : s.position.get "x" with
  | error fault => rw [hx] at h; cases h
  | ok x =>
    cases hy : s.position.get "y" with
    | error fault => rw [hx, hy] at h; cases h
    | ok y =>
      rw [hx, hy] at h
      cases h
      exact ⟨⟨_, rfl⟩, ⟨_, rfl⟩⟩

theorem drill_emission (number : Int) :
    Emission count s c (drill s number c.params c.line) := by
  unfold drill
  split
  · dsimp only
    split
    · exact .silent rfl rfl (Modal.withFeedrate_position s c.params)
    · rename_i hole hhole
      refine .cycle _ rfl rfl ?_
      exact
        { start := Modal.withFeedrate_position s c.params
          finish := Modal.withFeedrate_position s c.params
          position := Modal.withFeedrate_position s c.params
          line := rfl
          kind := rfl
          shape := ⟨_, _, _, _, rfl, hole_get _ hhole⟩ }
  · exact .silent rfl rfl rfl

theorem stepG_emission (code : Float) : Emission count s c (stepG s code c) := by
  have hposition := Modal.withSpindleSpeed_position s c.params
  have hmode := Modal.withSpindleSpeed_positioning s c.params
  unfold stepG
  dsimp only
  split
  case h_1 mode _ =>
    have hmove : Emission count s c _ :=
      (move_emission count (s.withSpindleSpeed c.params) c mode).of_congr
        hposition hmode
    split
    · exact hmove.withState rfl
    · exact hmove
  case h_6 number _ =>
    exact (drill_emission count _ c number).of_congr hposition hmode
  case h_8 =>
    exact .silent rfl rfl ((Modal.rebase_position _ c.params).trans hposition)
  -- The other functions set a mode or only leave a record.
  all_goals exact .silent rfl rfl hposition

theorem stepM_emission (code : Float) :
    Emission count s c (stepM count s code c) := by
  have hposition := Modal.withSpindleSpeed_position s c.params
  unfold stepM
  dsimp only
  split
  case h_1 => exact .directive _ rfl rfl hposition
  case h_3 => exact .silent rfl rfl rfl
  case h_6 => exact .silent rfl rfl rfl
  all_goals exact .directive _ rfl rfl rfl

theorem stepT_emission (code : Float) :
    Emission count s c (stepT count s code c) := by
  unfold stepT
  split
  · exact .silent rfl rfl rfl
  · exact .directive _ rfl rfl rfl

theorem stepModal_emission : Emission count s c (stepModal s c) := by
  have hposition := Modal.withSpindleSpeed_position s c.params
  have hmode := Modal.withSpindleSpeed_positioning s c.params
  unfold stepModal
  dsimp only
  split
  · exact (move_emission count _ c _).of_congr hposition hmode
  · exact .silent rfl rfl hposition

/-- Every command emits at most one thing. -/
theorem step_emission : Emission count s c (step count s c) := by
  unfold step
  split
  · exact stepG_emission count s c _
  · exact stepM_emission count s c _
  · exact stepT_emission count s c _
  · exact stepModal_emission count s c

end Machining.Execution
