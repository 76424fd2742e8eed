import Machining.Program.Reading
import Machining.Proofs.Execution.Failure
set_option autoImplicit false

/-!
# What is only displayed

Units, coordinate system, offsets, coolant and the direction of the spindle are kept to be
shown.  No command looks at them: from two states that differ in nothing else, every
program gives the same segments, directives and issues.  So the commands that only set
units, coordinate system or work offset can be put into a program or taken out of it, and
it does the same.
-/

namespace Machining.Program

/-- The command sets the units, the coordinate system or the work offset, and has no spindle
speed. -/
def Command.isDisplayOnly (c : Command) : Bool :=
  ((ModalGroup.units.number? c).isSome || (ModalGroup.coordinateSystem.number? c).isSome ||
    c.head.gNumber? = some 92) && (c.params.get? "S").isNone

end Machining.Program

namespace Machining.Execution

open Machining.Program
open Machining.Toolpath

/-! ## Two states -/

/-- The states agree on everything that bears on the tool.  They may differ in units,
coordinate system, offsets, coolant and spindle direction. -/
structure SteersAlike (s t : Modal) : Prop where
  motion : t.motion = s.motion
  plane : t.plane = s.plane
  positioning : t.positioning = s.positioning
  position : t.position = s.position
  feedrate : t.feedrate = s.feedrate
  spindleSpeed : t.spindleSpeed = s.spindleSpeed
  tool : t.tool = s.tool

/-- The steps give the same, and leave states that steer alike. -/
structure Step.Alike (q r : Step) : Prop where
  state : SteersAlike q.state r.state
  segment : r.segment? = q.segment?
  directive : r.directive? = q.directive?
  fault : r.fault? = q.fault?
  log : r.log = q.log

/-- The runs give the same, and leave states that steer alike. -/
structure Run.Alike (q r : Run) : Prop where
  state : SteersAlike q.state r.state
  toolpath : r.toolpath = q.toolpath
  directives : r.directives = q.directives
  issues : r.issues = q.issues

namespace SteersAlike

variable {s t u : Modal}

theorem refl (s : Modal) : SteersAlike s s := ⟨rfl, rfl, rfl, rfl, rfl, rfl, rfl⟩

theorem symm (h : SteersAlike s t) : SteersAlike t s :=
  ⟨h.motion.symm, h.plane.symm, h.positioning.symm, h.position.symm, h.feedrate.symm,
    h.spindleSpeed.symm, h.tool.symm⟩

theorem trans (h : SteersAlike s t) (h' : SteersAlike t u) : SteersAlike s u :=
  ⟨h'.motion.trans h.motion, h'.plane.trans h.plane, h'.positioning.trans h.positioning,
    h'.position.trans h.position, h'.feedrate.trans h.feedrate,
    h'.spindleSpeed.trans h.spindleSpeed, h'.tool.trans h.tool⟩

theorem withFeedrate (h : SteersAlike s t) (params : AddressMap) :
    SteersAlike (s.withFeedrate params) (t.withFeedrate params) := by
  simp only [Modal.withFeedrate_eq, h.feedrate]
  exact { h with feedrate := rfl }

theorem withSpindleSpeed (h : SteersAlike s t) (params : AddressMap) :
    SteersAlike (s.withSpindleSpeed params) (t.withSpindleSpeed params) := by
  simp only [Modal.withSpindleSpeed_eq, h.spindleSpeed]
  exact { h with spindleSpeed := rfl }

theorem destination (h : SteersAlike s t) (params : AddressMap) :
    t.destination params = s.destination params :=
  Modal.destination_congr h.position h.positioning params

theorem hole (h : SteersAlike s t) (params : AddressMap) :
    Execution.hole t params = Execution.hole s params := by
  unfold Execution.hole
  rw [h.position]

/-- The work offset is read from the position, and no command reads it. -/
theorem rebaseAxes (params : AddressMap) : ∀ (axes : List Axis) {s t : Modal},
    SteersAlike s t →
      SteersAlike (Modal.rebaseAxes params axes s).1 (Modal.rebaseAxes params axes t).1 ∧
        (Modal.rebaseAxes params axes t).2 = (Modal.rebaseAxes params axes s).2 := by
  intro axes
  induction axes with
  | nil => intro s t h; exact ⟨h, rfl⟩
  | cons axis rest ih =>
    intro s t h
    unfold Modal.rebaseAxes
    rw [h.position]
    split
    · exact ih h
    · split
      · exact ⟨h, rfl⟩
      · exact ih { h with position := rfl }

end SteersAlike

namespace Run.Alike

variable {p q r : Run}

theorem symm (h : p.Alike q) : q.Alike p :=
  ⟨h.state.symm, h.toolpath.symm, h.directives.symm, h.issues.symm⟩

theorem trans (h : p.Alike q) (h' : q.Alike r) : p.Alike r :=
  ⟨h.state.trans h'.state, h'.toolpath.trans h.toolpath, h'.directives.trans h.directives,
    h'.issues.trans h.issues⟩

end Run.Alike

/-! ## One command -/

section

variable {s t : Modal}

theorem move_alike (h : SteersAlike s t) (mode : Int) (params : AddressMap) (line : Int) :
    (move s mode params line).Alike (move t mode params line) := by
  have hrate := h.withFeedrate params
  unfold move
  dsimp only
  rw [hrate.destination]
  split
  · exact ⟨hrate, rfl, rfl, rfl, rfl⟩
  · refine ⟨{ hrate with position := rfl }, ?_, rfl, rfl, rfl⟩
    simp only [motionShape, hrate.plane, hrate.position, hrate.feedrate, hrate.spindleSpeed,
      hrate.tool]

theorem drill_alike (h : SteersAlike s t) (number : Int) (params : AddressMap) (line : Int) :
    (drill s number params line).Alike (drill t number params line) := by
  have hrate := h.withFeedrate params
  unfold drill
  split
  · dsimp only
    rw [hrate.hole]
    split
    · exact ⟨hrate, rfl, rfl, rfl, rfl⟩
    · refine ⟨hrate, ?_, rfl, rfl, rfl⟩
      simp only [hrate.position, hrate.feedrate, hrate.spindleSpeed, hrate.tool]
  · exact ⟨h, rfl, rfl, rfl, rfl⟩

theorem stepG_alike (h : SteersAlike s t) (code : Float) (c : Command) :
    (stepG s code c).Alike (stepG t code c) := by
  have hspeed := h.withSpindleSpeed c.params
  unfold stepG
  dsimp only
  split
  case h_1 mode _ =>
    have hmove := move_alike hspeed mode c.params c.line
    rw [hmove.fault]
    split
    · exact { hmove with state := { hmove.state with motion := rfl }, fault := rfl }
    · exact hmove
  case h_2 => exact ⟨{ hspeed with plane := rfl }, rfl, rfl, rfl, rfl⟩
  case h_5 => exact ⟨{ hspeed with positioning := rfl }, rfl, rfl, rfl, rfl⟩
  case h_6 number _ => exact drill_alike hspeed number c.params c.line
  case h_8 =>
    obtain ⟨hstate, hfault⟩ := SteersAlike.rebaseAxes c.params Axis.linear hspeed
    exact ⟨hstate, rfl, rfl, hfault, rfl⟩
  -- The other functions set a displayed field or only leave a record.
  all_goals exact ⟨{ hspeed with }, rfl, rfl, rfl, rfl⟩

theorem stepM_alike (h : SteersAlike s t) (count : Nat) (code : Float) (c : Command) :
    (stepM count s code c).Alike (stepM count t code c) := by
  have hspeed := h.withSpindleSpeed c.params
  unfold stepM
  dsimp only
  split
  case h_1 =>
    refine ⟨{ hspeed with }, rfl, ?_, rfl, rfl⟩
    rw [hspeed.spindleSpeed]
  case h_2 => exact ⟨{ h with spindleSpeed := rfl }, rfl, rfl, rfl, rfl⟩
  all_goals exact ⟨{ h with }, rfl, rfl, rfl, rfl⟩

theorem stepT_alike (h : SteersAlike s t) (count : Nat) (code : Float) (c : Command) :
    (stepT count s code c).Alike (stepT count t code c) := by
  unfold stepT
  split
  · exact ⟨h, rfl, rfl, rfl, rfl⟩
  · exact ⟨{ h with tool := rfl }, rfl, rfl, rfl, rfl⟩

theorem stepModal_alike (h : SteersAlike s t) (c : Command) :
    (stepModal s c).Alike (stepModal t c) := by
  have hspeed := h.withSpindleSpeed c.params
  unfold stepModal
  dsimp only
  rw [hspeed.motion]
  split
  · exact move_alike hspeed _ c.params c.line
  · exact ⟨hspeed, rfl, rfl, rfl, rfl⟩

/-- A command does the same in states that steer alike. -/
theorem step_alike (h : SteersAlike s t) (count : Nat) (c : Command) :
    (step count s c).Alike (step count t c) := by
  unfold step
  split
  · exact stepG_alike h _ c
  · exact stepM_alike h count _ c
  · exact stepT_alike h count _ c
  · exact stepModal_alike h c

end

/-! ## Whole runs -/

/-- Runs that begin with like steps and go on alike are alike. -/
theorem runFrom_cons_alike {count : Nat} {s t : Modal} {c : Command} {rest rest' : List Command}
    (hfirst : (step count s c).Alike (step count t c))
    (hrest : (runFrom (count + (step count s c).segment?.toList.length) (step count s c).state
      rest).Alike (runFrom (count + (step count s c).segment?.toList.length)
        (step count t c).state rest')) :
    (runFrom count s (c :: rest)).Alike (runFrom count t (c :: rest')) := by
  simp only [runFrom, Step.issues, hfirst.segment, hfirst.directive, hfirst.fault]
  exact
    { state := hrest.state
      toolpath := by rw [hrest.toolpath]
      directives := by rw [hrest.directives]
      issues := by rw [hrest.issues] }

/-- Commands do the same from states that steer alike. -/
theorem runFrom_alike : ∀ (commands : List Command) (count : Nat) {s t : Modal},
    SteersAlike s t → (runFrom count s commands).Alike (runFrom count t commands) := by
  intro commands
  induction commands with
  | nil => intro count s t h; exact ⟨h, rfl, rfl, rfl⟩
  | cons c rest ih =>
    intro count s t h
    have hfirst := step_alike h count c
    exact runFrom_cons_alike hfirst (ih _ hfirst.state)

/-! ## Commands for the display -/

/-- The function of a code in a modal group sets the number of that group. -/
theorem GFunction.ofCode_of_holds {code : Float} {n : Int} {group : ModalGroup}
    (hn : wholeNumber? code = some n) (hholds : group.Holds n) :
    GFunction.ofCode code = .ofGroup group n := by
  have hreads := GFunction.ofCode_reads code
  rw [hn] at hreads
  generalize GFunction.ofCode code = f at hreads
  cases hreads with
  | group other holds => rw [ModalGroup.eq_of_holds hholds holds]
  | cycle low high => exact absurd hholds (ModalGroup.not_holds_of_cycle low high group)
  | other _ groups _ => exact absurd hholds (groups n rfl group)

/-- A command for the display gives nothing, and leaves a state that steers alike. -/
theorem step_of_isDisplayOnly {s : Modal} {c : Command} (h : HasAxes s.position)
    (hc : c.isDisplayOnly = true) (count : Nat) :
    ∃ t, step count s c = { state := t } ∧ SteersAlike s t := by
  obtain ⟨hnumber, hspeed⟩ := Bool.and_eq_true_iff.mp hc
  rw [Option.isNone_iff_eq_none] at hspeed
  have hsame : s.withSpindleSpeed c.params = s := by
    unfold Modal.withSpindleSpeed
    rw [hspeed]
  cases hhead : c.head with
  | g code =>
    have hwhole : c.head.gNumber? = wholeNumber? code := by rw [hhead]; rfl
    simp only [step, hhead, stepG, hsame]
    rcases Bool.or_eq_true_iff.mp hnumber with hgroup | hrebase
    · rcases Bool.or_eq_true_iff.mp hgroup with hunits | hsystem
      · obtain ⟨n, hn⟩ := Option.isSome_iff_exists.mp hunits
        obtain ⟨hgiven, hholds⟩ := ModalGroup.number?_eq_some hn
        rw [GFunction.ofCode_of_holds (hwhole.symm.trans hgiven) hholds]
        exact ⟨_, rfl, { SteersAlike.refl s with }⟩
      · obtain ⟨n, hn⟩ := Option.isSome_iff_exists.mp hsystem
        obtain ⟨hgiven, hholds⟩ := ModalGroup.number?_eq_some hn
        rw [GFunction.ofCode_of_holds (hwhole.symm.trans hgiven) hholds]
        exact ⟨_, rfl, { SteersAlike.refl s with }⟩
    · have hgiven : wholeNumber? code = some 92 := hwhole.symm.trans (of_decide_eq_true hrebase)
      have hfunction : GFunction.ofCode code = .rebase := by
        unfold GFunction.ofCode
        rw [hgiven]
        rfl
      rw [hfunction]
      have hfault : (s.rebase c.params).2 = none := fault?_rebase c.params Axis.linear h
      obtain ⟨offset, hoffset⟩ := Modal.rebase_eq s c.params
      refine ⟨{ s with workOffset := offset }, ?_, { SteersAlike.refl s with }⟩
      simp only [hfault, hoffset]
  | _ => simp [ModalGroup.number?, Head.gNumber?, hhead] at hnumber

/-- Commands do the same without those for the display, also from a state that steers
alike. -/
theorem runFrom_filter_isDisplayOnly : ∀ (commands : List Command) (count : Nat)
    {s t : Modal}, HasAxes s.position → SteersAlike s t →
      (runFrom count s commands).Alike
        (runFrom count t (commands.filter fun c => !c.isDisplayOnly)) := by
  intro commands
  induction commands with
  | nil => intro count s t _ h; exact ⟨h, rfl, rfl, rfl⟩
  | cons c rest ih =>
    intro count s t haxes h
    cases hc : c.isDisplayOnly with
    | true =>
      obtain ⟨u, hstep, hu⟩ := step_of_isDisplayOnly haxes hc count
      have hrest := ih count (s := u) (hu.position ▸ haxes) (hu.symm.trans h)
      rw [List.filter_cons_of_neg (by simp [hc])]
      simp only [runFrom, hstep]
      exact ⟨hrest.state, hrest.toolpath, hrest.directives, hrest.issues⟩
    | false =>
      have hfirst := step_alike h count c
      rw [List.filter_cons_of_pos (by simp [hc])]
      exact runFrom_cons_alike hfirst (ih _ (step_hasAxes count c haxes).1 hfirst.state)

/-- What is only displayed steers nothing.  From two states that agree on motion, plane,
positioning, position, rate, spindle speed and tool, any commands give the same toolpath,
directives and issues, and leave states that agree on these again.  And two programs that
differ only by commands for the display, wherever these stand, do the same. -/
theorem display_never_steers :
    (∀ (s t : Modal) (commands : List Command), SteersAlike s t →
      (run s commands).Alike (run t commands)) ∧
    ∀ commands others : List Command,
      (commands.filter fun c => !c.isDisplayOnly) = (others.filter fun c => !c.isDisplayOnly) →
        (run {} commands).Alike (run {} others) := by
  have hkept : ∀ commands : List Command, (runFrom 0 {} commands).Alike
      (runFrom 0 {} (commands.filter fun c => !c.isDisplayOnly)) := fun commands =>
    runFrom_filter_isDisplayOnly commands 0 zeroPosition_hasAxes (.refl _)
  constructor
  · intro s t commands h
    exact { runFrom_alike commands 0 h with }
  · intro commands others hsame
    have halike := hkept commands
    rw [hsame] at halike
    exact { halike.trans (hkept others).symm with }

/-- A program with moves, a cycle that fails and one that does not, spindle and coolant:
from a state in which all that is displayed is different, and with three commands for the
display put into it. -/
theorem display_never_steers_mixed_program :
    let shown : Modal :=
      { units := 20, coordinateSystem := 57, spindleDirection := -1, coolant := true
        workOffset := ⟨[("x", 7.0)]⟩, toolOffset := ⟨[]⟩ }
    let plain := (readText "M3 S9\n\nG1 X1 F50\nG81 Z-1\n\nG2 X4 I2\nM8\n\nG82 Z-2 R3").1.commands
    let marked :=
      (readText "M3 S9\nG20\nG1 X1 F50\nG81 Z-1\nG92 X5\nG2 X4 I2\nM8\nG55\nG82 Z-2 R3").1.commands
    SteersAlike {} shown ∧
      (plain.filter fun c => !c.isDisplayOnly) = (marked.filter fun c => !c.isDisplayOnly) ∧
      marked.length = plain.length + 3 ∧
      (run {} plain).toolpath.length = 3 ∧ (run {} plain).directives.length = 2 ∧
      (run {} plain).issues.length = 1 ∧
      (run {} plain).Alike (run shown plain) ∧ (run {} plain).Alike (run {} marked) := by
  intro shown plain marked
  have halike : SteersAlike {} shown := ⟨rfl, rfl, rfl, rfl, rfl, rfl, rfl⟩
  have hread : (plain.filter fun c => !c.isDisplayOnly) =
        (marked.filter fun c => !c.isDisplayOnly) ∧
      marked.length = plain.length + 3 ∧ (run {} plain).toolpath.length = 3 ∧
      (run {} plain).directives.length = 2 ∧ (run {} plain).issues.length = 1 := by
    decide +kernel
  obtain ⟨hsame, hlength, hsegments, hdirectives, hissues⟩ := hread
  exact ⟨halike, hsame, hlength, hsegments, hdirectives, hissues,
    display_never_steers.1 {} shown plain halike, display_never_steers.2 plain marked hsame⟩

end Machining.Execution
