import Machining.Proofs.Execution.Continuity
import Machining.Proofs.Program.CommandClass
set_option autoImplicit false

/-!
# What a command leaves in force

From a position on the five axes and with a motion in force, a command takes up
exactly its own words: every value in force is the one that the command gives, or
what it was before.  The segment, if the command asks for one, bears the values in
force after the command.  All this is said once here, by cases on the kinds of
commands; what whole programs leave in force follows by induction on their commands.
-/

namespace Machining.Execution

open Machining.Program
open Machining.Toolpath

/-! ## Taking up words -/

/-- The number of a modal group that is in force. -/
def Modal.number (s : Modal) : ModalGroup → Int
  | .motion => s.motion
  | .plane => s.plane
  | .units => s.units
  | .coordinateSystem => s.coordinateSystem
  | .positioning => s.positioning

namespace Modal

variable (s : Modal) (params : AddressMap)

theorem withFeedrate_eq :
    s.withFeedrate params = { s with feedrate := (params.get? "F").or s.feedrate } := by
  unfold withFeedrate
  cases params.get? "F" <;> rfl

theorem withSpindleSpeed_eq :
    s.withSpindleSpeed params =
      { s with spindleSpeed := (params.get? "S").getD s.spindleSpeed } := by
  unfold withSpindleSpeed
  cases params.get? "S" <;> rfl

theorem rebaseAxes_eq : ∀ (axes : List Axis) (s : Modal),
    ∃ offset, (rebaseAxes params axes s).1 = { s with workOffset := offset } := by
  intro axes
  induction axes with
  | nil => intro s; exact ⟨s.workOffset, rfl⟩
  | cons axis rest ih =>
    intro s
    unfold rebaseAxes
    split
    · exact ih s
    · split
      · exact ⟨s.workOffset, rfl⟩
      · obtain ⟨offset, hoffset⟩ := ih _
        exact ⟨offset, hoffset⟩

/-- Redefining the current position changes the work offset only. -/
theorem rebase_eq : ∃ offset, (s.rebase params).1 = { s with workOffset := offset } :=
  rebaseAxes_eq params Axis.linear s

end Modal

/-! ## The effect of a command -/

/-- A segment bears the tool, the rate and the plane in force; a rapid move has no rate
of its own. -/
structure Bears (t : Modal) (g : Segment) : Prop where
  tool : g.tool = t.tool
  feedrate : g.feedrate = if g.kind = .rapid then none else t.feedrate
  plane : g.kind = .clockwiseArc ∨ g.kind = .counterclockwiseArc →
    ∃ offsets radius, g.shape = .arc offsets radius t.plane

/-- What a step gives for a command that is found in the state `s`. -/
structure Outcome (s : Modal) (c : Command) (r : Step) : Prop where
  number : ∀ group, r.state.number group = (group.number? c).getD (s.number group)
  tool : r.state.tool = c.tool?.getD s.tool
  coolant : r.state.coolant = c.coolant?.getD s.coolant
  spindleDirection :
    r.state.spindleDirection = c.spindleDirection?.getD s.spindleDirection
  feedrate : r.state.feedrate = c.rate?.or s.feedrate
  moved : c.movesTool = true → s.destination c.params = .ok r.state.position
  still : c.movesTool = false → r.state.position = s.position
  kind : r.segment?.map (·.kind) = c.segmentKind? (segmentKind s.motion)
  line : ∀ g, r.segment? = some g → g.line = c.line
  bears : ∀ g, r.segment? = some g → Bears r.state g

namespace Outcome

variable {s : Modal} {c : Command} {r : Step}

/-- Only a command that asks for a segment gives one. -/
theorem drawsSegment (h : Outcome s c r) {g : Segment} (hg : r.segment? = some g) :
    c.drawsSegment = true := by
  have hkind := h.kind
  rw [hg] at hkind
  exact Command.drawsSegment_of_segmentKind? hkind.symm

/-- The outcome of a command without a segment: it leaves rate and position alone. -/
theorem of_no_segment (hdraws : c.drawsSegment = false) (hsegment : r.segment? = none)
    (hposition : r.state.position = s.position)
    (hfeedrate : r.state.feedrate = s.feedrate)
    (number : ∀ group, r.state.number group = (group.number? c).getD (s.number group))
    (tool : r.state.tool = c.tool?.getD s.tool)
    (coolant : r.state.coolant = c.coolant?.getD s.coolant)
    (direction :
      r.state.spindleDirection = c.spindleDirection?.getD s.spindleDirection) :
    Outcome s c r := by
  obtain ⟨hmoves, hcycle⟩ := Bool.or_eq_false_iff.mp hdraws
  obtain ⟨hmotion, hparameters⟩ := Bool.or_eq_false_iff.mp hmoves
  have hkind : c.segmentKind? (segmentKind s.motion) = none := by
    unfold Command.segmentKind?
    rw [Command.motionKind?_of_not_isMotion hmotion, hparameters, hcycle]
    rfl
  have hrate : c.rate? = none := by
    unfold Command.rate?
    rw [hdraws]
    rfl
  exact
    { number := number
      tool := tool
      coolant := coolant
      spindleDirection := direction
      feedrate := by rw [hrate, hfeedrate, Option.none_or]
      moved := fun h => by rw [hmoves] at h; cases h
      still := fun _ => hposition
      kind := by rw [hsegment, hkind]; rfl
      line := fun g hg => by rw [hsegment] at hg; cases hg
      bears := fun g hg => by rw [hsegment] at hg; cases hg }

end Outcome

/-! ## Moves and cycles -/

section

variable {s : Modal} {c : Command} {mode : Int}

theorem segmentKind_eq_rapid_iff : segmentKind mode = .rapid ↔ mode = 0 := by
  unfold segmentKind
  split
  · simp [*]
  · split
    · simp [*]
    · split <;> simp [*]

/-- The arcs are the motions after the straight ones. -/
theorem one_lt_of_segmentKind (hmode : ModalGroup.motion.Holds mode)
    (hkind : segmentKind mode = .clockwiseArc ∨
      segmentKind mode = .counterclockwiseArc) : 1 < mode := by
  obtain ⟨hlow, _⟩ : 0 ≤ mode ∧ mode ≤ 3 := hmode
  by_cases hstraight : mode = 0 ∨ mode = 1
  · rcases hstraight with rfl | rfl
    · simp [segmentKind] at hkind
    · simp [segmentKind] at hkind
  · omega

theorem motionKind?_of_motion (hc : c.head.gNumber? = some mode)
    (hmode : ModalGroup.motion.Holds mode) :
    c.motionKind? = some (segmentKind mode) := by
  obtain ⟨hlow, hhigh⟩ : 0 ≤ mode ∧ mode ≤ 3 := hmode
  obtain rfl | rfl | rfl | rfl : mode = 0 ∨ mode = 1 ∨ mode = 2 ∨ mode = 3 := by omega
  all_goals simp only [Command.motionKind?, hc]; rfl

/-- A move from a position on the five axes takes its rate and arrives, with a segment
that bears what is in force. -/
theorem move_eq (h : HasAxes s.position) (hmode : ModalGroup.motion.Holds mode)
    (params : AddressMap) (line : Int) :
    ∃ finish g, s.destination params = .ok finish ∧
      move s mode params line =
        { state :=
            { s with feedrate := (params.get? "F").or s.feedrate, position := finish }
          segment? := some g } ∧
      g.kind = segmentKind mode ∧ g.line = line ∧
      Bears { s with feedrate := (params.get? "F").or s.feedrate, position := finish }
        g := by
  obtain ⟨finish, hfinish, _⟩ := Modal.exists_destination h params
  have hreached :
      ({ s with feedrate := (params.get? "F").or s.feedrate } : Modal).destination params =
        .ok finish :=
    (Modal.destination_congr rfl rfl params).trans hfinish
  unfold move
  rw [Modal.withFeedrate_eq]
  dsimp only
  rw [hreached]
  refine ⟨finish, _, hfinish, rfl, rfl, rfl, ?_⟩
  constructor
  · rfl
  · simp only [segmentKind_eq_rapid_iff]
  · intro hkind
    have hmode' : ¬ mode ≤ 1 := by
      have := one_lt_of_segmentKind hmode hkind
      omega
    exact ⟨_, _, if_neg hmode'⟩

/-- A complete cycle over a position on the five axes takes its rate and drills. -/
theorem drill_eq (h : HasAxes s.position) {depth retract : Float} {params : AddressMap}
    (hdepth : params.get? "Z" = some depth) (hretract : params.get? "R" = some retract)
    (number line : Int) :
    ∃ g,
      drill s number params line =
        { state := { s with feedrate := (params.get? "F").or s.feedrate }
          segment? := some g } ∧
      g.kind = .drill ∧ g.line = line ∧
      Bears { s with feedrate := (params.get? "F").or s.feedrate } g := by
  obtain ⟨x, hx⟩ : ∃ x, s.position.get "x" = .ok x := h.exists_get .x
  obtain ⟨y, hy⟩ : ∃ y, s.position.get "y" = .ok y := h.exists_get .y
  unfold drill
  rw [hdepth, hretract, Modal.withFeedrate_eq]
  simp only [hole, hx, hy]
  refine ⟨_, rfl, rfl, rfl, ?_⟩
  constructor
  · rfl
  · rfl
  · intro hkind
    rcases hkind with hkind | hkind <;> cases hkind

end

/-! ## `G` commands -/

/-- The function that sets the number of a modal group. -/
def GFunction.ofGroup : ModalGroup → Int → GFunction
  | .motion => .motion
  | .plane => .plane
  | .units => .units
  | .coordinateSystem => .coordinateSystem
  | .positioning => .positioning

/-- What the function of a `G` command says of its number. -/
inductive GFunction.Reads : Option Int → GFunction → Prop where
  | group {n : Int} (group : ModalGroup) (holds : group.Holds n) :
      Reads (some n) (.ofGroup group n)
  | cycle {n : Int} (low : 81 ≤ n) (high : n ≤ 89) : Reads (some n) (.cycle n)
  | other {number? : Option Int} {f : GFunction}
      (function : f = .cancelCycle ∨ f = .rebase ∨ f = .unsupported)
      (groups : ∀ n, number? = some n → ∀ group : ModalGroup, ¬ group.Holds n)
      (cycles : ∀ n, number? = some n → ¬ (81 ≤ n ∧ n ≤ 89)) : Reads number? f

theorem GFunction.ofNumber_reads (n : Int) : Reads (some n) (.ofNumber n) := by
  unfold ofNumber
  split
  case isTrue h => exact .group .motion h
  split
  case isTrue h => exact .group .plane h
  split
  case isTrue h => exact .group .units h
  split
  case isTrue h => exact .group .coordinateSystem h
  split
  case isTrue h => exact .group .positioning h
  split
  case isTrue h => exact .cycle h.1 h.2
  -- What is left is in no modal group and no cycle.
  have hgroups : ∀ group : ModalGroup, ¬ group.Holds n := by
    intro group hn
    obtain ⟨hlow, hhigh⟩ := hn
    cases group <;> simp only [ModalGroup.first, ModalGroup.last] at hlow hhigh <;> omega
  have hother : ∀ f, f = .cancelCycle ∨ f = .rebase ∨ f = .unsupported →
      Reads (some n) f := by
    intro f hf
    refine .other hf ?_ ?_
    · rintro _ ⟨⟩
      exact hgroups
    · rintro _ ⟨⟩
      omega
  split
  · exact hother _ (.inl rfl)
  · split
    · exact hother _ (.inr (.inl rfl))
    · exact hother _ (.inr (.inr rfl))

theorem GFunction.ofCode_reads (code : Float) :
    Reads (wholeNumber? code) (.ofCode code) := by
  unfold ofCode
  split
  · rename_i n hn
    rw [hn]
    exact ofNumber_reads n
  · rename_i hn
    rw [hn]
    refine .other (.inr (.inr rfl)) ?_ ?_
    · rintro _ ⟨⟩
    · rintro _ ⟨⟩

namespace Outcome

variable {s : Modal} {c : Command} {r : Step} {code : Float} {n : Int}

/-- A `G` command has no word for the tool, the coolant or the direction of the
spindle. -/
theorem words_of_g (hc : c.head = .g code) :
    c.tool? = none ∧ c.coolant? = none ∧ c.spindleDirection? = none := by
  simp only [Command.tool?, Command.coolant?, Command.spindleDirection?, hc, Head.mNumber?,
    and_self]

/-- A motion leaves its number in force and gives its segment. -/
theorem of_motion (haxes : HasAxes s.position) (hc : c.head = .g code)
    (hn : c.head.gNumber? = some n) (hholds : ModalGroup.motion.Holds n)
    (hmotion : GFunction.ofCode code = .motion n) : Outcome s c (stepG s code c) := by
  obtain ⟨htool, hcoolant, hdirection⟩ := words_of_g hc
  have hmoves : c.movesTool = true :=
    Bool.or_eq_true_iff.mpr (.inl (Command.isMotion_iff.mpr ⟨n, hn, hholds⟩))
  have hdraws : c.drawsSegment = true := Bool.or_eq_true_iff.mpr (.inl hmoves)
  let t : Modal := { s with spindleSpeed := (c.params.get? "S").getD s.spindleSpeed }
  obtain ⟨finish, g, hfinish, hmove, hkind, hline, hbears⟩ :=
    move_eq (s := t) haxes hholds c.params c.line
  have hreached : s.destination c.params = .ok finish :=
    (Modal.destination_congr rfl rfl c.params).trans hfinish
  unfold stepG
  rw [Modal.withSpindleSpeed_eq, hmotion]
  dsimp only
  rw [hmove]
  exact
    { number := by
        intro group
        rw [ModalGroup.number?_of_holds hn hholds]
        cases group <;> rfl
      tool := by rw [htool]; rfl
      coolant := by rw [hcoolant]; rfl
      spindleDirection := by rw [hdirection]; rfl
      feedrate := by
        unfold Command.rate?
        rw [if_pos hdraws]
        rfl
      moved := fun _ => hreached
      still := fun h => by rw [hmoves] at h; cases h
      kind := by
        unfold Command.segmentKind?
        rw [motionKind?_of_motion hn hholds]
        exact congrArg some hkind
      line := fun g' hg' => by cases hg'; exact hline
      bears := fun g' hg' => by cases hg'; exact { hbears with } }

/-- The outcome of a `G` command without a segment. -/
theorem of_g_no_segment (hc : c.head = .g code) (hdraws : c.drawsSegment = false)
    (hsegment : r.segment? = none) (hposition : r.state.position = s.position)
    (hfeedrate : r.state.feedrate = s.feedrate) (htool : r.state.tool = s.tool)
    (hcoolant : r.state.coolant = s.coolant)
    (hdirection : r.state.spindleDirection = s.spindleDirection)
    (number :
      ∀ group, r.state.number group = (group.number? c).getD (s.number group)) :
    Outcome s c r := by
  obtain ⟨hnoTool, hnoCoolant, hnoDirection⟩ := words_of_g hc
  refine of_no_segment hdraws hsegment hposition hfeedrate number ?_ ?_ ?_
  · rw [hnoTool, htool, Option.getD_none]
  · rw [hnoCoolant, hcoolant, Option.getD_none]
  · rw [hnoDirection, hdirection, Option.getD_none]

/-- A cycle drills if it has depth and retract height; otherwise it fails and leaves
the rate alone. -/
theorem of_cycle (haxes : HasAxes s.position) (hc : c.head = .g code)
    (hn : c.head.gNumber? = some n) (hlow : 81 ≤ n) (hhigh : n ≤ 89)
    (hcycle : GFunction.ofCode code = .cycle n) : Outcome s c (stepG s code c) := by
  obtain ⟨htool, hcoolant, hdirection⟩ := words_of_g hc
  have hisCycle : c.isCycle = true := Command.isCycle_iff.mpr ⟨n, hn, hlow, hhigh⟩
  have hstill := Command.movesTool_of_isCycle hisCycle
  obtain ⟨hmotion, hparameters⟩ := Bool.or_eq_false_iff.mp hstill
  have hnumber : ∀ group : ModalGroup, group.number? c = none := fun group =>
    ModalGroup.number?_of_not_holds hn (ModalGroup.not_holds_of_cycle hlow hhigh group)
  let t : Modal := { s with spindleSpeed := (c.params.get? "S").getD s.spindleSpeed }
  unfold stepG
  rw [Modal.withSpindleSpeed_eq, hcycle]
  dsimp only
  by_cases hcomplete : c.isCompleteCycle = true
  · have hwords := hcomplete
    simp only [Command.isCompleteCycle, hisCycle, Bool.true_and, Bool.and_eq_true,
      Option.isSome_iff_exists] at hwords
    obtain ⟨⟨depth, hdepth⟩, ⟨retract, hretract⟩⟩ := hwords
    obtain ⟨g, hdrill, hkind, hline, hbears⟩ :=
      drill_eq (s := t) haxes hdepth hretract n c.line
    have hdraws : c.drawsSegment = true := Bool.or_eq_true_iff.mpr (.inr hcomplete)
    rw [hdrill]
    exact
      { number := fun group => by rw [hnumber]; cases group <;> rfl
        tool := by rw [htool]; rfl
        coolant := by rw [hcoolant]; rfl
        spindleDirection := by rw [hdirection]; rfl
        feedrate := by
          unfold Command.rate?
          rw [if_pos hdraws]
        moved := fun h => by rw [hstill] at h; cases h
        still := fun _ => rfl
        kind := by
          unfold Command.segmentKind?
          rw [Command.motionKind?_of_not_isMotion hmotion, hparameters, hcomplete]
          exact congrArg some hkind
        line := fun g' hg' => by cases hg'; exact hline
        bears := fun g' hg' => by cases hg'; exact hbears }
  · have hdraws : c.drawsSegment = false := by
      unfold Command.drawsSegment
      rw [hstill, Bool.false_or]
      exact Bool.eq_false_iff.mpr hcomplete
    have hdrill : drill t n c.params c.line =
        { state := t, fault? := some (.incompleteCycle n c.line) } := by
      unfold drill
      split
      · rename_i depth retract hdepth hretract
        refine absurd ?_ hcomplete
        simp only [Command.isCompleteCycle, hisCycle, hdepth, hretract, Option.isSome_some,
          Bool.and_self]
      · rfl
    rw [hdrill]
    refine of_g_no_segment hc hdraws rfl rfl rfl rfl rfl rfl ?_
    intro group
    rw [hnumber]
    cases group <;> rfl

theorem of_g (haxes : HasAxes s.position) (hc : c.head = .g code) :
    Outcome s c (stepG s code c) := by
  have hreads := GFunction.ofCode_reads code
  have hhead : c.head ≠ .modal := by rw [hc]; exact Head.noConfusion
  have hgiven : wholeNumber? code = c.head.gNumber? := by rw [hc]; rfl
  rw [hgiven] at hreads
  generalize hf : GFunction.ofCode code = f at hreads
  generalize hn : c.head.gNumber? = n? at hreads
  cases hreads with
  | cycle low high => exact of_cycle haxes hc hn low high hf
  | @group n group holds =>
    by_cases hmotion : group = .motion
    · subst hmotion
      exact of_motion haxes hc hn holds hf
    · have hdraws : c.drawsSegment = false := by
        refine Command.drawsSegment_eq_false hhead ?_ ?_
        · intro m hm
          cases hn.symm.trans hm
          exact fun h => hmotion (ModalGroup.eq_of_holds holds h)
        · intro m hm
          cases hn.symm.trans hm
          exact fun h => ModalGroup.not_holds_of_cycle h.1 h.2 group holds
      unfold stepG
      rw [Modal.withSpindleSpeed_eq, hf]
      cases group with
      | motion => exact absurd rfl hmotion
      | _ =>
        refine of_g_no_segment hc hdraws rfl rfl rfl rfl rfl rfl ?_
        intro group
        rw [ModalGroup.number?_of_holds hn holds]
        cases group <;> rfl
  | other function groups cycles =>
    have hdraws : c.drawsSegment = false :=
      Command.drawsSegment_eq_false hhead
        (fun m hm => groups m (hn.symm.trans hm) .motion)
        (fun m hm => cycles m (hn.symm.trans hm))
    have hnumber : ∀ group : ModalGroup,
        s.number group = (group.number? c).getD (s.number group) := by
      intro group
      cases n? with
      | none => rw [ModalGroup.number?_of_none hn, Option.getD_none]
      | some n =>
        rw [ModalGroup.number?_of_not_holds hn (groups n rfl group), Option.getD_none]
    -- Such a command takes a spindle speed and may set the work offset.
    have hquiet : ∀ (r : Step) (speed : Float) (offset : AddressMap), r.segment? = none →
        r.state = { s with spindleSpeed := speed, workOffset := offset } →
        Outcome s c r := by
      intro r speed offset hsegment hstate
      refine of_g_no_segment hc hdraws hsegment ?_ ?_ ?_ ?_ ?_ ?_
      · rw [hstate]
      · rw [hstate]
      · rw [hstate]
      · rw [hstate]
      · rw [hstate]
      · intro group
        rw [← hnumber, hstate]
        cases group <;> rfl
    unfold stepG
    rw [Modal.withSpindleSpeed_eq, hf]
    rcases function with rfl | rfl | rfl
    · exact hquiet _ _ s.workOffset rfl rfl
    · obtain ⟨offset, hoffset⟩ := Modal.rebase_eq
        { s with spindleSpeed := (c.params.get? "S").getD s.spindleSpeed } c.params
      exact hquiet _ _ offset rfl hoffset
    · exact hquiet _ _ s.workOffset rfl rfl

end Outcome

/-! ## `M` and `T` commands, and lines of parameters -/

section

variable {s : Modal} {c : Command} {code : Float}

theorem coolant?_of_m (hc : c.head = .m code) :
    c.coolant? = match MFunction.ofCode code with
      | .coolant on => some on
      | _ => none := by
  unfold Command.coolant? MFunction.ofCode
  simp only [hc, Head.mNumber?]
  grind

theorem spindleDirection?_of_m (hc : c.head = .m code) :
    c.spindleDirection? = match MFunction.ofCode code with
      | .spindleOn direction => some direction
      | .spindleOff => some 0
      | _ => none := by
  unfold Command.spindleDirection? MFunction.ofCode
  simp only [hc, Head.mNumber?]
  grind

/-- A command without a `G` number that is no line of parameters asks for no segment. -/
theorem drawsSegment_of_none (hc : c.head.gNumber? = none) (hhead : c.head ≠ .modal) :
    c.drawsSegment = false := by
  refine Command.drawsSegment_eq_false hhead ?_ ?_
  · intro n hn
    rw [hc] at hn
    cases hn
  · intro n hn
    rw [hc] at hn
    cases hn

namespace Outcome

theorem of_m (count : Nat) (hc : c.head = .m code) :
    Outcome s c (stepM count s code c) := by
  have hnumber : c.head.gNumber? = none := by rw [hc]; rfl
  have hdraws : c.drawsSegment = false :=
    drawsSegment_of_none hnumber (by rw [hc]; exact Head.noConfusion)
  have htool : c.tool? = none := by simp only [Command.tool?, hc]
  have hcoolant := coolant?_of_m hc
  have hdirection := spindleDirection?_of_m hc
  unfold stepM
  rw [Modal.withSpindleSpeed_eq]
  generalize MFunction.ofCode code = f at hcoolant hdirection
  cases f <;>
    refine of_no_segment hdraws rfl rfl rfl ?_ (by rw [htool]; rfl)
      (by rw [hcoolant]; rfl) (by rw [hdirection]; rfl) <;>
    intro group <;>
    rw [ModalGroup.number?_of_none hnumber] <;>
    cases group <;> rfl

/-- A `T` command has no word for the coolant or the direction of the spindle. -/
theorem words_of_t (hc : c.head = .t code) :
    c.coolant? = none ∧ c.spindleDirection? = none := by
  simp only [Command.coolant?, Command.spindleDirection?, hc, Head.mNumber?, and_self]

/-- A line of parameters has no word for the tool, the coolant or the direction of the
spindle. -/
theorem words_of_modal (hc : c.head = .modal) :
    c.tool? = none ∧ c.coolant? = none ∧ c.spindleDirection? = none := by
  simp only [Command.tool?, Command.coolant?, Command.spindleDirection?, hc, Head.mNumber?,
    and_self]

theorem of_t (count : Nat) (hc : c.head = .t code) :
    Outcome s c (stepT count s code c) := by
  have hnumber : c.head.gNumber? = none := by rw [hc]; rfl
  have hdraws : c.drawsSegment = false :=
    drawsSegment_of_none hnumber (by rw [hc]; exact Head.noConfusion)
  have htool : c.tool? = (integerPart code).toOption := by simp only [Command.tool?, hc]
  obtain ⟨hcoolant, hdirection⟩ := words_of_t hc
  have hnumbers : ∀ group, s.number group = (group.number? c).getD (s.number group) := by
    intro group
    rw [ModalGroup.number?_of_none hnumber, Option.getD_none]
  unfold stepT integerPartOrFault
  cases hpart : integerPart code with
  | error reason =>
    exact of_no_segment hdraws rfl rfl rfl hnumbers (by rw [htool, hpart]; rfl)
      (by rw [hcoolant]; rfl) (by rw [hdirection]; rfl)
  | ok tool =>
    refine of_no_segment hdraws rfl rfl rfl ?_ (by rw [htool, hpart]; rfl)
      (by rw [hcoolant]; rfl) (by rw [hdirection]; rfl)
    intro group
    rw [← hnumbers]
    cases group <;> rfl

/-- A line of parameters moves the tool in the motion in force. -/
theorem of_modal (haxes : HasAxes s.position) (hmotion : ModalGroup.motion.Holds s.motion)
    (hc : c.head = .modal) : Outcome s c (stepModal s c) := by
  have hnumber : c.head.gNumber? = none := by rw [hc]; rfl
  obtain ⟨htool, hcoolant, hdirection⟩ := words_of_modal hc
  have hparameters : c.isParameterLine = true := by
    unfold Command.isParameterLine
    rw [hc]
    rfl
  have hmoves : c.movesTool = true := Bool.or_eq_true_iff.mpr (.inr hparameters)
  have hdraws : c.drawsSegment = true := Bool.or_eq_true_iff.mpr (.inl hmoves)
  let t : Modal := { s with spindleSpeed := (c.params.get? "S").getD s.spindleSpeed }
  obtain ⟨finish, g, hfinish, hmove, hkind, hline, hbears⟩ :=
    move_eq (s := t) haxes hmotion c.params c.line
  have hreached : s.destination c.params = .ok finish :=
    (Modal.destination_congr rfl rfl c.params).trans hfinish
  unfold stepModal
  rw [Modal.withSpindleSpeed_eq]
  dsimp only
  rw [if_pos (show 0 ≤ s.motion ∧ s.motion ≤ 3 from hmotion), hmove]
  exact
    { number := by
        intro group
        rw [ModalGroup.number?_of_none hnumber]
        cases group <;> rfl
      tool := by rw [htool]; rfl
      coolant := by rw [hcoolant]; rfl
      spindleDirection := by rw [hdirection]; rfl
      feedrate := by
        unfold Command.rate?
        rw [if_pos hdraws]
      moved := fun _ => hreached
      still := fun h => by rw [hmoves] at h; cases h
      kind := by
        unfold Command.segmentKind? Command.motionKind?
        rw [hnumber, hparameters]
        exact congrArg some hkind
      line := fun g' hg' => by cases hg'; exact hline
      bears := fun g' hg' => by cases hg'; exact hbears }

end Outcome

/-- Every command takes up exactly its own words. -/
theorem step_outcome (count : Nat) (haxes : HasAxes s.position)
    (hmotion : ModalGroup.motion.Holds s.motion) : Outcome s c (step count s c) := by
  unfold step
  split
  case h_1 code hc => exact .of_g haxes hc
  case h_2 code hc => exact .of_m count hc
  case h_3 code hc => exact .of_t count hc
  case h_4 hc => exact .of_modal haxes hmotion hc

end

end Machining.Execution
