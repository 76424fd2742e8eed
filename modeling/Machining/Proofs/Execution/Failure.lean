import Machining.Proofs.Execution.SpindleSpeed
import Machining.Proofs.Number.Definedness
import Machining.Proofs.Program.LineLocality
import Machining.Proofs.Program.WordGrammar
set_option autoImplicit false

/-!
# Commands that cannot be carried out

Two kinds of commands fail, wherever they stand: a drilling cycle that lacks its depth or
its retract height, and a change to a tool whose number is written so long that it is
infinite.  Such a command is known by itself; it leaves an issue and nothing else but the
spindle speed of its `S` word.  No other command fails: codes that are read are numbers,
and the axes that commands look up are all there.  So the issues of a program can be read
off its commands, and without the failing ones it does the same.
-/

namespace Machining.Program

namespace Command

/-- The command is a drilling cycle without its depth or without its retract height. -/
def isIncompleteCycle (c : Command) : Bool :=
  c.isCycle && ((c.params.get? "Z").isNone || (c.params.get? "R").isNone)

/-- The command asks for a tool by an infinite number. -/
def asksInfiniteTool (c : Command) : Bool :=
  match c.head with
  | .t code => code.isInf
  | _ => false

/-- The command cannot be carried out. -/
def fails (c : Command) : Bool := c.isIncompleteCycle || c.asksInfiniteTool

/-- Why the command cannot be carried out. -/
def fault? (c : Command) : Option Fault :=
  if c.asksInfiniteTool then some (.notFinite .infinite)
  else if c.isIncompleteCycle then
    c.head.gNumber?.map fun number => .incompleteCycle number c.line
  else none

/-- The issue that the command leaves in a run, if it cannot be carried out. -/
def issue? (c : Command) : Option Execution.RunIssue :=
  c.fault?.map fun fault => ⟨c.line, fault.issue⟩

/-- The code of the command, if it has one, is a number. -/
def IsNumbered (c : Command) : Prop := ∀ code, c.head.code? = some code → code.isNaN = false

variable {c : Command} {code : Float}

theorem fault?_of_t (hc : c.head = .t code) :
    c.fault? = if code.isInf then some (.notFinite .infinite) else none := by
  have hcycle : c.isIncompleteCycle = false := by
    simp only [isIncompleteCycle, isCycle, hc, Head.gNumber?, Bool.false_and]
  simp only [fault?, asksInfiniteTool, hc, hcycle, Bool.false_eq_true, if_false]

theorem fault?_of_not_t (hc : ∀ code, c.head ≠ .t code) :
    c.fault? =
      if c.isIncompleteCycle then
        c.head.gNumber?.map fun number => .incompleteCycle number c.line
      else none := by
  have htool : c.asksInfiniteTool = false := by
    unfold asksInfiniteTool
    split
    · rename_i hhead
      exact absurd hhead (hc _)
    · rfl
  unfold fault?
  rw [htool]
  rfl

/-- A command has a reason to fail just if it fails. -/
theorem isSome_fault? (c : Command) : c.fault?.isSome = c.fails := by
  unfold fault? fails
  cases htool : c.asksInfiniteTool with
  | true => rw [Bool.or_true, if_pos rfl, Option.isSome_some]
  | false =>
    rw [Bool.or_false, if_neg Bool.false_ne_true]
    cases hcycle : c.isIncompleteCycle with
    | false => rfl
    | true =>
      obtain ⟨number, hnumber, _⟩ := isCycle_iff.mp (Bool.and_eq_true_iff.mp hcycle).1
      rw [if_pos rfl, hnumber]
      rfl

/-- A complete cycle is not an incomplete one. -/
theorem isIncompleteCycle_iff :
    c.isIncompleteCycle = true ↔ c.isCycle = true ∧
      ¬ ∃ depth retract, c.params.get? "Z" = some depth ∧ c.params.get? "R" = some retract := by
  unfold isIncompleteCycle
  cases c.params.get? "Z" <;> cases c.params.get? "R" <;> simp

/-- A command that fails is a cycle or a change of the tool. -/
theorem mNumber?_of_fails (h : c.fails = true) : c.head.mNumber? = none := by
  cases hc : c.head with
  | m code =>
    have hcycle : c.isCycle = false := by simp only [isCycle, hc, Head.gNumber?]
    simp [fails, isIncompleteCycle, asksInfiniteTool, hc, hcycle] at h
  | _ => rfl

/-- The lines of the issues are those of the commands that fail. -/
theorem map_line_issue? (commands : List Command) :
    (commands.filterMap issue?).map (·.line) = (commands.filter fails).map (·.line) := by
  induction commands with
  | nil => rfl
  | cons c rest ih =>
    rw [List.filterMap_cons, List.filter_cons, ← isSome_fault?]
    unfold issue?
    cases c.fault? with
    | none => exact ih
    | some fault =>
      rw [Option.map_some, Option.isSome_some, if_pos rfl, List.map_cons, List.map_cons]
      exact congrArg _ ih

end Command

/-! ## Commands of a text -/

theorem Command.ofWords_isNumbered (words : List Word) (line : Int) (source : String) :
    (Command.ofWords words line source).IsNumbered := by
  intro code hcode
  unfold Command.ofWords at hcode
  dsimp only at hcode
  cases hlast : (words.filterMap Head.ofWord?).getLast? with
  | none =>
    rw [hlast] at hcode
    cases hcode
  | some head =>
    rw [hlast, Option.getD_some] at hcode
    obtain ⟨w, _, hw⟩ := List.mem_filterMap.mp (List.mem_of_getLast? hlast)
    rw [Head.code?_of_ofWord? hw] at hcode
    cases hcode
    exact w.numeral.isNaN_value

/-- The codes that are read from a text are numbers. -/
theorem isNumbered_of_mem_readText {text : String} {check : LineCheck} {c : Command}
    (h : c ∈ (readText text check).1.commands) : c.IsNumbered := by
  obtain ⟨p, _, hgiven⟩ := (mem_commands_readText text check).mp h
  unfold readLine at hgiven
  split at hgiven
  · cases hgiven
  · split at hgiven
    · cases hgiven
    · unfold Command.ofLine at hgiven
      dsimp only at hgiven
      split at hgiven
      · cases hgiven
      · cases hgiven
        exact Command.ofWords_isNumbered _ _ _

end Machining.Program

namespace Machining.Execution

open Machining.Program
open Machining.Toolpath

/-! ## One step -/

section

variable {s : Modal} {c : Command} {code : Float}

/-- A `G` code asks for a drilling cycle just if it is one of the nine numbers. -/
theorem GFunction.ofCode_eq_cycle_iff {number : Int} :
    GFunction.ofCode code = .cycle number ↔
      wholeNumber? code = some number ∧ 81 ≤ number ∧ number ≤ 89 := by
  have hreads := GFunction.ofCode_reads code
  generalize GFunction.ofCode code = f at hreads
  generalize wholeNumber? code = number? at hreads
  cases hreads with
  | @group n group holds =>
    constructor
    · intro h
      cases group <;> cases h
    · rintro ⟨hnumber, hlow, hhigh⟩
      cases hnumber
      exact absurd holds (ModalGroup.not_holds_of_cycle hlow hhigh group)
  | @cycle n low high =>
    constructor
    · intro h
      cases h
      exact ⟨rfl, low, high⟩
    · rintro ⟨hnumber, _⟩
      cases hnumber
      rfl
  | other function _ cycles =>
    constructor
    · rintro rfl
      rcases function with h | h | h <;> cases h
    · rintro ⟨hnumber, hbounds⟩
      exact absurd hbounds (cycles number hnumber)

theorem drill_of_incomplete
    (h : ¬ ∃ depth retract, c.params.get? "Z" = some depth ∧ c.params.get? "R" = some retract)
    (number : Int) :
    drill s number c.params c.line =
      { state := s, fault? := some (.incompleteCycle number c.line) } := by
  unfold drill
  split
  · rename_i depth retract hdepth hretract
    exact absurd ⟨depth, retract, hdepth, hretract⟩ h
  · rfl

/-- A command that fails by itself does nothing but take the speed of its `S` word, in
whatever state it is met. -/
theorem step_of_fault? (count : Nat) (s : Modal) {fault : Fault} (h : c.fault? = some fault) :
    step count s c =
      { state := { s with spindleSpeed := c.speed?.getD s.spindleSpeed }
        fault? := some fault } := by
  cases hc : c.head with
  | g code =>
    rw [Command.fault?_of_not_t (by simp [hc])] at h
    split at h
    · rename_i hincomplete
      obtain ⟨hcycle, hlacks⟩ := Command.isIncompleteCycle_iff.mp hincomplete
      obtain ⟨number, hnumber, hlow, hhigh⟩ := Command.isCycle_iff.mp hcycle
      rw [hnumber] at h
      cases h
      have hwhole : wholeNumber? code = some number := by
        rw [hc] at hnumber
        exact hnumber
      have hspeed : c.speed? = c.params.get? "S" := by
        simp [Command.speed?, Command.takesSpeed, Head.mNumber?, hc]
      simp only [step, hc, stepG, GFunction.ofCode_eq_cycle_iff.mpr ⟨hwhole, hlow, hhigh⟩,
        drill_of_incomplete hlacks, Modal.withSpindleSpeed_eq, hspeed]
    · cases h
  | t code =>
    rw [Command.fault?_of_t hc] at h
    split at h
    · rename_i hinfinite
      cases h
      have hspeed : c.speed? = none := by
        simp [Command.speed?, Command.takesSpeed, Head.mNumber?, hc]
      simp only [step, hc, stepT, integerPartOrFault, integerPart_of_isInf hinfinite, hspeed]
      rfl
    · cases h
  | m code =>
    rw [Command.fault?_of_not_t (by simp [hc])] at h
    simp [hc, Head.gNumber?] at h
  | modal =>
    rw [Command.fault?_of_not_t (by simp [hc])] at h
    simp [hc, Head.gNumber?] at h

/-! ## No other failure -/

theorem fault?_move (h : HasAxes s.position) (mode : Int) (params : AddressMap) (line : Int) :
    (move s mode params line).fault? = none := by
  obtain ⟨finish, hfinish, _⟩ := Modal.exists_destination h params
  have hreached := Modal.destination_congr (s := s) (Modal.withFeedrate_position s params)
    (Modal.withFeedrate_positioning s params) params
  unfold move
  dsimp only
  rw [hreached, hfinish]

theorem fault?_drill (h : HasAxes s.position) {depth retract : Float} {params : AddressMap}
    (hdepth : params.get? "Z" = some depth) (hretract : params.get? "R" = some retract)
    (number line : Int) : (drill s number params line).fault? = none := by
  obtain ⟨g, hdrill, _⟩ := drill_eq h hdepth hretract number line
  rw [hdrill]

theorem fault?_rebase (params : AddressMap) : ∀ (axes : List Axis) {s : Modal},
    HasAxes s.position → (Modal.rebaseAxes params axes s).2 = none := by
  intro axes
  induction axes with
  | nil => intro s _; rfl
  | cons axis rest ih =>
    intro s h
    unfold Modal.rebaseAxes
    split
    · exact ih h
    · obtain ⟨coordinate, hcoordinate⟩ := h.exists_get axis
      rw [hcoordinate]
      exact ih h

/-- A `G` command fails only as an incomplete cycle. -/
theorem fault?_stepG (h : HasAxes s.position) (hc : c.head = .g code)
    (hnone : c.fault? = none) : (stepG s code c).fault? = none := by
  have haxes : HasAxes (s.withSpindleSpeed c.params).position := by
    rw [Modal.withSpindleSpeed_position]
    exact h
  unfold stepG
  dsimp only
  split
  case h_1 =>
    have hmove := fault?_move haxes
    split
    · exact hmove _ _ _
    · exact hmove _ _ _
  case h_6 number hcycle =>
    have hnumber : c.head.gNumber? = some number := by
      rw [hc]
      exact (GFunction.ofCode_eq_cycle_iff.mp hcycle).1
    have hisCycle : c.isCycle = true :=
      Command.isCycle_iff.mpr ⟨number, hnumber, (GFunction.ofCode_eq_cycle_iff.mp hcycle).2⟩
    rw [Command.fault?_of_not_t (by simp [hc]), hnumber] at hnone
    have hcomplete : ∃ depth retract,
        c.params.get? "Z" = some depth ∧ c.params.get? "R" = some retract := by
      apply Classical.byContradiction
      intro hlacks
      rw [if_pos (Command.isIncompleteCycle_iff.mpr ⟨hisCycle, hlacks⟩)] at hnone
      cases hnone
    obtain ⟨depth, retract, hdepth, hretract⟩ := hcomplete
    exact fault?_drill haxes hdepth hretract _ _
  case h_8 => exact fault?_rebase c.params Axis.linear haxes
  all_goals rfl

theorem fault?_stepModal (h : HasAxes s.position) (c : Command) :
    (stepModal s c).fault? = none := by
  have haxes : HasAxes (s.withSpindleSpeed c.params).position := by
    rw [Modal.withSpindleSpeed_position]
    exact h
  unfold stepModal
  dsimp only
  split
  · exact fault?_move haxes _ _ _
  · rfl

theorem fault?_stepM (count : Nat) (s : Modal) (code : Float) (c : Command) :
    (stepM count s code c).fault? = none := by
  unfold stepM
  dsimp only
  split <;> rfl

theorem fault?_stepT (count : Nat) (s : Modal) (hc : c.head = .t code)
    (hnumber : c.IsNumbered) (hnone : c.fault? = none) :
    (stepT count s code c).fault? = none := by
  rw [Command.fault?_of_t hc] at hnone
  have hfinite : code.isInf = false := by
    rw [Bool.eq_false_iff]
    intro hinfinite
    rw [if_pos hinfinite] at hnone
    cases hnone
  have hdefined : code.isNaN = false := hnumber code (by rw [hc]; rfl)
  obtain ⟨tool, htool⟩ := exists_integerPart hdefined hfinite
  unfold stepT integerPartOrFault
  rw [htool]
  rfl

/-- From a position on the five axes a command fails for its own reason or not at all. -/
theorem fault?_step (count : Nat) (h : HasAxes s.position) (hnumber : c.IsNumbered) :
    (step count s c).fault? = c.fault? := by
  cases hfault : c.fault? with
  | some fault => rw [step_of_fault? count s hfault]
  | none =>
    unfold step
    split
    case h_1 code hc => exact fault?_stepG h hc hfault
    case h_2 => exact fault?_stepM count s _ c
    case h_3 code hc => exact fault?_stepT count s hc hnumber hfault
    case h_4 => exact fault?_stepModal h c

end

/-! ## Whole runs -/

/-- The issues of a run are those of its commands. -/
theorem issues_runFrom : ∀ (commands : List Command) (count : Nat) {s : Modal},
    HasAxes s.position → (∀ c ∈ commands, c.IsNumbered) →
      (runFrom count s commands).issues = commands.filterMap Command.issue? := by
  intro commands
  induction commands with
  | nil => intro count s _ _; rfl
  | cons c rest ih =>
    intro count s h hnumbers
    have hfault := fault?_step count h (hnumbers c List.mem_cons_self)
    have hrest := ih (count + (step count s c).segment?.toList.length)
      (step_hasAxes count c h).1 fun c' hc' => hnumbers c' (List.mem_cons_of_mem c hc')
    have hfirst : (step count s c).issues c = (Command.issue? c).toList := by
      unfold Step.issues Command.issue?
      rw [hfault]
      cases c.fault? <;> rfl
    rw [runFrom, hrest, hfirst, List.filterMap_cons]
    cases Command.issue? c <;> rfl

/-- A command that fails without an `S` word does nothing at all. -/
theorem step_of_fails (count : Nat) (s : Modal) {c : Command} (h : c.fails = true)
    (hspeed : c.params.get? "S" = none) :
    ∃ fault, step count s c = { state := s, fault? := some fault } := by
  rw [← Command.isSome_fault?, Option.isSome_iff_exists] at h
  obtain ⟨fault, hfault⟩ := h
  have hnone : c.speed? = none := by
    have hfails : c.fails = true := by
      rw [← Command.isSome_fault?, hfault]
      rfl
    unfold Command.speed?
    rw [Command.mNumber?_of_fails hfails, hspeed, ite_self]
    rfl
  refine ⟨fault, ?_⟩
  rw [step_of_fault? count s hfault, hnone]
  rfl

/-- Without an `S` word on the commands that fail, the others do the same by
themselves. -/
theorem runFrom_filter_fails : ∀ (commands : List Command) (count : Nat) (s : Modal),
    (∀ c ∈ commands, c.fails = true → c.params.get? "S" = none) →
      let whole := runFrom count s commands
      let kept := runFrom count s (commands.filter fun c => !c.fails)
      kept.toolpath = whole.toolpath ∧ kept.directives = whole.directives ∧
        kept.state = whole.state := by
  intro commands
  induction commands with
  | nil => intro count s _; exact ⟨rfl, rfl, rfl⟩
  | cons c rest ih =>
    intro count s hspeeds
    have hrest : ∀ c' ∈ rest, c'.fails = true → c'.params.get? "S" = none :=
      fun c' hc' => hspeeds c' (List.mem_cons_of_mem c hc')
    cases hfails : c.fails with
    | true =>
      obtain ⟨fault, hstep⟩ :=
        step_of_fails count s hfails (hspeeds c List.mem_cons_self hfails)
      rw [List.filter_cons_of_neg (by simp [hfails])]
      simp only [runFrom, hstep]
      exact ih count s hrest
    | false =>
      rw [List.filter_cons_of_pos (by simp [hfails])]
      obtain ⟨htoolpath, hdirectives, hstate⟩ := ih
        (count + (step count s c).segment?.toList.length) (step count s c).state hrest
      simp only [runFrom, htoolpath, hdirectives, hstate, and_self]

section

variable (commands : List Command)

/-- The issues of a program on a new state are those of its commands. -/
theorem issues_run (h : ∀ c ∈ commands, c.IsNumbered) :
    (run {} commands).issues = commands.filterMap Command.issue? :=
  issues_runFrom commands 0 zeroPosition_hasAxes h

/-- A last command that fails adds nothing, and takes the speed of its `S` word. -/
theorem run_concat_of_fails {c : Command} (h : c.fails = true) :
    (run {} (commands ++ [c])).toolpath = (run {} commands).toolpath ∧
      (run {} (commands ++ [c])).directives = (run {} commands).directives ∧
      (run {} (commands ++ [c])).state =
        { (run {} commands).state with
          spindleSpeed := c.speed?.getD (run {} commands).state.spindleSpeed } := by
  rw [← Command.isSome_fault?, Option.isSome_iff_exists] at h
  obtain ⟨fault, hfault⟩ := h
  have hstep := step_of_fault? (0 + (runFrom 0 {} commands).toolpath.length)
    (runFrom 0 {} commands).state hfault
  have happend := runFrom_append [c] commands 0 {}
  simp only [runFrom, hstep] at happend
  simp only [run, happend, Option.toList_none, List.append_nil, and_self]

/-- A program without its failing commands does the same, if these have no `S` word. -/
theorem run_filter_fails (h : ∀ c ∈ commands, c.fails = true → c.params.get? "S" = none) :
    (run {} (commands.filter fun c => !c.fails)).toolpath = (run {} commands).toolpath ∧
      (run {} (commands.filter fun c => !c.fails)).directives =
        (run {} commands).directives ∧
      (run {} (commands.filter fun c => !c.fails)).state = (run {} commands).state :=
  runFrom_filter_fails commands 0 {} h

end

/-- The issues of a program are those of its commands that fail, one each and in their
order: of the drilling cycles without depth or retract height, and of the changes to an
infinite tool.  Where such a command stands, no segment and no directive is added, and of
the state only the spindle speed may change, by the `S` word.  If no failing command has
that word, the program without them does the same. -/
theorem run_isolates_failures (text : String) (check : LineCheck) :
    let commands := (readText text check).1.commands
    let r := run {} commands
    r.issues = commands.filterMap Command.issue? ∧
    r.issues.map (·.line) = (commands.filter Command.fails).map (·.line) ∧
    (∀ before c after, commands = before ++ c :: after → c.fails = true →
      let earlier := run {} before
      let later := run {} (before ++ [c])
      later.toolpath = earlier.toolpath ∧ later.directives = earlier.directives ∧
        later.state =
          { earlier.state with
            spindleSpeed := c.speed?.getD earlier.state.spindleSpeed }) ∧
    ((∀ c ∈ commands, c.fails = true → c.params.get? "S" = none) →
      let kept := run {} (commands.filter fun c => !c.fails)
      kept.toolpath = r.toolpath ∧ kept.directives = r.directives ∧
        kept.state = r.state) := by
  have hnumbers : ∀ c ∈ (readText text check).1.commands, c.IsNumbered :=
    fun _ hc => isNumbered_of_mem_readText hc
  generalize (readText text check).1.commands = commands at hnumbers
  intro commands r
  have hissues : r.issues = commands.filterMap Command.issue? := issues_run commands hnumbers
  refine ⟨hissues, ?_, fun before _ _ _ => run_concat_of_fails before,
    run_filter_fails commands⟩
  rw [hissues]
  exact Command.map_line_issue? commands

/-- A program that drills without a retract height, asks for a tool of 310 digits, and
drills without a depth. -/
def failingProgram : String :=
  String.ofList ("M3 S100\nG81 Z-1\nT".toList ++ List.replicate 310 '9' ++
    "\nG1 X5 F50\nG82 R2 F70".toList)

/-- The commands of that program. -/
def failingCommands : List Command := (readText failingProgram acceptAll).1.commands

theorem fails_failingCommands :
    (∀ c ∈ failingCommands, c.fails = true → c.params.get? "S" = none) ∧
      (failingCommands.filter Command.fails).map (·.line) = [2, 3, 5] := by
  unfold failingCommands readText readLines failingProgram
  rw [String.toList_ofList]
  decide +kernel

/-- Three commands of the program fail, and the spindle starts and the tool moves as
without them. -/
theorem run_isolates_failures_three :
    (∀ c ∈ failingCommands, c.fails = true → c.params.get? "S" = none) ∧
      (run {} failingCommands).issues.map (·.line) = [2, 3, 5] ∧
      (run {} (failingCommands.filter fun c => !c.fails)).toolpath =
        (run {} failingCommands).toolpath := by
  obtain ⟨hspeeds, hlines⟩ := fails_failingCommands
  obtain ⟨_, hissues, _, hkept⟩ := run_isolates_failures failingProgram acceptAll
  change (run {} failingCommands).issues.map (·.line) = _ at hissues
  exact ⟨hspeeds, hissues.trans hlines, (hkept hspeeds).1⟩

end Machining.Execution
