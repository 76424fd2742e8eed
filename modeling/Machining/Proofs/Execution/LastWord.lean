import Machining.Program.Reading
import Machining.Proofs.Execution.CommandEffect
import Machining.Proofs.Execution.Composition
set_option autoImplicit false

/-!
# The last word counts

What a program leaves in force is, value by value, the last word that its commands
gave for it, or the value it started with.  The words that count for a value are read
off the commands one by one; which commands came in between, and whether they failed,
does not matter.
-/

namespace Machining.Execution

open Machining.Program
open Machining.Toolpath

/-! ## The last word of some commands -/

section

variable {α β : Type}

/-- The last word that commands give, or what was there before them. -/
def lastWord (word? : Command → Option α) (before : α) (commands : List Command) : α :=
  (commands.filterMap word?).getLast?.getD before

theorem lastWord_cons (word? : Command → Option α) (before : α) (c : Command)
    (rest : List Command) :
    lastWord word? before (c :: rest) =
      lastWord word? ((word? c).getD before) rest := by
  unfold lastWord
  rw [List.filterMap_cons]
  cases word? c with
  | none => rfl
  | some value =>
    rw [List.getLast?_cons]
    rfl

/-- Words may be read as other values before or after the last one is taken. -/
theorem lastWord_map (f : α → β) (word? : Command → Option α) (before : α)
    (commands : List Command) :
    lastWord (fun c => (word? c).map f) (f before) commands =
      f (lastWord word? before commands) := by
  unfold lastWord
  rw [← List.map_filterMap, List.getLast?_map, Option.getD_map]

end

/-! ## From one command to a run -/

/-- A value that every step of a run either takes from a word of its command or leaves
is, after the run, the last of these words.  The steps may count on an invariant and on
what is known of the commands. -/
theorem runFrom_lastWord {α : Type} (field : Modal → α) (word? : Command → Option α)
    (Inv : Modal → Prop) (Allowed : Command → Prop)
    (hstep : ∀ count s c, Inv s → Allowed c →
      Inv (step count s c).state ∧
        field (step count s c).state = (word? c).getD (field s)) :
    ∀ (commands : List Command) (count : Nat) {s : Modal}, Inv s →
      (∀ c ∈ commands, Allowed c) →
      field (runFrom count s commands).state = lastWord word? (field s) commands := by
  intro commands
  induction commands with
  | nil => intro count s _ _; rfl
  | cons c rest ih =>
    intro count s hs hallowed
    obtain ⟨hnext, hfield⟩ := hstep count s c hs (hallowed c List.mem_cons_self)
    rw [lastWord_cons, ← hfield]
    exact ih _ hnext fun c' hc' => hallowed c' (List.mem_cons_of_mem _ hc')

/-- A state in which every command can be carried out: the position is on the five axes
and a motion is in force. -/
structure Modal.IsReady (s : Modal) : Prop where
  axes : HasAxes s.position
  motion : ModalGroup.motion.Holds s.motion

namespace Modal.IsReady

theorem initial : IsReady {} := ⟨zeroPosition_hasAxes, by decide⟩

variable {s : Modal}

theorem outcome (h : s.IsReady) (count : Nat) (c : Command) :
    Outcome s c (step count s c) :=
  step_outcome count h.axes h.motion

theorem step (h : s.IsReady) (count : Nat) (c : Command) :
    (step count s c).state.IsReady where
  axes := (step_hasAxes count c h.axes).1
  motion := by
    have hnumber := (h.outcome count c).number .motion
    show ModalGroup.motion.Holds ((Execution.step count s c).state.number .motion)
    rw [hnumber]
    cases hgiven : ModalGroup.motion.number? c with
    | none => exact h.motion
    | some n => exact (ModalGroup.number?_eq_some hgiven).2

theorem runFrom (h : s.IsReady) : ∀ (commands : List Command) (count : Nat),
    (runFrom count s commands).state.IsReady := by
  intro commands
  induction commands generalizing s with
  | nil => intro count; exact h
  | cons c rest ih => intro count; exact ih (h.step count c) _

/-- The last word counts for every value that follows the words of the commands. -/
theorem lastWord {α : Type} (h : s.IsReady) (field : Modal → α)
    (word? : Command → Option α)
    (hfield : ∀ {s c r}, Outcome s c r → field r.state = (word? c).getD (field s))
    (count : Nat) (commands : List Command) :
    field (Execution.runFrom count s commands).state =
      Execution.lastWord word? (field s) commands :=
  runFrom_lastWord field word? IsReady (fun _ => True)
    (fun count _ c hs _ => ⟨hs.step count c, hfield (hs.outcome count c)⟩)
    commands count h fun _ _ => trivial

end Modal.IsReady

/-! ## Axis words in absolute mode -/

namespace Modal

variable {s : Modal}

/-- In absolute mode a move takes every axis to its word and leaves the others. -/
theorem get?_moveAxes (habsolute : s.isAbsolute = true) (params : AddressMap)
    (axis : Axis) : ∀ (axes : List Axis) (reached : AddressMap) {finish : AddressMap},
      s.moveAxes params axes reached = .ok finish →
        finish.get? axis.name =
          if axis ∈ axes then (params.get? axis.letter).or (reached.get? axis.name)
          else reached.get? axis.name := by
  intro axes
  induction axes with
  | nil =>
    intro reached finish h
    cases h
    rfl
  | cons first rest ih =>
    intro reached finish h
    unfold moveAxes at h
    split at h
    · rename_i hnone
      rw [ih reached h]
      by_cases haxis : axis = first
      · subst haxis
        simp only [List.mem_cons, true_or, hnone, Option.none_or, ite_self]
      · simp only [List.mem_cons, haxis, false_or]
    · rename_i value hvalue
      have htarget : s.target first value = .ok value := by
        unfold target
        rw [if_pos habsolute]
      rw [htarget] at h
      dsimp only at h
      rw [ih _ h, AddressMap.get?_set]
      by_cases haxis : axis = first
      · subst haxis
        simp only [List.mem_cons, true_or, if_true, hvalue, Option.some_or, ite_self]
      · have hname : axis.name ≠ first.name := fun heq => haxis (Axis.name_injective heq)
        simp only [List.mem_cons, haxis, false_or, if_neg hname]

theorem get?_destination (habsolute : s.positioning = 90) {params finish : AddressMap}
    (h : s.destination params = .ok finish) (axis : Axis) :
    finish.get? axis.name = (params.get? axis.letter).or (s.position.get? axis.name) := by
  have hmode : s.isAbsolute = true := decide_eq_true habsolute
  rw [get?_moveAxes hmode params axis Axis.all s.position h, if_pos (Axis.mem_all axis)]

end Modal

/-- The command does not turn to incremental positioning. -/
def KeepsAbsolute (c : Command) : Prop := c.head.gNumber? ≠ some 91

/-- In absolute mode a command takes every axis that its words move to the word. -/
theorem Outcome.coordinate {s : Modal} {c : Command} {r : Step} (h : Outcome s c r)
    (habsolute : s.positioning = 90) (axis : Axis) :
    r.state.position.get? axis.name =
      ((c.axisWord? axis).map some).getD (s.position.get? axis.name) := by
  unfold Command.axisWord?
  cases hmoves : c.movesTool with
  | true =>
    rw [Modal.get?_destination habsolute (h.moved hmoves) axis, if_pos rfl]
    cases c.params.get? axis.letter <;> rfl
  | false =>
    rw [h.still hmoves]
    rfl

theorem Outcome.positioning {s : Modal} {c : Command} {r : Step} (h : Outcome s c r)
    (habsolute : s.positioning = 90) (hc : KeepsAbsolute c) : r.state.positioning = 90 := by
  have hnumber := h.number .positioning
  have hbefore : s.number .positioning = 90 := habsolute
  show r.state.number .positioning = 90
  rw [hnumber, hbefore]
  cases hgiven : ModalGroup.positioning.number? c with
  | none => rfl
  | some n =>
    -- The other number of the group would turn to incremental positioning.
    obtain ⟨hn, hlow, hhigh⟩ := ModalGroup.number?_eq_some hgiven
    simp only [ModalGroup.first, ModalGroup.last] at hlow hhigh
    have hne : n ≠ 91 := by
      rintro rfl
      exact hc hn
    show n = 90
    omega

/-! ## Whole programs -/

/-- In the state every value is the last word that the commands gave for it, or the
value that nothing has been said about. -/
structure Modal.HoldsLastWords (t : Modal) (commands : List Command) : Prop where
  /-- Motion, plane, units, coordinate system and positioning. -/
  number : ∀ group : ModalGroup,
    t.number group = lastWord group.number? group.initial commands
  tool : t.tool = lastWord Command.tool? 1 commands
  coolant : t.coolant = lastWord Command.coolant? false commands
  spindleDirection : t.spindleDirection = lastWord Command.spindleDirection? 0 commands
  feedrate : t.feedrate = some (lastWord Command.rate? 100.0 commands)
  /-- Without incremental positioning the axes are where their last words took them. -/
  position : (∀ c ∈ commands, KeepsAbsolute c) → ∀ axis : Axis,
    t.position.get? axis.name = some (lastWord (Command.axisWord? axis) 0.0 commands)

/-- The segment bears the last words of the commands for tool, rate and plane. -/
structure BearsLastWords (commands : List Command) (g : Segment) : Prop where
  tool : g.tool = lastWord Command.tool? 1 commands
  feedrate : g.feedrate =
    if g.kind = .rapid then none else some (lastWord Command.rate? 100.0 commands)
  plane : g.kind = .clockwiseArc ∨ g.kind = .counterclockwiseArc →
    ∃ offsets radius,
      g.shape = .arc offsets radius (lastWord ModalGroup.plane.number? 17 commands)

theorem runFrom_holdsLastWords (commands : List Command) :
    (runFrom 0 {} commands).state.HoldsLastWords commands where
  number := by
    intro group
    have hinitial : Modal.number {} group = group.initial := by cases group <;> rfl
    rw [← hinitial]
    exact Modal.IsReady.initial.lastWord (·.number group) _ (fun h => h.number group) 0
      commands
  tool := Modal.IsReady.initial.lastWord (·.tool) _ Outcome.tool 0 commands
  coolant := Modal.IsReady.initial.lastWord (·.coolant) _ Outcome.coolant 0 commands
  spindleDirection := Modal.IsReady.initial.lastWord (·.spindleDirection) _
    Outcome.spindleDirection 0 commands
  feedrate := by
    have hstep : ∀ {s : Modal} {c : Command} {r : Step}, Outcome s c r →
        r.state.feedrate = (c.rate?.map some).getD s.feedrate := by
      intro s c r h
      rw [h.feedrate]
      cases c.rate? <;> rfl
    rw [← lastWord_map some]
    exact Modal.IsReady.initial.lastWord (·.feedrate) _ hstep 0 commands
  position := by
    intro hcommands axis
    have hstep : ∀ count s c, s.IsReady ∧ s.positioning = 90 → KeepsAbsolute c →
        ((step count s c).state.IsReady ∧ (step count s c).state.positioning = 90) ∧
          (step count s c).state.position.get? axis.name =
            ((c.axisWord? axis).map some).getD (s.position.get? axis.name) := by
      intro count s c hs hc
      have houtcome := hs.1.outcome count c
      exact ⟨⟨hs.1.step count c, houtcome.positioning hs.2 hc⟩,
        houtcome.coordinate hs.2 axis⟩
    have hinitial : zeroPosition.get? axis.name = some 0.0 := by cases axis <;> decide
    rw [← lastWord_map some, ← hinitial]
    exact runFrom_lastWord (·.position.get? axis.name) _
      (fun s => s.IsReady ∧ s.positioning = 90) KeepsAbsolute hstep commands 0
      ⟨Modal.IsReady.initial, rfl⟩ hcommands

/-- A segment that a state gives bears the last words of the commands that left the
state after it. -/
theorem Bears.lastWords {t : Modal} {g : Segment} {commands : List Command}
    (h : Bears t g) (ht : t.HoldsLastWords commands) : BearsLastWords commands g where
  tool := h.tool.trans ht.tool
  feedrate := by rw [h.feedrate, ht.feedrate]
  plane := by
    intro hkind
    obtain ⟨offsets, radius, hshape⟩ := h.plane hkind
    have hplane : t.plane = lastWord ModalGroup.plane.number? 17 commands :=
      ht.number .plane
    exact ⟨offsets, radius, hplane ▸ hshape⟩

/-- A program leaves in force the last word that its commands gave for every value.  A
command that neither is a motion nor a line of parameters leaves the position alone,
whatever axis words it has.  Every segment is given by one of the commands, and bears
the last words up to and with this command. -/
theorem run_holds_last_words (commands : List Command) :
    (run {} commands).state.HoldsLastWords commands ∧
      (∀ before c after, commands = before ++ c :: after → c.movesTool = false →
        (run {} (before ++ [c])).state.position = (run {} before).state.position) ∧
      ∀ i g, (run {} commands).toolpath[i]? = some g →
        ∃ before c after, commands = before ++ c :: after ∧
          (run {} before).toolpath.length = i ∧ c.drawsSegment = true ∧
          g.line = c.line ∧ BearsLastWords (before ++ [c]) g := by
  refine ⟨runFrom_holdsLastWords commands, ?_, ?_⟩
  · intro before c after _ hc
    have hready := Modal.IsReady.initial.runFrom before 0
    show (runFrom 0 {} (before ++ [c])).state.position = _
    rw [state_runFrom_concat]
    exact (hready.outcome _ c).still hc
  · intro i g hg
    obtain ⟨before, c, after, hsplit, hcount, hgiven⟩ :=
      exists_command_of_segment commands 0 {} hg
    have hready := Modal.IsReady.initial.runFrom before 0
    have houtcome := hready.outcome (0 + i) c
    have hlast := runFrom_holdsLastWords (before ++ [c])
    rw [state_runFrom_concat, hcount] at hlast
    exact ⟨before, c, after, hsplit, hcount, houtcome.drawsSegment hgiven,
      houtcome.line g hgiven, (houtcome.bears g hgiven).lastWords hlast⟩

/-- Words on an incomplete cycle, on a code that is not whole and on an `M` line do not
count; the fraction of a tool does not either. -/
example :
    let commands := (readText ("G1 X5 F50\nG17.5\nG18\nG81 X9 Z-1 F70\nG82 Z-2 R3 F80\n" ++
      "T2.9\nM8 X4 F90")).1.commands
    lastWord ModalGroup.plane.number? 17 commands = 18 ∧
      lastWord Command.tool? 1 commands = 2 ∧
      lastWord Command.rate? 100.0 commands = 80.0 ∧
      lastWord (Command.axisWord? .x) 0.0 commands = 5.0 := by
  decide +kernel

end Machining.Execution
