import Machining.Program.Reading
import Machining.Proofs.Execution.LastWord
set_option autoImplicit false

/-!
# The spindle speed in force

The speed in force follows the `S` words that count: those on `G` commands, also on
commands that fail, on lines of parameters, and with `M3` and `M4`.  `M5` sets it to
zero.  An `S` word on any other `M` command or on a `T` command is dropped.  Every
segment bears the speed in force after its command.
-/

namespace Machining.Execution

open Machining.Program
open Machining.Toolpath

/-! ## Moves and cycles -/

section

variable (s : Modal) (params : AddressMap)

@[simp] theorem Modal.withFeedrate_spindleSpeed :
    (s.withFeedrate params).spindleSpeed = s.spindleSpeed := by
  simp only [Modal.withFeedrate_eq]

@[simp] theorem Modal.rebase_spindleSpeed :
    (s.rebase params).1.spindleSpeed = s.spindleSpeed := by
  obtain ⟨offset, hoffset⟩ := s.rebase_eq params
  rw [hoffset]

variable (mode number line : Int)

@[simp] theorem move_spindleSpeed :
    (move s mode params line).state.spindleSpeed = s.spindleSpeed := by
  unfold move
  dsimp only
  split <;> simp

@[simp] theorem drill_spindleSpeed :
    (drill s number params line).state.spindleSpeed = s.spindleSpeed := by
  unfold drill
  split
  · dsimp only
    split <;> simp
  · rfl

variable {s params mode number line} {g : Segment}

theorem spindleSpeed_of_move (hg : (move s mode params line).segment? = some g) :
    g.spindleSpeed = s.spindleSpeed := by
  unfold move at hg
  dsimp only at hg
  split at hg
  · cases hg
  · cases hg
    simp

theorem spindleSpeed_of_drill (hg : (drill s number params line).segment? = some g) :
    g.spindleSpeed = s.spindleSpeed := by
  unfold drill at hg
  split at hg
  · dsimp only at hg
    split at hg
    · cases hg
    · cases hg
      simp
  · cases hg

end

/-! ## One command -/

section

variable (count : Nat) (s : Modal) (c : Command) {code : Float}

theorem stepG_spindleSpeed (code : Float) :
    (stepG s code c).state.spindleSpeed = (c.params.get? "S").getD s.spindleSpeed := by
  unfold stepG
  rw [Modal.withSpindleSpeed_eq]
  dsimp only
  split
  case h_1 => split <;> simp
  all_goals simp

theorem stepModal_spindleSpeed :
    (stepModal s c).state.spindleSpeed = (c.params.get? "S").getD s.spindleSpeed := by
  unfold stepModal
  rw [Modal.withSpindleSpeed_eq]
  dsimp only
  split <;> simp

theorem speed?_of_m (hc : c.head = .m code) :
    c.speed? = match MFunction.ofCode code with
      | .spindleOn _ => c.params.get? "S"
      | .spindleOff => some 0.0
      | _ => none := by
  unfold Command.speed? Command.takesSpeed MFunction.ofCode
  simp only [hc, Head.mNumber?]
  grind

/-- After a command the speed in force is the one that the command leaves, or the one
before it.  Nothing is asked of the state, so this holds of commands that fail too. -/
theorem step_spindleSpeed :
    (step count s c).state.spindleSpeed = c.speed?.getD s.spindleSpeed := by
  cases hc : c.head with
  | g code =>
    have hspeed : c.speed? = c.params.get? "S" := by
      simp [Command.speed?, Command.takesSpeed, Head.mNumber?, hc]
    rw [hspeed, ← stepG_spindleSpeed s c code]
    simp only [step, hc]
  | modal =>
    have hspeed : c.speed? = c.params.get? "S" := by
      simp [Command.speed?, Command.takesSpeed, Head.mNumber?, hc]
    rw [hspeed, ← stepModal_spindleSpeed s c]
    simp only [step, hc]
  | t code =>
    have hspeed : c.speed? = none := by
      simp [Command.speed?, Command.takesSpeed, Head.mNumber?, hc]
    simp only [step, hc, stepT, hspeed, Option.getD_none]
    split <;> rfl
  | m code =>
    have hspeed := speed?_of_m c hc
    simp only [step, hc, stepM, Modal.withSpindleSpeed_eq]
    generalize MFunction.ofCode code = f at hspeed ⊢
    cases f <;> simp [hspeed]

variable {count s c} {g : Segment}

/-- A segment bears the speed in force after its command. -/
theorem spindleSpeed_of_segment (hg : (step count s c).segment? = some g) :
    g.spindleSpeed = (step count s c).state.spindleSpeed := by
  cases hc : c.head with
  | g code =>
    simp only [step, hc] at hg ⊢
    rw [stepG_spindleSpeed]
    unfold stepG at hg
    rw [Modal.withSpindleSpeed_eq] at hg
    dsimp only at hg
    split at hg
    case h_1 =>
      split at hg
      · exact spindleSpeed_of_move hg
      · exact spindleSpeed_of_move hg
    case h_6 => exact spindleSpeed_of_drill hg
    all_goals cases hg
  | modal =>
    simp only [step, hc] at hg ⊢
    rw [stepModal_spindleSpeed]
    unfold stepModal at hg
    rw [Modal.withSpindleSpeed_eq] at hg
    dsimp only at hg
    split at hg
    · exact spindleSpeed_of_move hg
    · cases hg
  | m code =>
    simp only [step, hc, stepM] at hg
    split at hg <;> cases hg
  | t code =>
    simp only [step, hc, stepT] at hg
    split at hg <;> cases hg

end

/-! ## Whole runs -/

/-- The speed in force after a run is the last one that its commands left. -/
theorem runFrom_spindleSpeed (commands : List Command) (count : Nat) (s : Modal) :
    (runFrom count s commands).state.spindleSpeed =
      lastWord Command.speed? s.spindleSpeed commands :=
  runFrom_lastWord (·.spindleSpeed) Command.speed? (fun _ => True) (fun _ => True)
    (fun count s c _ _ => ⟨trivial, step_spindleSpeed count s c⟩)
    commands count trivial fun _ _ => trivial

/-! ## Where an `S` word counts -/

/-- A command with an `S` word, other than `M5`, leaves that speed in force just if it is
a `G` command, a line of parameters or an `M3` or `M4`, or if that very speed was in
force before.  All other commands leave the speed alone, whatever their `S` word says. -/
theorem speed_word_counts_iff {c : Command} {speed : Float}
    (hword : c.params.get? "S" = some speed) (hstop : c.head.mNumber? ≠ some 5)
    (count : Nat) (s : Modal) :
    ((step count s c).state.spindleSpeed = speed ↔
      c.takesSpeed = true ∨ s.spindleSpeed = speed) ∧
    (c.takesSpeed = false → (step count s c).state.spindleSpeed = s.spindleSpeed) := by
  rw [step_spindleSpeed]
  unfold Command.speed?
  rw [if_neg hstop, hword]
  cases htakes : c.takesSpeed with
  | true => simp
  | false => simp

/-- A cycle without its retract height fails, and its `S` word counts all the same. -/
theorem speed_word_counts_on_failing_cycle :
    let c : Command := { head := .g 81.0, params := ⟨[("S", 700.0), ("Z", -1.0)]⟩, line := 4 }
    let s : Modal := { spindleSpeed := 1000.0, spindleDirection := 1 }
    c.params.get? "S" = some 700.0 ∧ c.head.mNumber? ≠ some 5 ∧
      (step 3 s c).fault? = some (.incompleteCycle 81 4) ∧
      (step 3 s c).state.spindleSpeed = 700.0 := by
  intro c s
  have hword : c.params.get? "S" = some 700.0 := by decide +kernel
  have hstop : c.head.mNumber? ≠ some 5 := by decide +kernel
  refine ⟨hword, hstop, by decide +kernel, ?_⟩
  exact (speed_word_counts_iff hword hstop 3 s).1.mpr (.inl rfl)

/-- The `S` word on the line of a tool change is dropped, while the spindle runs on at
the speed before. -/
theorem tool_change_drops_speed_word :
    let commands := (readText "M3 S1000\nT2 S1500").1.commands
    let earlier := commands.dropLast
    ∃ c, commands = earlier ++ [c] ∧ c.params.get? "S" = some 1500.0 ∧
      c.head.mNumber? ≠ some 5 ∧
      (run {} (earlier ++ [c])).state.spindleSpeed = 1000.0 ∧
      (run {} (earlier ++ [c])).state.spindleSpeed ≠ 1500.0 := by
  refine ⟨⟨.t 2.0, ⟨[("S", 1500.0)]⟩, 2, "T2 S1500"⟩, ?_⟩
  decide +kernel

end Machining.Execution
