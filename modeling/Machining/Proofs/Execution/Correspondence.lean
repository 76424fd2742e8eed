import Machining.Program.Reading
import Machining.Program.Tally
import Machining.Proofs.Execution.LastWord
import Machining.Proofs.Program.LineOrder
set_option autoImplicit false

/-!
# Commands and their segments

A run gives one segment for each command that asks for one, in the order of the
commands, with the line and the kind that the command calls for, and no other segment.
So the commands alone say how long the toolpath is, and the three ways of counting
motions agree: the tally by categories, the list of motions and the toolpath.
-/

namespace Machining.Execution

open Machining.Program
open Machining.Toolpath

/-! ## The segments that commands ask for -/

/-- Line and kind of the segments that commands ask for, when `last` is the kind of the
last motion before them. -/
def drawn (last : SegmentKind) : List Command → List (Int × SegmentKind)
  | [] => []
  | c :: rest =>
    ((c.segmentKind? last).map fun kind => (c.line, kind)).toList ++
      drawn (c.motionKind?.getD last) rest

section

variable {c : Command}

/-- The kind of a motion is that of the number it gives. -/
theorem motionKind?_eq (c : Command) :
    c.motionKind? = (ModalGroup.motion.number? c).map segmentKind := by
  cases hgiven : ModalGroup.motion.number? c with
  | some n =>
    obtain ⟨hn, hholds⟩ := ModalGroup.number?_eq_some hgiven
    rw [motionKind?_of_motion hn hholds]
    rfl
  | none =>
    refine Command.motionKind?_of_not_isMotion ?_
    rw [Bool.eq_false_iff]
    intro hmotion
    obtain ⟨n, hn, hholds⟩ := Command.isMotion_iff.mp hmotion
    rw [ModalGroup.number?_of_holds hn hholds] at hgiven
    cases hgiven

theorem isSome_motionKind? : c.motionKind?.isSome = c.isMotion := by
  cases hkind : c.motionKind? with
  | some kind => rw [Command.isMotion_of_motionKind? hkind, Option.isSome_some]
  | none =>
    rw [Option.isSome_none]
    cases hmotion : c.isMotion with
    | false => rfl
    | true =>
      obtain ⟨n, hn, hholds⟩ := Command.isMotion_iff.mp hmotion
      rw [motionKind?_of_motion hn hholds] at hkind
      cases hkind

/-- A command has a kind of segment, whatever came before it, just if it asks for
one. -/
theorem isSome_segmentKind? (last : SegmentKind) :
    (c.segmentKind? last).isSome = c.drawsSegment := by
  unfold Command.segmentKind? Command.drawsSegment Command.movesTool
  rw [← isSome_motionKind?]
  cases c.motionKind? with
  | some kind => rfl
  | none => cases c.isParameterLine <;> cases c.isCompleteCycle <;> rfl

/-- The lines of the segments are those of the commands that ask for one. -/
theorem map_line_drawn : ∀ (commands : List Command) (last : SegmentKind),
    (drawn last commands).map (·.1) =
      (commands.filter Command.drawsSegment).map (·.line) := by
  intro commands
  induction commands with
  | nil => intro last; rfl
  | cons c rest ih =>
    intro last
    rw [drawn, List.map_append, ih, List.filter_cons, ← isSome_segmentKind? last]
    cases c.segmentKind? last <;> rfl

end

/-! ## The segments of a run -/

/-- A command that asks for a segment gives one. -/
theorem Outcome.exists_segment {s : Modal} {c : Command} {r : Step} (h : Outcome s c r)
    (hdraws : c.drawsSegment = true) : ∃ g, r.segment? = some g := by
  have hkind : (r.segment?.map (·.kind)).isSome = true := by
    rw [h.kind, isSome_segmentKind?, hdraws]
  rw [Option.isSome_map] at hkind
  exact Option.isSome_iff_exists.mp hkind

/-- A segment has the line of its command and the kind that the command calls for. -/
theorem Outcome.lineAndKind {s : Modal} {c : Command} {r : Step} (h : Outcome s c r) :
    r.segment?.toList.map (fun g => (g.line, g.kind)) =
      ((c.segmentKind? (segmentKind s.motion)).map fun kind => (c.line, kind)).toList := by
  rw [← h.kind]
  cases hsegment : r.segment? with
  | none => rfl
  | some g =>
    have hline := h.line g hsegment
    simp only [Option.toList_some, List.map_cons, List.map_nil, Option.map_some, hline]

/-- After a command the motion in force is of the kind of the last motion. -/
theorem Outcome.segmentKind_motion {s : Modal} {c : Command} {r : Step}
    (h : Outcome s c r) :
    segmentKind r.state.motion = c.motionKind?.getD (segmentKind s.motion) := by
  have hnumber : r.state.motion = (ModalGroup.motion.number? c).getD s.motion :=
    h.number .motion
  rw [hnumber, motionKind?_eq, Option.getD_map]

/-- The toolpath holds just the segments that the commands ask for, in their order. -/
theorem runFrom_drawn : ∀ (commands : List Command) (count : Nat) {s : Modal},
    s.IsReady →
      (runFrom count s commands).toolpath.map (fun g => (g.line, g.kind)) =
        drawn (segmentKind s.motion) commands := by
  intro commands
  induction commands with
  | nil => intro count s _; rfl
  | cons c rest ih =>
    intro count s hs
    have houtcome := hs.outcome count c
    rw [runFrom, List.map_append, ih _ (hs.step count c), houtcome.lineAndKind,
      houtcome.segmentKind_motion]
    rfl

/-- The segments of a program have the lines of the commands that ask for one. -/
theorem map_line_toolpath (commands : List Command) :
    (run {} commands).toolpath.map (·.line) =
      (commands.filter Command.drawsSegment).map (·.line) := by
  have hdrawn := runFrom_drawn commands 0 Modal.IsReady.initial
  rw [← map_line_drawn commands (segmentKind 0), ← hdrawn, List.map_map]
  rfl

theorem toolpath_lines_increasing (text : String) (check : LineCheck) :
    ((run {} (readText text check).1.commands).toolpath.map (·.line)).Pairwise (· < ·) := by
  rw [map_line_toolpath]
  exact (readText_lines_increasing text check).sublist (List.filter_sublist.map _)

/-! ## Counting -/

/-- Elements of which just one of two tests holds are counted once by the two. -/
theorem countP_add_countP {α : Type} {p q r : α → Bool}
    (hp : ∀ a, p a = true → q a = false ∧ r a = true)
    (hq : ∀ a, p a = false → q a = r a) (xs : List α) :
    xs.countP p + xs.countP q = xs.countP r := by
  induction xs with
  | nil => rfl
  | cons a rest ih =>
    rw [List.countP_cons, List.countP_cons, List.countP_cons, ← ih]
    cases h : p a with
    | true =>
      obtain ⟨hqa, hra⟩ := hp a h
      simp only [hqa, hra, if_true, Bool.false_eq_true, if_false]
      omega
    | false =>
      simp only [hq a h, Bool.false_eq_true, if_false]
      omega

theorem length_toolpath (commands : List Command) :
    (run {} commands).toolpath.length = commands.countP Command.drawsSegment := by
  rw [← List.length_map (·.line), map_line_toolpath, List.length_map,
    List.countP_eq_length_filter]

/-- The moves of a tally are the motions. -/
theorem tally_motions (commands : List Command) :
    (Tally.ofCommands commands).rapidMoves + (Tally.ofCommands commands).linearMoves +
      (Tally.ofCommands commands).arcMoves = commands.countP Command.isMotion := by
  unfold Tally.ofCommands
  dsimp only
  rw [countP_add_countP (r := fun c => c.head.gNumber? = some 0 || c.head.gNumber? = some 1)]
  · refine countP_add_countP ?_ ?_ commands
    · intro c h
      unfold Command.isMotion
      grind
    · intro c h
      unfold Command.isMotion
      grind
  · intro c h
    grind
  · intro c h
    grind

/-- The categories of a tally that move the tool, and the complete cycles, make up the
toolpath. -/
theorem tally_toolpath (commands : List Command) :
    (Tally.ofCommands commands).rapidMoves + (Tally.ofCommands commands).linearMoves +
        (Tally.ofCommands commands).arcMoves + (Tally.ofCommands commands).modalCommands +
        commands.countP Command.isCompleteCycle =
      (run {} commands).toolpath.length := by
  have hmoves : commands.countP Command.isMotion +
      (Tally.ofCommands commands).modalCommands = commands.countP Command.movesTool := by
    refine countP_add_countP ?_ ?_ commands
    · intro c hc
      exact ⟨Command.isParameterLine_of_isMotion hc, Bool.or_eq_true_iff.mpr (.inl hc)⟩
    · intro c hc
      unfold Command.movesTool
      rw [hc, Bool.false_or]
      rfl
  rw [tally_motions, length_toolpath, hmoves]
  refine countP_add_countP ?_ ?_ commands
  · intro c hc
    have hincomplete : c.isCompleteCycle = false := by
      have hcycle : c.isCycle = false := by
        rw [Bool.eq_false_iff]
        intro hcycle
        rw [Command.movesTool_of_isCycle hcycle] at hc
        cases hc
      unfold Command.isCompleteCycle
      rw [hcycle]
      rfl
    exact ⟨hincomplete, Bool.or_eq_true_iff.mpr (.inl hc)⟩
  · intro c hc
    unfold Command.drawsSegment
    rw [hc, Bool.false_or]

end Machining.Execution
