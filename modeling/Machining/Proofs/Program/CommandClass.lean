import Machining.Axis
import Machining.Program.Command
import Machining.Toolpath.Segment
set_option autoImplicit false

/-!
# Classes of commands

What a command is and which words of it count, read off its head and its parameters
alone.  Nothing here knows of a modal state: this is the yardstick for what execution
leaves in force and for the segments that it gives.
-/

namespace Machining.Program

open Machining.Toolpath

/-! ## Modal groups -/

/-- A modal group: `G` numbers of which the last one given stays in force. -/
inductive ModalGroup where
  | motion
  | plane
  | units
  | coordinateSystem
  | positioning
  deriving DecidableEq, Repr, Inhabited

namespace ModalGroup

/-- The least number of the group. -/
def first : ModalGroup → Int
  | motion => 0
  | plane => 17
  | units => 20
  | coordinateSystem => 54
  | positioning => 90

/-- The greatest number of the group. -/
def last : ModalGroup → Int
  | motion => 3
  | plane => 19
  | units => 21
  | coordinateSystem => 59
  | positioning => 91

/-- The number in force before any command. -/
def initial : ModalGroup → Int
  | motion => 0
  | plane => 17
  | units => 21
  | coordinateSystem => 54
  | positioning => 90

/-- The number belongs to the group. -/
def Holds (group : ModalGroup) (n : Int) : Prop := group.first ≤ n ∧ n ≤ group.last

instance (group : ModalGroup) (n : Int) : Decidable (group.Holds n) :=
  inferInstanceAs (Decidable (_ ∧ _))

/-- No number belongs to two groups. -/
theorem eq_of_holds {p q : ModalGroup} {n : Int} (hp : p.Holds n) (hq : q.Holds n) :
    p = q := by
  unfold Holds at hp hq
  cases p <;> cases q <;> simp only [first, last] at hp hq <;>
    first | rfl | (exfalso; omega)

/-- A drilling cycle is in no modal group. -/
theorem not_holds_of_cycle {n : Int} (hlow : 81 ≤ n) (hhigh : n ≤ 89)
    (group : ModalGroup) : ¬ group.Holds n := by
  rintro ⟨hfirst, hlast⟩
  cases group <;> simp only [first, last] at hfirst hlast <;> omega

/-- The number of the group that a command gives. -/
def number? (group : ModalGroup) (c : Command) : Option Int :=
  match c.head.gNumber? with
  | some n => if group.Holds n then some n else none
  | none => none

variable {group other : ModalGroup} {c : Command} {n : Int}

theorem number?_of_holds (hc : c.head.gNumber? = some n) (hn : other.Holds n) :
    group.number? c = if group = other then some n else none := by
  unfold number?
  rw [hc]
  by_cases h : group = other
  · subst h
    rw [if_pos rfl]
    exact if_pos hn
  · rw [if_neg h]
    exact if_neg fun hgroup => h (eq_of_holds hgroup hn)

theorem number?_of_not_holds (hc : c.head.gNumber? = some n) (hn : ¬ group.Holds n) :
    group.number? c = none := by
  unfold number?
  rw [hc]
  exact if_neg hn

/-- The number that a command gives is its own, and it belongs to the group. -/
theorem number?_eq_some (h : group.number? c = some n) :
    c.head.gNumber? = some n ∧ group.Holds n := by
  unfold number? at h
  split at h
  · rename_i m hm
    split at h
    · rename_i hholds
      cases h
      exact ⟨hm, hholds⟩
    · cases h
  · cases h

theorem number?_of_none (hc : c.head.gNumber? = none) : group.number? c = none := by
  unfold number?
  rw [hc]

end ModalGroup

namespace Command

/-! ## Commands that move the tool or drill -/

/-- The command is a line of parameters alone. -/
def isParameterLine (c : Command) : Bool := c.head.kind = .modal

/-- The axis words of the command count: it is a motion, or a line of parameters. -/
def movesTool (c : Command) : Bool := c.isMotion || c.isParameterLine

/-- The command is a drilling cycle `G81` to `G89`. -/
def isCycle (c : Command) : Bool :=
  match c.head.gNumber? with
  | some n => 81 ≤ n ∧ n ≤ 89
  | none => false

/-- The command is a drilling cycle with its depth and its retract height. -/
def isCompleteCycle (c : Command) : Bool :=
  c.isCycle && (c.params.get? "Z").isSome && (c.params.get? "R").isSome

/-- The command asks for a segment. -/
def drawsSegment (c : Command) : Bool := c.movesTool || c.isCompleteCycle

/-- The kind of segment of a motion `G0` to `G3`. -/
def motionKind? (c : Command) : Option SegmentKind :=
  match c.head.gNumber? with
  | some 0 => some .rapid
  | some 1 => some .linear
  | some 2 => some .clockwiseArc
  | some 3 => some .counterclockwiseArc
  | _ => none

/-- The kind of the segment that a command asks for.  A line of parameters repeats the
kind of the last motion. -/
def segmentKind? (last : SegmentKind) (c : Command) : Option SegmentKind :=
  match c.motionKind? with
  | some kind => some kind
  | none =>
    if c.isParameterLine then some last
    else if c.isCompleteCycle then some .drill
    else none

/-! ## Words that count -/

/-- The tool of a `T` word, if its code has an integer part. -/
def tool? (c : Command) : Option Int :=
  match c.head with
  | .t code => (integerPart code).toOption
  | _ => none

/-- What a command does to the coolant: `M8` turns it on and `M9` off. -/
def coolant? (c : Command) : Option Bool :=
  match c.head.mNumber? with
  | some 8 => some true
  | some 9 => some false
  | _ => none

/-- The direction in which a command leaves the spindle: `M3` clockwise, `M4`
counterclockwise, `M5` at rest. -/
def spindleDirection? (c : Command) : Option Int :=
  match c.head.mNumber? with
  | some 3 => some 1
  | some 4 => some (-1)
  | some 5 => some 0
  | _ => none

/-- An `S` word on the command counts: it is a `G` command or a line of parameters, or it
starts the spindle by `M3` or `M4`. -/
def takesSpeed (c : Command) : Bool :=
  match c.head with
  | .g _ => true
  | .modal => true
  | .m code => wholeNumber? code = some 3 || wholeNumber? code = some 4
  | .t _ => false

/-- The spindle speed that a command leaves: its `S` word, if that counts, and zero with
`M5`. -/
def speed? (c : Command) : Option Float :=
  if c.head.mNumber? = some 5 then some 0.0
  else if c.takesSpeed then c.params.get? "S"
  else none

/-- The rate of an `F` word, which counts on commands that ask for a segment. -/
def rate? (c : Command) : Option Float :=
  if c.drawsSegment then c.params.get? "F" else none

/-- The word of an axis, which counts on commands that move the tool. -/
def axisWord? (axis : Axis) (c : Command) : Option Float :=
  if c.movesTool then c.params.get? axis.letter else none

variable {c : Command}

/-- The motions are the numbers of their modal group. -/
theorem isMotion_iff :
    c.isMotion = true ↔ ∃ n, c.head.gNumber? = some n ∧ ModalGroup.motion.Holds n := by
  unfold isMotion
  cases c.head.gNumber? with
  | none => simp
  | some n =>
    simp only [List.contains_eq_mem, List.mem_cons, Option.some.injEq, List.not_mem_nil,
      or_false, decide_eq_true_eq, exists_eq_left', ModalGroup.Holds, ModalGroup.first,
      ModalGroup.last]
    omega

theorem isParameterLine_iff : c.isParameterLine = true ↔ c.head = .modal := by
  unfold isParameterLine Head.kind
  cases c.head <;> simp

theorem isCycle_iff :
    c.isCycle = true ↔ ∃ n, c.head.gNumber? = some n ∧ 81 ≤ n ∧ n ≤ 89 := by
  unfold isCycle
  cases c.head.gNumber? <;> simp

/-- A motion is no line of parameters. -/
theorem isParameterLine_of_isMotion (h : c.isMotion = true) : c.isParameterLine = false := by
  rw [Bool.eq_false_iff]
  intro hparameters
  obtain ⟨n, hn, _⟩ := isMotion_iff.mp h
  rw [isParameterLine_iff.mp hparameters] at hn
  cases hn

/-- A drilling cycle does not move the tool. -/
theorem movesTool_of_isCycle (h : c.isCycle = true) : c.movesTool = false := by
  obtain ⟨n, hn, hlow, hhigh⟩ := isCycle_iff.mp h
  rw [Bool.eq_false_iff]
  intro hmoves
  rcases Bool.or_eq_true_iff.mp hmoves with hmotion | hparameters
  · obtain ⟨m, hm, hholds⟩ := isMotion_iff.mp hmotion
    cases hn.symm.trans hm
    exact ModalGroup.not_holds_of_cycle hlow hhigh _ hholds
  · rw [isParameterLine_iff.mp hparameters] at hn
    cases hn

/-- A command outside the motions and the cycles that is no line of parameters asks for no
segment. -/
theorem drawsSegment_eq_false (hhead : c.head ≠ .modal)
    (hmotions : ∀ n, c.head.gNumber? = some n → ¬ ModalGroup.motion.Holds n)
    (hcycles : ∀ n, c.head.gNumber? = some n → ¬ (81 ≤ n ∧ n ≤ 89)) :
    c.drawsSegment = false := by
  rw [Bool.eq_false_iff]
  intro hdraws
  rcases Bool.or_eq_true_iff.mp hdraws with hmoves | hcomplete
  · rcases Bool.or_eq_true_iff.mp hmoves with hmotion | hparameters
    · obtain ⟨n, hn, hholds⟩ := isMotion_iff.mp hmotion
      exact hmotions n hn hholds
    · exact hhead (isParameterLine_iff.mp hparameters)
  · unfold isCompleteCycle at hcomplete
    rw [Bool.and_assoc] at hcomplete
    obtain ⟨n, hn, hbounds⟩ := isCycle_iff.mp (Bool.and_eq_true_iff.mp hcomplete).1
    exact hcycles n hn hbounds

theorem isMotion_of_motionKind? {kind : SegmentKind} (h : c.motionKind? = some kind) :
    c.isMotion = true := by
  unfold motionKind? at h
  split at h
  · simp [isMotion, *]
  · simp [isMotion, *]
  · simp [isMotion, *]
  · simp [isMotion, *]
  · cases h

/-- A command has a kind of segment only if it asks for one. -/
theorem drawsSegment_of_segmentKind? {last kind : SegmentKind}
    (h : c.segmentKind? last = some kind) : c.drawsSegment = true := by
  unfold segmentKind? at h
  unfold drawsSegment movesTool
  split at h
  · rename_i hkind
    rw [isMotion_of_motionKind? hkind]
    rfl
  · split at h
    · rename_i hparameters
      rw [hparameters, Bool.or_true, Bool.true_or]
    · split at h
      · rename_i hcycle
        rw [hcycle, Bool.or_true]
      · cases h

theorem motionKind?_of_not_isMotion (h : c.isMotion = false) : c.motionKind? = none := by
  unfold motionKind?
  split
  · exact absurd h (by simp [isMotion, *])
  · exact absurd h (by simp [isMotion, *])
  · exact absurd h (by simp [isMotion, *])
  · exact absurd h (by simp [isMotion, *])
  · rfl

end Command

end Machining.Program
