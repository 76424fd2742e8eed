import Machining.Proofs.Execution.Emission
set_option autoImplicit false

/-!
# Runs in parts

A run of commands is a run of the first ones and then a run of the others from the
state that the first ones left.  So every segment of a run can be traced to the command
that gave it and to what the commands before left behind.  Commands see the segments
before them in one way only: they anchor their directives behind them.
-/

namespace Machining.Execution

open Machining.Program
open Machining.Toolpath

/-- A run in two parts is the first part, and then the second from where that ended. -/
theorem runFrom_append (later : List Command) :
    ∀ (earlier : List Command) (count : Nat) (s : Modal),
      runFrom count s (earlier ++ later) =
        let first := runFrom count s earlier
        let second := runFrom (count + first.toolpath.length) first.state later
        { state := second.state
          toolpath := first.toolpath ++ second.toolpath
          directives := first.directives ++ second.directives
          issues := first.issues ++ second.issues
          log := first.log ++ second.log } := by
  intro earlier
  induction earlier with
  | nil => intro count s; rfl
  | cons c rest ih =>
    intro count s
    rw [List.cons_append]
    simp only [runFrom, ih, List.length_append, List.append_assoc, Nat.add_assoc]

/-- One command more is one step more. -/
theorem state_runFrom_concat (earlier : List Command) (c : Command) (count : Nat)
    (s : Modal) :
    (runFrom count s (earlier ++ [c])).state =
      (step (count + (runFrom count s earlier).toolpath.length)
        (runFrom count s earlier).state c).state := by
  rw [runFrom_append]
  rfl

/-- The toolpath of a first part that ends with the segment of its last command is as long
as the index of this segment says, and begins the whole toolpath. -/
theorem take_toolpath_runFrom {earlier later : List Command} {c : Command} {count : Nat}
    {s : Modal} {g : Segment}
    (hg : (step (count + (runFrom count s earlier).toolpath.length)
      (runFrom count s earlier).state c).segment? = some g) :
    (runFrom count s (earlier ++ c :: later)).toolpath.take
        ((runFrom count s earlier).toolpath.length + 1) =
      (runFrom count s (earlier ++ [c])).toolpath := by
  have hlength : (runFrom count s (earlier ++ [c])).toolpath.length =
      (runFrom count s earlier).toolpath.length + 1 := by
    simp [runFrom_append, runFrom, hg]
  rw [← hlength, List.append_cons earlier c later, runFrom_append later]
  exact List.take_left

/-- The segment that a command gives follows those of the commands before it. -/
theorem getElem?_toolpath_runFrom {earlier later : List Command} {c : Command}
    {count : Nat} {s : Modal} {g : Segment}
    (hg : (step (count + (runFrom count s earlier).toolpath.length)
      (runFrom count s earlier).state c).segment? = some g) :
    (runFrom count s (earlier ++ c :: later)).toolpath[
      (runFrom count s earlier).toolpath.length]? = some g := by
  simp [runFrom_append, runFrom, hg]

/-- Every segment is given by one of the commands, after as many segments as its index
says. -/
theorem exists_command_of_segment {g : Segment} :
    ∀ (commands : List Command) (count : Nat) (s : Modal) {i : Nat},
      (runFrom count s commands).toolpath[i]? = some g →
        ∃ before c after, commands = before ++ c :: after ∧
          (runFrom count s before).toolpath.length = i ∧
          (step (count + i) (runFrom count s before).state c).segment? = some g := by
  intro commands
  induction commands with
  | nil => intro count s i hg; cases hg
  | cons c rest ih =>
    intro count s i hg
    cases hsegment : (step count s c).segment? with
    | none =>
      simp only [runFrom, hsegment, Option.toList_none, List.nil_append, List.length_nil,
        Nat.add_zero] at hg
      obtain ⟨before, c', after, hsplit, hcount, hgiven⟩ := ih count _ hg
      refine ⟨c :: before, c', after, by rw [hsplit]; rfl, ?_, ?_⟩
      · simpa only [runFrom, hsegment, Option.toList_none, List.nil_append,
          List.length_nil, Nat.add_zero] using hcount
      · simpa only [runFrom, hsegment, Option.toList_none, List.length_nil,
          Nat.add_zero] using hgiven
    | some first =>
      simp only [runFrom, hsegment, Option.toList_some, List.cons_append, List.nil_append,
        List.length_cons, List.length_nil, Nat.zero_add] at hg
      cases i with
      | zero =>
        cases hg
        exact ⟨[], c, rest, rfl, rfl, hsegment⟩
      | succ i =>
        obtain ⟨before, c', after, hsplit, hcount, hgiven⟩ := ih (count + 1) _ hg
        refine ⟨c :: before, c', after, by rw [hsplit]; rfl, ?_, ?_⟩
        · simp only [runFrom, hsegment, Option.toList_some, List.cons_append,
            List.nil_append, List.length_cons, List.length_nil, Nat.zero_add, hcount]
        · have hindex : count + (i + 1) = count + 1 + i := by omega
          rw [hindex]
          simpa only [runFrom, hsegment, Option.toList_some, List.length_cons,
            List.length_nil, Nat.zero_add] using hgiven

/-- Every segment of a run is a move or a drilling cycle of one of its commands. -/
theorem isMove_or_isCycle_of_mem {commands : List Command} {count : Nat} {s : Modal}
    {g : Segment} (hg : g ∈ (runFrom count s commands).toolpath) :
    ∃ before c after, IsMove before c after g ∨ IsCycle before c after g := by
  obtain ⟨i, hi⟩ := List.getElem?_of_mem hg
  obtain ⟨_, c, _, _, _, hgiven⟩ := exists_command_of_segment commands count s hi
  exact ⟨_, c, _, (step_emission _ _ c).isMove_or_isCycle hgiven⟩

/-! ## Anchors -/

/-- The step with its directive anchored `n` segments later. -/
def Step.shift (n : Nat) (r : Step) : Step :=
  { r with directive? := r.directive?.map (Directive.shift n) }

/-- The run with its directives anchored `n` segments later. -/
def Run.shift (n : Nat) (r : Run) : Run :=
  { r with directives := r.directives.map (Directive.shift n) }

theorem Step.shift_of_no_directive (n : Nat) {r : Step} (h : r.directive? = none) :
    r.shift n = r := by
  unfold Step.shift
  rw [h, Option.map_none, ← h]

section

variable (s : Modal) (c : Command)

@[simp] theorem move_directive? (mode : Int) (params : AddressMap) (line : Int) :
    (move s mode params line).directive? = none := by
  unfold move
  dsimp only
  split <;> rfl

@[simp] theorem drill_directive? (number : Int) (params : AddressMap) (line : Int) :
    (drill s number params line).directive? = none := by
  unfold drill
  split
  · dsimp only
    split <;> rfl
  · rfl

/-- A `G` command records no directive. -/
@[simp] theorem stepG_directive? (code : Float) : (stepG s code c).directive? = none := by
  unfold stepG
  dsimp only
  split
  case h_1 => split <;> simp
  all_goals simp

/-- A line of parameters records no directive. -/
@[simp] theorem stepModal_directive? : (stepModal s c).directive? = none := by
  unfold stepModal
  dsimp only
  split <;> simp

end

/-- With `n` more segments before it a command does the same, and its directive is
anchored `n` segments later. -/
theorem step_shift (n count : Nat) (s : Modal) (c : Command) :
    step (count + n) s c = (step count s c).shift n := by
  cases hc : c.head with
  | g code =>
    simp only [step, hc]
    exact (Step.shift_of_no_directive n (stepG_directive? s c code)).symm
  | modal =>
    simp only [step, hc]
    exact (Step.shift_of_no_directive n (stepModal_directive? s c)).symm
  | m code =>
    simp only [step, hc, stepM]
    split <;> simp [Step.shift, Directive.shift]
  | t code =>
    simp only [step, hc, stepT]
    split <;> simp [Step.shift, Directive.shift]

/-- With `n` more segments before them commands do the same, and their directives are
anchored `n` segments later. -/
theorem runFrom_shift (n : Nat) : ∀ (commands : List Command) (count : Nat) (s : Modal),
    runFrom (count + n) s commands = (runFrom count s commands).shift n := by
  intro commands
  induction commands with
  | nil => intro count s; rfl
  | cons c rest ih =>
    intro count s
    simp only [runFrom, step_shift, Nat.add_right_comm count n]
    simp only [Step.shift, ih, Run.shift, Step.issues, Step.fullLog, List.map_append]
    cases (step count s c).directive? <;> rfl

/-- Executing a program in two parts, the second from the state that the first left,
gives what executing it at once gives: the same state, and toolpath and issues of the
first part followed by those of the second.  Only the anchors of the second part count
its own segments alone, and move by the length of the first toolpath. -/
theorem run_append (s : Modal) (earlier later : List Command) :
    let first := run s earlier
    let second := run first.state later
    let whole := run s (earlier ++ later)
    whole.state = second.state ∧
      whole.toolpath = first.toolpath ++ second.toolpath ∧
      whole.issues = first.issues ++ second.issues ∧
      whole.directives =
        first.directives ++
          second.directives.map (Directive.shift first.toolpath.length) := by
  have hwhole := runFrom_append later earlier 0 s
  have hshift := runFrom_shift (runFrom 0 s earlier).toolpath.length later 0
    (runFrom 0 s earlier).state
  simp only [hshift] at hwhole
  intro first second whole
  simp only [first, second, whole, run, hwhole, Run.shift, and_self]

end Machining.Execution
