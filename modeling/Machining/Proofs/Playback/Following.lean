import Machining.Proofs.Execution.LastWord
import Machining.Proofs.Playback.Controls
set_option autoImplicit false

/-!
# The machine follows execution

Execution never talks to a machine; it records directives, and playback calls the machine
for them segment by segment.  All the same a simulated machine has, after every segment,
the tool, the coolant and the direction of the spindle that execution had in force after
the command of that segment.  The link is the order of playback: the items played up to
a segment are what the commands up to its command emit, and each command sets on the
machine what it sets in the modal state.
-/

namespace Machining.Machine.Controls

open Machining.Execution
open Machining.Playback
open Machining.Program
open Machining.Toolpath

/-! ## What a command sets -/

/-- A command takes controls to others by its words for tool, coolant and direction.  A
word for the direction also tells the machine the speed. -/
structure Takes (c : Command) (speed : Float) (k k' : Controls) : Prop where
  tool : k'.tool = c.tool?.getD k.tool
  coolant : k'.coolant = c.coolant?.getD k.coolant
  direction : k'.direction = c.spindleDirection?.getD k.direction
  rpm : k'.rpm = if c.spindleDirection?.isSome then speed else k.rpm

/-- A command without any of these words leaves the controls alone. -/
theorem Takes.refl (k : Controls) {c : Command} {speed : Float} (htool : c.tool? = none)
    (hcoolant : c.coolant? = none) (hdirection : c.spindleDirection? = none) :
    Takes c speed k k := by
  constructor <;> simp [htool, hcoolant, hdirection]

variable {c : Command}

/-- The spindle is started clockwise or counterclockwise, as `1` or `-1`. -/
theorem direction_of_spindleOn {code : Float} {direction : Int}
    (h : MFunction.ofCode code = .spindleOn direction) :
    (if 0 ≤ direction then 1 else -1) = direction := by
  unfold MFunction.ofCode at h
  split at h
  case h_1 =>
    cases h
    simp
  case h_2 =>
    cases h
    simp
  all_goals cases h

theorem takes_m (k : Controls) (count : Nat) (s : Modal) {code : Float}
    (hc : c.head = .m code) :
    Takes c (stepM count s code c).state.spindleSpeed k
      (k.played (emittedBy count (stepM count s code c))) := by
  have htool : c.tool? = none := by simp [Command.tool?, hc]
  have hcoolant := coolant?_of_m hc
  have hdirection := spindleDirection?_of_m hc
  rw [played_emittedBy]
  unfold stepM
  cases hf : MFunction.ofCode code with
  | spindleOn direction =>
    have hsame := direction_of_spindleOn hf
    rw [hf] at hcoolant hdirection
    constructor <;> simp [htool, hcoolant, hdirection, effectCue, Cue.call?, after, hsame]
  | spindleOff =>
    rw [hf] at hcoolant hdirection
    constructor <;> simp [htool, hcoolant, hdirection, effectCue, Cue.call?, after]
  | coolant on =>
    rw [hf] at hcoolant hdirection
    constructor <;> simp [htool, hcoolant, hdirection, effectCue, Cue.call?, after]
  | programEnd =>
    rw [hf] at hcoolant hdirection
    exact .refl k htool hcoolant hdirection
  | toolChange =>
    rw [hf] at hcoolant hdirection
    exact .refl k htool hcoolant hdirection
  | unsupported =>
    rw [hf] at hcoolant hdirection
    exact .refl k htool hcoolant hdirection

theorem takes_t (k : Controls) (count : Nat) (s : Modal) {code : Float}
    (hc : c.head = .t code) :
    Takes c (stepT count s code c).state.spindleSpeed k
      (k.played (emittedBy count (stepT count s code c))) := by
  have htool : c.tool? = (integerPart code).toOption := by simp [Command.tool?, hc]
  obtain ⟨hcoolant, hdirection⟩ := Outcome.words_of_t hc
  rw [played_emittedBy]
  cases hpart : integerPart code with
  | error reason =>
    rw [hpart] at htool
    unfold stepT integerPartOrFault
    rw [hpart]
    exact .refl k htool hcoolant hdirection
  | ok tool =>
    rw [hpart] at htool
    have hdirective : (stepT count s code c).directive? =
        some ⟨.toolChange tool, count, c.line⟩ := by
      unfold stepT integerPartOrFault
      rw [hpart]
      rfl
    rw [hdirective]
    constructor <;>
      simp [htool, hcoolant, hdirection, effectCue, Cue.call?, after, Except.toOption]

/-- What a command emits sets its own words on the machine. -/
theorem takes_step (k : Controls) (count : Nat) (s : Modal) (c : Command) :
    Takes c (step count s c).state.spindleSpeed k
      (k.played (emittedBy count (step count s c))) := by
  cases hc : c.head with
  | g code =>
    obtain ⟨htool, hcoolant, hdirection⟩ := Outcome.words_of_g hc
    simp only [step, hc, played_emittedBy, stepG_directive?]
    exact .refl k htool hcoolant hdirection
  | modal =>
    obtain ⟨htool, hcoolant, hdirection⟩ := Outcome.words_of_modal hc
    simp only [step, hc, played_emittedBy, stepModal_directive?]
    exact .refl k htool hcoolant hdirection
  | m code => simpa only [step, hc] using takes_m k count s hc
  | t code => simpa only [step, hc] using takes_t k count s hc

/-! ## Agreement with execution -/

/-- The controls have the tool, the coolant and the direction of the spindle of a modal
state. -/
structure Agrees (k : Controls) (s : Modal) : Prop where
  tool : k.tool = s.tool
  coolant : k.coolant = s.coolant
  direction : k.direction = s.spindleDirection

namespace Agrees

theorem initial : Agrees {} {} := ⟨rfl, rfl, rfl⟩

variable {k : Controls} {s : Modal}

/-- What a command emits keeps the agreement. -/
theorem step (h : k.Agrees s) (hs : s.IsReady) (count : Nat) (c : Command) :
    (k.played (emittedBy count (step count s c))).Agrees (step count s c).state := by
  have htakes := takes_step k count s c
  have houtcome := hs.outcome count c
  constructor
  · rw [htakes.tool, houtcome.tool, h.tool]
  · rw [htakes.coolant, houtcome.coolant, h.coolant]
  · rw [htakes.direction, houtcome.spindleDirection, h.direction]

/-- What commands emit, played in order, keeps the agreement. -/
theorem runFrom : ∀ (commands : List Command) (count : Nat) {k : Controls} {s : Modal},
    k.Agrees s → s.IsReady →
      (k.played (emitted count s commands)).Agrees (runFrom count s commands).state := by
  intro commands
  induction commands with
  | nil => intro count k s h _; exact h
  | cons c rest ih =>
    intro count k s h hs
    have hfirst := h.step hs count c
    have hready := hs.step count c
    simp only [emitted, Execution.runFrom, played_append]
    exact ih _ hfirst hready

/-- The end of a program stops the spindle and leaves tool and coolant. -/
theorem stopSpindle (h : k.Agrees s) :
    (k.after .stopSpindle).tool = s.tool ∧ (k.after .stopSpindle).coolant = s.coolant ∧
      (k.after .stopSpindle).rpm = 0.0 ∧ (k.after .stopSpindle).direction = 0 :=
  ⟨h.tool, h.coolant, rfl, rfl⟩

end Agrees

end Machining.Machine.Controls

namespace Machining.Playback

open Machining.Execution
open Machining.Machine
open Machining.Program
open Machining.Toolpath

/-! ## Programs on a new machine -/

/-- Every segment of a loaded program is given by one of its commands, which takes up its
words. -/
theorem IsLoaded.exists_command {settings : Settings} {s : Session} {job : Job} {i : Nat}
    {g : Segment} (h : IsLoaded settings s job) (hg : job.toolpath[i]? = some g) :
    ∃ before c after, job.commands = before ++ c :: after ∧
      (run {} before).toolpath.length = i ∧
      (step i (run {} before).state c).segment? = some g ∧
      Outcome (run {} before).state c (step i (run {} before).state c) := by
  rw [h.executed.1] at hg
  obtain ⟨before, c, after, hsplit, hcount, hgiven⟩ :=
    exists_command_of_segment job.commands 0 {} hg
  rw [Nat.zero_add] at hgiven
  exact ⟨before, c, after, hsplit, hcount, hgiven,
    (Modal.IsReady.initial.runFrom before 0).outcome i c⟩

/-- The session holds a job for a simulated machine that has done nothing yet. -/
structure IsFresh (settings : Settings) (s : Session) (job : Job) (limits : TravelLimits) :
    Prop extends IsLoaded settings s job where
  machine : s.machine = .simulated { limits := limits }

/-- Loading leaves a new machine alone. -/
theorem Session.load_isFresh {settings : Settings} {s : Session} {text : String}
    {check : LineCheck} {job : Job} {limits : TravelLimits}
    (hmachine : s.machine = .simulated { limits := limits })
    (haccepted : (s.load settings text check).answer = .ok (.accepted job)) :
    job.commands = (readText text check).1.commands ∧
      IsFresh settings (s.load settings text check).session job limits := by
  obtain ⟨rfl, hkept, hloaded⟩ := load_accepted haccepted
  exact ⟨rfl, { hloaded with machine := hkept.trans hmachine }⟩

namespace IsFresh

variable {settings : Settings} {s : Session} {job : Job} {limits : TravelLimits}
  {before after : List Command} {c : Command} {g : Segment}

/-- Start and steps forward leave the controls that the items ahead of them set. -/
theorem start_forwards (h : IsFresh settings s job limits) {k : Nat}
    (hk : k ≤ job.toolpath.length) :
    ∃ m : Simulation,
      (s.operateAll settings (.start :: List.replicate k .forward)).session =
        { s with machine := .simulated m, mode := .running, cursor := k, elapsed := 0.0 } ∧
      m.controls =
        ({} : Controls).played (s.schedule.itemsAhead 0 (job.toolpath.take k)) := by
  have hturn := Session.start_forwards settings h.held h.playable hk
  obtain ⟨m, hm, hcontrols⟩ := s.schedule.playRow_controls { limits := limits } s.renderer
    (job.toolpath.take k) 0
  rw [← h.machine] at hm
  rw [Simulation.controls_new] at hcontrols
  refine ⟨m, ?_, hcontrols⟩
  simp only [hturn, hm]

/-- What is played up to the segment of a command is what the commands up to this one
emit. -/
theorem itemsAhead (h : IsFresh settings s job limits)
    (hsplit : job.commands = before ++ c :: after)
    (hg : (step (run {} before).toolpath.length (run {} before).state c).segment? =
      some g) :
    s.schedule.itemsAhead 0 (job.toolpath.take ((run {} before).toolpath.length + 1)) =
      emitted 0 {} (before ++ [c]) := by
  have hgiven : (step (0 + (runFrom 0 {} before).toolpath.length)
      (runFrom 0 {} before).state c).segment? = some g := by
    rw [Nat.zero_add]
    exact hg
  obtain ⟨htoolpath, hdirectives⟩ := h.executed
  rw [h.schedule, hdirectives, htoolpath, hsplit]
  simp only [run, take_toolpath_runFrom hgiven, itemsAhead_runFrom _ hgiven]

/-- What is played in all is what all commands emit. -/
theorem items (h : IsFresh settings s job limits) :
    s.schedule.itemsAhead 0 job.toolpath ++ s.schedule.itemsAt s.schedule.segmentCount =
      emitted 0 {} job.commands := by
  obtain ⟨htoolpath, hdirectives⟩ := h.executed
  have hcount : s.schedule.segmentCount = 0 + job.toolpath.length := by
    rw [h.schedule, Nat.zero_add]
  rw [hcount, ← Schedule.itemsFrom_eq_append, h.schedule, hdirectives, htoolpath]
  exact itemsFrom_runFrom _ job.commands 0 {}

/-- Stepped up to the segment of a command, the machine agrees with the state after
that command. -/
theorem agrees (h : IsFresh settings s job limits)
    (hsplit : job.commands = before ++ c :: after)
    (hg : (step (run {} before).toolpath.length (run {} before).state c).segment? =
      some g)
    (hk : (run {} before).toolpath.length + 1 ≤ job.toolpath.length) :
    ∃ m, (s.operateAll settings (.start :: List.replicate
        ((run {} before).toolpath.length + 1) .forward)).session.machine = .simulated m ∧
      m.controls.Agrees (run {} (before ++ [c])).state := by
  obtain ⟨m, hsession, hcontrols⟩ := h.start_forwards hk
  refine ⟨m, by rw [hsession], ?_⟩
  rw [hcontrols, h.itemsAhead hsplit hg]
  exact Controls.Agrees.initial.runFrom (before ++ [c]) 0 .initial

/-- Stepped to the end, the machine has the tool and the coolant of the final state, and
its spindle is at rest. -/
theorem at_end (h : IsFresh settings s job limits) :
    ∃ m, (s.operateAll settings (.start :: List.replicate
        (job.toolpath.length + 1) .forward)).session.machine = .simulated m ∧
      m.tool = (run {} job.commands).state.tool ∧
      m.coolant = (run {} job.commands).state.coolant ∧ m.rpm = 0.0 ∧ m.direction = 0 := by
  have hturn := Session.start_forwards_to_end settings h.held h.playable
  obtain ⟨m, hm, hcontrols⟩ := s.schedule.playRow_controls { limits := limits } s.renderer
    job.toolpath 0
  obtain ⟨m', hm', hcontrols'⟩ := s.schedule.close_controls m
  rw [hcontrols, ← Controls.played_append, h.items, Simulation.controls_new] at hcontrols'
  have hend := (Controls.Agrees.initial.runFrom job.commands 0 .initial).stopSpindle
  refine ⟨m', ?_, ?_⟩
  · simp only [hturn, h.machine, hm, hm']
  · rw [← hcontrols'] at hend
    exact hend

end IsFresh

/-- A program loaded for a new simulated machine and started can be stepped through as
many times as it has segments.  After every such step the machine has the tool that the
segment bears, and the coolant and the direction of the spindle that execution had after
the command of the segment.  The next step ends the program: tool and coolant are the
final ones of execution, and the spindle is at rest. -/
theorem stepping_follows_execution {settings : Settings} {s : Session} {text : String}
    {check : LineCheck} {job : Job} {limits : TravelLimits}
    (hmachine : s.machine = .simulated { limits := limits })
    (haccepted : (s.load settings text check).answer = .ok (.accepted job)) :
    let loaded := (s.load settings text check).session
    let commands := (readText text check).1.commands
    let n := job.toolpath.length
    job.toolpath = (run {} commands).toolpath ∧
    (∀ k, let turn := loaded.operateAll settings (.start :: List.replicate k .forward)
      turn.answer = .done true :: List.replicate k (.stepped (.ok true)) ↔ k ≤ n) ∧
    (∀ i g, job.toolpath[i]? = some g →
      let turn :=
        loaded.operateAll settings (.start :: List.replicate (i + 1) .forward)
      ∃ before c after m, commands = before ++ c :: after ∧
        (run {} before).toolpath.length = i ∧
        (step i (run {} before).state c).segment? = some g ∧
        turn.session.machine = .simulated m ∧ m.tool = g.tool ∧
        m.coolant = (run {} (before ++ [c])).state.coolant ∧
        m.direction = (run {} (before ++ [c])).state.spindleDirection) ∧
    let turn := loaded.operateAll settings (.start :: List.replicate (n + 1) .forward)
    turn.answer =
        .done true :: (List.replicate n (.stepped (.ok true)) ++ [.stepped (.ok false)]) ∧
      ∃ m, turn.session.machine = .simulated m ∧
        m.tool = (run {} commands).state.tool ∧
        m.coolant = (run {} commands).state.coolant ∧ m.rpm = 0.0 ∧ m.direction = 0 := by
  obtain ⟨hcommands, hfresh⟩ := Session.load_isFresh hmachine haccepted
  have htoolpath := hfresh.executed.1
  intro loaded commands n
  have hcommands' : commands = job.commands := hcommands.symm
  rw [hcommands']
  refine ⟨htoolpath, ?_, ?_, ?_⟩
  · intro k
    exact Session.start_forwards_answer_iff settings hfresh.held hfresh.playable k
  · intro i g hg turn
    have hk : i + 1 ≤ job.toolpath.length := (List.getElem?_eq_some_iff.mp hg).1
    obtain ⟨before, c, after, hsplit, hcount, hgiven, houtcome⟩ := hfresh.exists_command hg
    subst hcount
    obtain ⟨m, hm, hagrees⟩ := hfresh.agrees hsplit hgiven hk
    have hstate := state_runFrom_concat before c 0 {}
    rw [Nat.zero_add] at hstate
    have htool : m.tool = g.tool := by
      rw [(houtcome.bears g hgiven).tool]
      exact hagrees.tool.trans (congrArg Modal.tool hstate)
    exact ⟨before, c, after, m, hsplit, rfl, hgiven, hm, htool, hagrees.coolant,
      hagrees.direction⟩
  · have hturn := Session.start_forwards_to_end settings hfresh.held hfresh.playable
    exact ⟨by rw [hturn], hfresh.at_end⟩

/-- A program with a cycle that fails, tool, coolant and direction changed between its
two segments, and a tool and the coolant changed again after the last one. -/
theorem stepping_follows_execution_past_failure :
    let text := "M3 S800\nG1 X10 F600\nT3\nM8\nG81 Z-1\nM4 S900\nX20\nM9\nT4.5"
    let s : Session := { machine := .simulated { limits := .constant .unlimited } }
    let job := jobOf .standard text acceptAll
    let loaded := (s.load .standard text).session
    s.machine = .simulated { limits := .constant .unlimited } ∧
      (s.load .standard text).answer = .ok (.accepted job) ∧
      job.issues.length = 1 ∧
      (∃ before c m, (run {} before).toolpath.length = 1 ∧ c.line = 7 ∧
        (loaded.operateAll .standard [.start, .forward, .forward]).session.machine =
          .simulated m ∧
        m.tool = 3 ∧ m.coolant = (run {} (before ++ [c])).state.coolant ∧
        m.direction = (run {} (before ++ [c])).state.spindleDirection) ∧
      ∃ m, (loaded.operateAll .standard [.start, .forward, .forward, .forward]
          ).session.machine = .simulated m ∧
        m.tool = 4 ∧ m.coolant = false ∧ m.rpm = 0.0 ∧ m.direction = 0 := by
  intro text s job loaded
  have haccepted : (s.load .standard text).answer = .ok (.accepted job) :=
    (load_accepted_iff .standard s text acceptAll).mpr (by decide +kernel)
  have hlength : job.toolpath.length = 2 := by decide +kernel
  have hsecond : (job.toolpath[1]?.map fun g => (g.tool, g.line)) = some (3, 7) := by
    decide +kernel
  have hfinal : (run {} (readText text acceptAll).1.commands).state.tool = 4 ∧
      (run {} (readText text acceptAll).1.commands).state.coolant = false := by
    decide +kernel
  obtain ⟨_, _, hsteps, _, m, hm, htool, hcoolant, hstopped⟩ :=
    stepping_follows_execution (s := s) rfl haccepted
  refine ⟨rfl, haccepted, by decide +kernel, ?_, m, ?_, ?_, ?_, hstopped⟩
  · obtain ⟨g, hg, hboth⟩ := Option.map_eq_some_iff.mp hsecond
    obtain ⟨hthree, hline⟩ := Prod.mk.inj hboth
    obtain ⟨before, c, after, m, hsplit, hcount, hgiven, hm, htool, hagrees⟩ := hsteps 1 g hg
    have houtcome := (Modal.IsReady.initial.runFrom before 0).outcome 1 c
    refine ⟨before, c, m, hcount, ?_, hm, htool.trans hthree, hagrees⟩
    rw [← houtcome.line g hgiven, hline]
  · rw [hlength] at hm
    exact hm
  · rw [htool, hfinal.1]
  · rw [hcoolant, hfinal.2]

end Machining.Playback
