import Mathlib.Data.List.DropRight
import Machining.Proofs.Execution.Correspondence
import Machining.Proofs.Execution.SpindleSpeed
import Machining.Proofs.Playback.Following
set_option autoImplicit false

/-!
# Two records of the spindle speed

The speed of the spindle reaches playback on two ways: every segment bears the speed in
force after its command, and the machine is told a speed by the commands that start the
spindle.  An `S` word on a `G` command or on a line of parameters sets the first and not
the second.  So a spindle that turns while a segment is played turns at the last speed
that was given up to the last command for the spindle, and this may differ from the speed
that the segment bears.
-/

namespace Machining.Playback

open Machining.Execution
open Machining.Machine
open Machining.Program
open Machining.Toolpath

/-! ## What moves find -/

/-- A move of the plan finds the machine as `m`: performing the cues before the move leaves
it so. -/
def Plan.MoveFinds (plan : Plan) (machine : Attachment) (m : Simulation) : Prop :=
  ∃ earlier axis target rapid later,
    plan.cues = earlier ++ .call (.moveAxis axis target rapid) :: later ∧
      (performCues machine earlier).machine = .simulated m

/-- A move of the next step forward finds the machine as `m`. -/
def Session.MoveFinds (s : Session) (m : Simulation) : Prop :=
  ∃ job g, s.job = some job ∧ job.toolpath[s.cursor]? = some g ∧
    (s.schedule.plan s.machine.isPresent s.cursor g).MoveFinds s.machine m

section

variable {p : Schedule} {i : Nat} {g : Segment} {m m' : Simulation}

/-- The moves of a segment find the controls that its directives set. -/
theorem controls_of_moveFinds (h : (p.plan true i g).MoveFinds (.simulated m) m') :
    m'.controls = m.controls.played (p.itemsAt i) := by
  obtain ⟨earlier, axis, target, rapid, later, hcues, hfound⟩ := h
  have hperformed := performFrom_simulated earlier m {}
  have hm' : m' = (earlier.filterMap Cue.call?).foldl Simulation.after m :=
    Attachment.simulated.inj (hfound.symm.trans hperformed)
  rw [hm', Simulation.controls_foldl_after]
  rw [plan_cues] at hcues
  rcases List.append_eq_append_iff.mp hcues with
    ⟨between, hearlier, hmoves⟩ | ⟨between, hdirectives, hmoves⟩
  · have hbetween : ∀ call ∈ between.filterMap Cue.call?, call.isMove = true := by
      intro call hcall
      apply isMove_of_segment i g
      rw [Item.calls, hmoves, List.filterMap_append]
      exact List.mem_append_left _ hcall
    rw [hearlier, List.filterMap_append, itemCalls_eq_filterMap, List.foldl_append]
    exact Controls.foldl_after_of_moves hbetween _
  · cases between with
    | nil =>
      rw [List.append_nil] at hdirectives
      rw [← hdirectives, itemCalls_eq_filterMap]
      rfl
    | cons cue rest =>
      -- Then the move would be among the cues of the directives.
      obtain ⟨rfl, _⟩ := List.cons.inj hmoves
      have hmem : Call.moveAxis axis target rapid ∈ itemCalls (p.itemsAt i) := by
        rw [← itemCalls_eq_filterMap, hdirectives]
        simp [Cue.call?]
      cases isMove_of_itemsAt p i _ hmem

theorem exists_moveFinds (p : Schedule) (i : Nat) (m : Simulation)
    (h : ∃ axis target rapid, Cue.call (.moveAxis axis target rapid) ∈ (movePlan g).cues) :
    ∃ m', (p.plan true i g).MoveFinds (.simulated m) m' := by
  obtain ⟨axis, target, rapid, hmem⟩ := h
  have hcue : Cue.call (.moveAxis axis target rapid) ∈ (p.plan true i g).cues := by
    rw [plan_cues]
    exact List.mem_append_right _ (List.mem_cons_of_mem _ hmem)
  obtain ⟨earlier, later, hcues⟩ := List.append_of_mem hcue
  exact ⟨_, earlier, axis, target, rapid, later, hcues, performFrom_simulated earlier m {}⟩

end

/-- Every segment that execution gives asks for a move. -/
theorem exists_move_of_run {commands : List Command} {g : Segment}
    (hg : g ∈ (run {} commands).toolpath) :
    ∃ axis target rapid, Cue.call (.moveAxis axis target rapid) ∈ (movePlan g).cues := by
  have haxes := (runFrom_hasAxes commands 0 {} zeroPosition_hasAxes g hg).1.2
  obtain ⟨_, _, _, hmove | hcycle⟩ := isMove_or_isCycle_of_mem hg
  · obtain ⟨x, hx⟩ := exists_get?_of_mem_addresses (haxes.mem_addresses .x)
    refine ⟨.x, x, g.isRapid, ?_⟩
    unfold movePlan
    split
    · rename_i hshape
      exact absurd hshape (hmove.shape _ _ _ _)
    · exact List.mem_filterMap.mpr ⟨.x, Axis.mem_all .x, by rw [hx]; rfl⟩
  · obtain ⟨number, hole, depth, retract, hshape, ⟨x, hx⟩, ⟨y, hy⟩⟩ := hcycle.shape
    refine ⟨.x, x, true, ?_⟩
    simp [movePlan, hshape, drillPlan, hx, hy]

/-! ## Both records -/

/-- The commands up to the last one for the spindle. -/
def throughSpindle (commands : List Command) : List Command :=
  commands.rdropWhile fun c => c.spindleDirection?.isNone

/-- The machine runs at the speed that was in force after the last command for the
spindle. -/
theorem played_rpm (commands : List Command) :
    (({} : Controls).played (emitted 0 {} commands)).rpm =
      lastWord Command.speed? 0.0 (throughSpindle commands) := by
  unfold throughSpindle
  induction commands using List.reverseRecOn with
  | nil => rfl
  | append_singleton earlier c ih =>
    have hspeed := runFrom_spindleSpeed (earlier ++ [c]) 0 {}
    rw [state_runFrom_concat] at hspeed
    have htakes := Controls.takes_step (({} : Controls).played (emitted 0 {} earlier))
      (0 + (runFrom 0 {} earlier).toolpath.length) (runFrom 0 {} earlier).state c
    rw [emitted_append, Controls.played_append]
    simp only [emitted, List.append_nil]
    rw [htakes.rpm, hspeed, ih]
    cases hdirection : c.spindleDirection? with
    | none => simp [hdirection]
    | some direction => simp [hdirection]

namespace IsFresh

variable {settings : Settings} {s : Session} {job : Job} {limits : TravelLimits}
  {before after : List Command} {c : Command} {g : Segment} {i : Nat}

/-- The items ahead of a segment and its own directives set what the commands up to its
own set. -/
theorem played_ahead (h : IsFresh settings s job limits)
    (hsplit : job.commands = before ++ c :: after)
    (hcount : (run {} before).toolpath.length = i)
    (hgiven : (step i (run {} before).state c).segment? = some g)
    (hg : job.toolpath[i]? = some g) :
    (({} : Controls).played (s.schedule.itemsAhead 0 (job.toolpath.take i))).played
        (s.schedule.itemsAt i) =
      ({} : Controls).played (emitted 0 {} (before ++ [c])) := by
  subst hcount
  have hlength : (job.toolpath.take (run {} before).toolpath.length).length =
      (run {} before).toolpath.length :=
    List.length_take_of_le (Nat.le_of_lt (List.getElem?_eq_some_iff.mp hg).1)
  rw [← h.itemsAhead hsplit hgiven, List.take_add_one, hg, Option.toList_some,
    Schedule.itemsAhead_append, hlength, Nat.zero_add]
  simp only [Schedule.itemsAhead, Controls.played_append, Controls.played_segment]

/-- Every segment asks for moves, and all of them find the controls that the commands up
to its own have set. -/
theorem moveFinds (h : IsFresh settings s job limits)
    (hsplit : job.commands = before ++ c :: after)
    (hcount : (run {} before).toolpath.length = i)
    (hgiven : (step i (run {} before).state c).segment? = some g)
    (hg : job.toolpath[i]? = some g) :
    let reached :=
      (s.operateAll settings (.start :: List.replicate i .forward)).session
    (∃ m, reached.MoveFinds m) ∧
      ∀ m, reached.MoveFinds m →
        m.controls = ({} : Controls).played (emitted 0 {} (before ++ [c])) := by
  have hahead := h.played_ahead hsplit hcount hgiven hg
  obtain ⟨m₀, hsession, hcontrols⟩ :=
    h.start_forwards (Nat.le_of_lt (List.getElem?_eq_some_iff.mp hg).1)
  intro reached
  have hreached : reached = _ := hsession
  rw [hreached]
  constructor
  · have hmem : g ∈ (run {} job.commands).toolpath :=
      h.executed.1 ▸ List.mem_of_getElem? hg
    obtain ⟨m, hm⟩ := exists_moveFinds s.schedule i m₀ (exists_move_of_run hmem)
    exact ⟨m, job, g, h.held, hg, hm⟩
  · rintro m ⟨job', g', hjob, hg', hm⟩
    rw [controls_of_moveFinds hm, hcontrols, hahead]

/-- What the records say of the spindle at a segment: the segment bears the last speed
given up to its command, and its moves find the last direction and the speed at the last
command for the spindle. -/
theorem spindle_found (h : IsFresh settings s job limits)
    (hsplit : job.commands = before ++ c :: after)
    (hcount : (run {} before).toolpath.length = i)
    (hgiven : (step i (run {} before).state c).segment? = some g)
    (hg : job.toolpath[i]? = some g) :
    let reached :=
      (s.operateAll settings (.start :: List.replicate i .forward)).session
    g.spindleSpeed = lastWord Command.speed? 0.0 (before ++ [c]) ∧
      (∃ m, reached.MoveFinds m) ∧
      ∀ m, reached.MoveFinds m →
        m.direction = lastWord Command.spindleDirection? 0 (before ++ [c]) ∧
        m.rpm = lastWord Command.speed? 0.0 (throughSpindle (before ++ [c])) := by
  obtain ⟨hmoves, hfound⟩ := h.moveFinds hsplit hcount hgiven hg
  have hspeed := runFrom_spindleSpeed (before ++ [c]) 0 {}
  rw [state_runFrom_concat, Nat.zero_add] at hspeed
  have hdirection := (runFrom_holdsLastWords (before ++ [c])).spindleDirection
  have hagrees := Controls.Agrees.initial.runFrom (before ++ [c]) 0 .initial
  subst hcount
  refine ⟨(spindleSpeed_of_segment hgiven).trans hspeed, hmoves, ?_⟩
  intro m hm
  have hcontrols := hfound m hm
  constructor
  · have hplayed : m.direction = _ := congrArg Controls.direction hcontrols
    rw [hplayed, hagrees.direction, hdirection]
  · have hplayed : m.rpm = _ := congrArg Controls.rpm hcontrols
    rw [hplayed, played_rpm]

end IsFresh

/-- The spindle is at rest, or the speed in force is still the one of the last command for
the spindle. -/
def TurnsAtSpeed (given : List Command) : Prop :=
  lastWord Command.spindleDirection? 0 given ≠ 0 →
    lastWord Command.speed? 0.0 (throughSpindle given) ==
      lastWord Command.speed? 0.0 given

instance (given : List Command) : Decidable (TurnsAtSpeed given) :=
  inferInstanceAs (Decidable (_ → _))

/-- The spindle turns at the speed in force wherever the commands ask for a segment. -/
def KeepsSpindleSpeed (commands : List Command) : Prop :=
  ∀ before c after, commands = before ++ c :: after → c.drawsSegment = true →
    TurnsAtSpeed (before ++ [c])

theorem keepsSpindleSpeed_iff (commands : List Command) :
    (∀ n < commands.length, commands[n]?.any Command.drawsSegment = true →
        TurnsAtSpeed (commands.take (n + 1))) ↔
      KeepsSpindleSpeed commands := by
  constructor
  · rintro h before c after rfl hdraws
    have hturns := h before.length (by simp) (by simpa using hdraws)
    rw [List.append_cons, List.take_left' (by simp)] at hturns
    exact hturns
  · intro h n hn hdraws
    rw [List.getElem?_eq_getElem hn, Option.any_some] at hdraws
    rw [List.take_add_one, List.getElem?_eq_getElem hn, Option.toList_some]
    refine h (commands.take n) commands[n] (commands.drop (n + 1)) ?_ hdraws
    rw [List.getElem_cons_drop, List.take_append_drop]

instance (commands : List Command) : Decidable (KeepsSpindleSpeed commands) :=
  decidable_of_iff _ (keepsSpindleSpeed_iff commands)

/-- In a program loaded for a new simulated machine, started and stepped through, every
segment bears the last speed given up to its command, while its moves find the spindle as
the last command for it left it.  So a turning spindle has the speed of the segment at
every move just if, wherever the commands ask for a segment, they have given no other speed
since that command. -/
theorem moves_find_spindle_speed_iff {settings : Settings} {s : Session} {text : String}
    {check : LineCheck} {job : Job} {limits : TravelLimits}
    (hmachine : s.machine = .simulated { limits := limits })
    (haccepted : (s.load settings text check).answer = .ok (.accepted job)) :
    let loaded := (s.load settings text check).session
    let commands := (readText text check).1.commands
    let reached (i : Nat) :=
      (loaded.operateAll settings (.start :: List.replicate i .forward)).session
    (∀ i g, job.toolpath[i]? = some g →
      ∃ before c after, commands = before ++ c :: after ∧
        (run {} before).toolpath.length = i ∧ c.drawsSegment = true ∧
        g.spindleSpeed = lastWord Command.speed? 0.0 (before ++ [c]) ∧
        (∃ m, (reached i).MoveFinds m) ∧
        ∀ m, (reached i).MoveFinds m →
          m.direction = lastWord Command.spindleDirection? 0 (before ++ [c]) ∧
          m.rpm = lastWord Command.speed? 0.0 (throughSpindle (before ++ [c]))) ∧
    ((∀ i g m, job.toolpath[i]? = some g → (reached i).MoveFinds m →
        m.direction ≠ 0 → m.rpm == g.spindleSpeed) ↔
      KeepsSpindleSpeed commands) := by
  obtain ⟨hcommands, hfresh⟩ := Session.load_isFresh hmachine haccepted
  intro loaded commands reached
  have hcommands' : commands = job.commands := hcommands.symm
  rw [hcommands']
  refine ⟨?_, ?_, ?_⟩
  · intro i g hg
    obtain ⟨before, c, after, hsplit, hcount, hgiven, houtcome⟩ := hfresh.exists_command hg
    exact ⟨before, c, after, hsplit, hcount, houtcome.drawsSegment hgiven,
      hfresh.spindle_found hsplit hcount hgiven hg⟩
  · intro hall before c after hsplit hdraws hturns
    obtain ⟨g, hgiven⟩ := ((Modal.IsReady.initial.runFrom before 0).outcome
      (run {} before).toolpath.length c).exists_segment hdraws
    have hg : job.toolpath[(run {} before).toolpath.length]? = some g := by
      rw [hfresh.executed.1, hsplit]
      exact getElem?_toolpath_runFrom ((Nat.zero_add _).symm ▸ hgiven)
    obtain ⟨hspeed, ⟨m, hm⟩, hfound⟩ := hfresh.spindle_found hsplit rfl hgiven hg
    obtain ⟨hdirection, hrpm⟩ := hfound m hm
    rw [← hspeed, ← hrpm]
    apply hall _ g m hg hm
    rw [hdirection]
    exact hturns
  · intro hkeeps i g m hg hm hturns
    obtain ⟨before, c, after, hsplit, hcount, hgiven, houtcome⟩ := hfresh.exists_command hg
    obtain ⟨hspeed, _, hfound⟩ := hfresh.spindle_found hsplit hcount hgiven hg
    obtain ⟨hdirection, hrpm⟩ := hfound m hm
    rw [hspeed, hrpm]
    apply hkeeps before c after hsplit (houtcome.drawsSegment hgiven)
    rw [← hdirection]
    exact hturns

/-- A program that gives speeds on moves, but only while the spindle is at rest. -/
theorem moves_find_spindle_speed_given_at_rest :
    let text := "G1 X1 F600 S700\nM3\nG1 X10\nM5\nX20 S900\nM4\nG0 X0"
    let s : Session := { machine := .simulated { limits := .constant .unlimited } }
    let job := jobOf .standard text acceptAll
    let reached (i : Nat) := ((s.load .standard text).session.operateAll .standard
      (.start :: List.replicate i .forward)).session
    s.machine = .simulated { limits := .constant .unlimited } ∧
      (s.load .standard text).answer = .ok (.accepted job) ∧
      KeepsSpindleSpeed (readText text).1.commands ∧
      (∃ g m, job.toolpath[3]? = some g ∧ (reached 3).MoveFinds m) ∧
      ∀ i g m, job.toolpath[i]? = some g → (reached i).MoveFinds m → m.direction ≠ 0 →
        m.rpm == g.spindleSpeed := by
  intro text s job reached
  have haccepted : (s.load .standard text).answer = .ok (.accepted job) :=
    (load_accepted_iff .standard s text acceptAll).mpr (by decide +kernel)
  have hkeeps : KeepsSpindleSpeed (readText text).1.commands := by decide +kernel
  have hlength : 3 < job.toolpath.length := by decide +kernel
  obtain ⟨hsegments, hiff⟩ := moves_find_spindle_speed_iff (s := s) rfl haccepted
  refine ⟨rfl, haccepted, hkeeps, ?_, hiff.mpr hkeeps⟩
  have hg : job.toolpath[3]? = some job.toolpath[3] := List.getElem?_eq_getElem hlength
  obtain ⟨_, _, _, _, _, _, _, ⟨m, hm⟩, _⟩ := hsegments 3 _ hg
  exact ⟨_, m, hg, hm⟩

/-- A feed move with a new speed bears that speed, while the spindle turns on at the old
one. -/
theorem feed_move_finds_old_spindle_speed :
    let text := "M3 S1000\nG1 X10 S2000 F600"
    let s : Session := { machine := .simulated { limits := .constant .unlimited } }
    let job := jobOf .standard text acceptAll
    let started := ((s.load .standard text).session.operateAll .standard [.start]).session
    (s.load .standard text).answer = .ok (.accepted job) ∧
      ∃ g m, job.toolpath[0]? = some g ∧ started.MoveFinds m ∧ m.direction = 1 ∧
        m.rpm = 1000.0 ∧ g.spindleSpeed = 2000.0 ∧ (m.rpm == g.spindleSpeed) = false := by
  intro text s job started
  have haccepted : (s.load .standard text).answer = .ok (.accepted job) :=
    (load_accepted_iff .standard s text acceptAll).mpr (by decide +kernel)
  let g : Segment := job.toolpath.headD default
  let m : Simulation :=
    { limits := .constant .unlimited, rpm := 1000.0, direction := 1 }
  -- Ahead of the first move stand two records and, between them, the call of `M3`.
  let cues := (started.schedule.plan started.machine.isPresent started.cursor g).cues
  have hstarted : started.job = some job ∧ job.toolpath[started.cursor]? = some g ∧
      cues = cues.take 3 ++ .call (.moveAxis .x 10.0 false) :: cues.drop 4 ∧
      (performCues started.machine (cues.take 3)).machine = .simulated m := by
    decide +kernel
  have hspeeds : job.toolpath[0]? = some g ∧ g.spindleSpeed = 2000.0 ∧
      (m.rpm == g.spindleSpeed) = false := by decide +kernel
  obtain ⟨hjob, hcursor, hcues, hm⟩ := hstarted
  obtain ⟨hg, hspeed, hdiffer⟩ := hspeeds
  exact ⟨haccepted, g, m, hg, ⟨job, g, hjob, hcursor, _, _, _, _, _, hcues, hm⟩, rfl, rfl,
    hspeed, hdiffer⟩

end Machining.Playback
