import Machining.Proofs.Number.Order
import Machining.Proofs.Playback.Loading
import Machining.Proofs.Playback.Notices
set_option autoImplicit false

/-!
# Sound sessions

A session stays well-formed through every operation, and its renderer knows the toolpath
that there is: every index it is shown is below the number of segments that it was told
last.  Loads that are refused, shorter and empty programs, steps back and the end of a
program do not change this; only a load that fails would.
-/

namespace Machining.Playback

open Machining.Execution
open Machining.Machine
open Machining.Program
open Machining.Toolpath

/-! ## What every operation keeps -/

/-- A speed that is set has to be a number. -/
def Operation.isNumeric : Operation → Bool
  | .setSpeed speed => !speed.isNaN
  | _ => true

/-- The session is consistent, its speed is within its bounds, and its renderer was told
of its toolpath last. -/
structure Sound (settings : Settings) (s : Session) (known : Option Nat) : Prop where
  consistent : Consistent settings s
  speed : minimumSpeed ≤ s.speed ∧ s.speed ≤ maximumSpeed
  told : s.renderer ≠ .absent → 0 < s.toolpath.length → known = some s.toolpath.length

/-- What a turn shows is in range, and the session afterwards is sound by what it told. -/
structure KeepsSound {α : Type} (settings : Settings) (known : Option Nat)
    (turn : Turn α) : Prop where
  inRange : InRange known turn.journal.events
  sound : Sound settings turn.session (lastCount known turn.journal.events)

theorem KeepsSound.map {α β : Type} {settings : Settings} {known : Option Nat}
    {turn : Turn α} (h : KeepsSound settings known turn) (f : α → β) :
    KeepsSound settings known (turn.map f) :=
  ⟨h.inRange, h.sound⟩

theorem clip_speed {speed : Float} (h : speed.isNaN = false) :
    minimumSpeed ≤ Number.clip minimumSpeed maximumSpeed speed ∧
      Number.clip minimumSpeed maximumSpeed speed ≤ maximumSpeed :=
  Number.clip_mem (by decide) (by decide) (by decide) h

namespace Sound

variable {settings : Settings} {s : Session} {known : Option Nat}

theorem new (settings : Settings) (machine : Attachment) (renderer : Renderer) :
    Sound settings { machine := machine, renderer := renderer } none where
  consistent := .empty rfl rfl rfl rfl rfl rfl
  speed := by
    have hinitial : minimumSpeed ≤ 1.0 ∧ 1.0 ≤ maximumSpeed := by decide
    exact hinitial
  told := fun _ h => absurd h (Nat.lt_irrefl 0)

theorem cursor_le (h : Sound settings s known) : s.cursor ≤ s.toolpath.length := by
  cases h.consistent with
  | empty held schedule durations mode cursor elapsed => rw [cursor]; exact Nat.zero_le _
  | loaded job isLoaded =>
    rw [Session.toolpath_of_job isLoaded.held]
    exact isLoaded.cursor

/-- An operation that keeps the program. -/
theorem of_keeps {α : Type} {turn : Turn α} (h : Sound settings s known)
    (hkeeps : KeepsProgram s turn) (hconsistent : Consistent settings turn.session) :
    KeepsSound settings known turn := by
  obtain ⟨hrange, hlast⟩ := hkeeps.within.inRange h.told
  refine ⟨hrange, hconsistent, ?_, ?_⟩
  · rw [hkeeps.speed]
    exact h.speed
  · rw [hlast, hkeeps.renderer, Session.toolpath_congr hkeeps.job]
    exact h.told

/-- A load tells the renderer of the new toolpath, or keeps the old one. -/
theorem load (h : Sound settings s known) (text : String) (check : LineCheck)
    (hload : ∀ fault, (s.load settings text check).answer ≠ .error fault) :
    KeepsSound settings known (s.load settings text check) := by
  have hconsistent := Session.load_consistent h.consistent text check hload
  have hloads := load_loads settings s text check
  generalize s.load settings text check = turn at hload hconsistent hloads
  cases hloads with
  | rejected refused answer session events =>
    refine ⟨?_, ?_⟩
    · rw [events]
      trivial
    · rw [events, session]
      exact h
  | failed read unsound answer session events => exact absurd answer (hload _)
  | accepted durations read sound times answer session events =>
    have hspeed : turn.session.speed = s.speed := by rw [session]; rfl
    refine ⟨?_, hconsistent, hspeed ▸ h.speed, ?_⟩
    · rw [events]
      cases s.renderer with
      | absent => trivial
      | recorder canHide => exact ⟨fun i hi => (nomatch hi), trivial⟩
    · rw [events, session]
      show s.renderer ≠ .absent → _
      cases s.renderer with
      | absent => intro hpresent; exact absurd rfl hpresent
      | recorder canHide => intro _ _; rfl

/-- Every operation shows indices of the toolpath that was told last, and leaves the
renderer knowing the toolpath that there is. -/
theorem operate (h : Sound settings s known) (op : Operation) (hnumeric : op.isNumeric = true)
    (hload : (s.operate settings op).answer.isFailedLoad = false) :
    KeepsSound settings known (s.operate settings op) := by
  have hconsistent := Session.operate_consistent h.consistent op hload
  cases op with
  | load text check => exact (h.load text check (Answer.ne_error hload)).map Answer.loading
  | loadSample name =>
    exact (h.load (Sample.text name) acceptAll (Answer.ne_error hload)).map Answer.loading
  | start => exact h.of_keeps (s.start_keeps.map _) hconsistent
  | pause => exact h.of_keeps (s.pause_keeps.map _) hconsistent
  | resume => exact h.of_keeps (s.resume_keeps.map _) hconsistent
  | stop => exact h.of_keeps (s.stop_keeps.map _) hconsistent
  | forward => exact h.of_keeps (s.forward_keeps.map _) hconsistent
  | backward => exact h.of_keeps ((Session.backward_keeps h.cursor_le).map _) hconsistent
  | advance seconds => exact h.of_keeps ((s.advance_keeps seconds).map _) hconsistent
  | setVisibility visible =>
    exact h.of_keeps ((s.setVisibility_keeps visible).map fun _ => Answer.shown) hconsistent
  | setSpeed speed =>
    have hspeed : speed.isNaN = false := by
      simpa only [Operation.isNumeric, Bool.not_eq_true'] using hnumeric
    exact ⟨trivial, hconsistent, clip_speed hspeed, h.told⟩

/-- What holds of a run follows operation by operation. -/
theorem operateAll : ∀ (ops : List Operation) {s : Session} {known : Option Nat},
    Sound settings s known → (∀ op ∈ ops, op.isNumeric = true) →
    (∀ a ∈ (s.operateAll settings ops).answer, a.isFailedLoad = false) →
      KeepsSound settings known (s.operateAll settings ops) := by
  intro ops
  induction ops with
  | nil => intro s known h _ _; exact ⟨trivial, h⟩
  | cons op rest ih =>
    intro s known h hnumeric hload
    have hfirst := h.operate op (hnumeric op List.mem_cons_self)
      (hload _ List.mem_cons_self)
    have hlater := ih hfirst.sound
      (fun op' hop' => hnumeric op' (List.mem_cons_of_mem _ hop'))
      (fun a ha => hload a (List.mem_cons_of_mem _ ha))
    refine ⟨?_, ?_⟩
    · rw [Session.operateAll, Journal.events_append]
      exact hfirst.inRange.append hlater.inRange
    · rw [Session.operateAll, Journal.events_append, lastCount_append]
      exact hlater.sound

end Sound

/-! ## Runs -/

/-- A session that its operations may rely on: without a program it is at rest; with one,
its durations, its schedule and its cursor fit the toolpath. -/
structure Session.IsWellFormed (s : Session) : Prop where
  empty : s.job = none →
    s.mode = .idle ∧ s.cursor = 0 ∧ s.elapsed = 0.0 ∧ s.durations = []
  loaded : ∀ job, s.job = some job →
    s.durations.length = job.toolpath.length ∧
      s.schedule.segmentCount = job.toolpath.length ∧
      s.cursor ≤ job.toolpath.length ∧
      ∀ a ∈ s.schedule.directives, 0 ≤ a.before ∧ a.before ≤ job.toolpath.length
  speed : minimumSpeed ≤ s.speed ∧ s.speed ≤ maximumSpeed

theorem IsLoaded.anchors {settings : Settings} {s : Session} {job : Job}
    (h : IsLoaded settings s job) :
    ∀ a ∈ s.schedule.directives, 0 ≤ a.before ∧ a.before ≤ job.toolpath.length := by
  obtain ⟨htoolpath, hdirectives⟩ := h.executed
  intro a ha
  rw [h.schedule] at ha
  have ha' : a ∈ (runFrom 0 {} job.commands).directives := hdirectives ▸ ha
  have hlow := count_le_before job.commands 0 {} a ha'
  have hhigh := before_le_count job.commands 0 {} a ha'
  have hlength : job.toolpath.length = (runFrom 0 {} job.commands).toolpath.length :=
    congrArg List.length htoolpath
  omega

theorem Sound.isWellFormed {settings : Settings} {s : Session} {known : Option Nat}
    (h : Sound settings s known) : s.IsWellFormed where
  empty := by
    intro hnone
    cases h.consistent with
    | empty held schedule durations mode cursor elapsed =>
      exact ⟨mode, cursor, elapsed, durations⟩
    | loaded job isLoaded => rw [isLoaded.held] at hnone; cases hnone
  loaded := by
    intro job hjob
    have hloaded := h.consistent.isLoaded hjob
    exact ⟨hloaded.length_durations, congrArg Schedule.segmentCount hloaded.schedule,
      hloaded.cursor, hloaded.anchors⟩
  speed := h.speed

/-- Whatever operations a new session has gone through, it is well-formed, and every index
that its renderer was shown was below the number of segments told last before. -/
theorem operateAll_well_formed (settings : Settings) (machine : Attachment)
    (renderer : Renderer) (ops : List Operation)
    (hnumeric : ∀ op ∈ ops, op.isNumeric = true)
    (hload : ∀ a ∈ (Session.operateAll settings ops
      { machine := machine, renderer := renderer }).answer, a.isFailedLoad = false) :
    let turn := Session.operateAll settings ops { machine := machine, renderer := renderer }
    turn.session.IsWellFormed ∧
      ∀ before i after,
        turn.journal.events = before ++ .renderer (.setCurrentSegment i) :: after →
          ∃ count, (before.filterMap Event.count?).getLast? = some count ∧ i < count := by
  obtain ⟨hrange, hsound⟩ := Sound.operateAll ops (Sound.new settings machine renderer)
    hnumeric hload
  refine ⟨hsound.isWellFormed, ?_⟩
  intro before i after hevents
  rw [hevents] at hrange
  obtain ⟨count, hcount, hlt⟩ := hrange.at_shown
  rw [lastCount, Option.or_none] at hcount
  exact ⟨count, hcount, hlt⟩

/-- A program that is stepped forth and back and to its end, and then reloaded with a
shorter one, with a refused one and with an empty one. -/
theorem operateAll_well_formed_reloads :
    let ops := [.forward, .load "G1 X1 F60\nG1 X2\nM5" acceptAll, .setSpeed 99.0, .start,
      .advance 0.15, .backward, .pause, .resume, .forward, .forward, .forward,
      .load "G0 X5" acceptAll, .forward, .load "G0" (fun _ => some "refused"), .backward,
      .setVisibility false, .load "" acceptAll, .start, .advance 1.0, .stop]
    let turn := Session.operateAll .standard ops
      { machine := .recorder true, renderer := .recorder true }
    (∀ op ∈ ops, op.isNumeric = true) ∧
      (∀ a ∈ turn.answer, a.isFailedLoad = false) ∧
      turn.session.IsWellFormed ∧ turn.session.speed = 10.0 ∧
      turn.journal.events.filterMap Event.count? = [2, 1, 0] ∧
      turn.journal.shown = [0, 0, 0, 1, 0, 0] ∧
      ∀ before i after,
        turn.journal.events = before ++ .renderer (.setCurrentSegment i) :: after →
          ∃ count, (before.filterMap Event.count?).getLast? = some count ∧ i < count := by
  intro ops turn
  have hnumeric : ∀ op ∈ ops, op.isNumeric = true := by decide +kernel
  have hload : ∀ a ∈ turn.answer, a.isFailedLoad = false := by decide +kernel
  have hrun : turn.session.speed = 10.0 ∧
      turn.journal.events.filterMap Event.count? = [2, 1, 0] ∧
      turn.journal.shown = [0, 0, 0, 1, 0, 0] := by decide +kernel
  obtain ⟨hspeed, hcounts, hshown⟩ := hrun
  obtain ⟨hwellFormed, hrange⟩ :=
    operateAll_well_formed .standard (.recorder true) (.recorder true) ops hnumeric hload
  exact ⟨hnumeric, hload, hwellFormed, hspeed, hcounts, hshown, hrange⟩

end Machining.Playback
