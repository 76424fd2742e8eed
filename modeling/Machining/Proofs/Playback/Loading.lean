import Machining.Proofs.Execution.Correspondence
import Machining.Proofs.Geometry.Estimate
import Machining.Proofs.Playback.Operation
set_option autoImplicit false

/-!
# Loading

A load ends in one of three ways.  A refused text changes nothing.  A text whose
durations can be estimated is put in place as a whole.  But where a rate vanishes, the
program and its directives are put in place before the estimate fails: the session then
holds the new program together with the durations, the mode and the cursor of the old
one, and the renderer has been told nothing.
-/

namespace Machining.Playback

open Machining.Execution
open Machining.Geometry
open Machining.Machine
open Machining.Program
open Machining.Toolpath

/-! ## The three ways -/

/-- The program of a text, with the lines that the check refuses left out. -/
def jobOf (settings : Settings) (text : String) (check : LineCheck) : Job :=
  (Session.prepare settings (readText text check).1.commands).1

/-- No rate that the durations of the program divide by vanishes. -/
def Job.HasSoundRates (settings : Settings) (job : Job) : Prop :=
  (job.toolpath.flatMap (rates (some settings.rapidFeedrate))).any vanishes = false

instance (settings : Settings) (job : Job) : Decidable (job.HasSoundRates settings) :=
  inferInstanceAs (Decidable (_ = _))

/-- The session with the program and its directives replaced, and all else as it was. -/
def Session.withJob (s : Session) (job : Job) : Session :=
  { s with job := some job, schedule := ⟨job.directives, job.toolpath.length⟩ }

@[simp] theorem Session.toolpath_withJob (s : Session) (job : Job) :
    (s.withJob job).toolpath = job.toolpath := rfl

@[simp] theorem Session.segmentCount_withJob (s : Session) (job : Job) :
    (s.withJob job).schedule.segmentCount = job.toolpath.length := rfl

@[simp] theorem Session.durations_withJob (s : Session) (job : Job) :
    (s.withJob job).durations = s.durations := rfl

section

variable (settings : Settings) (s : Session) (text : String) (check : LineCheck)

/-- What loading a text into a session can give. -/
inductive Loads (turn : Turn (Except Fault Loading)) : Prop where
  /-- Lines were refused, and nothing happened. -/
  | rejected (refused : (readText text check).1.success = false)
      (answer : turn.answer = .ok (.rejected (readText text check).1.issues))
      (session : turn.session = s) (events : turn.journal.events = [])
  /-- The program is in place, ready to start, and the renderer knows. -/
  | accepted (durations : List Float) (read : (readText text check).1.success = true)
      (sound : (jobOf settings text check).HasSoundRates settings)
      (times : (segmentTimes (some settings.rapidFeedrate)
        (jobOf settings text check).toolpath).1 = .ok durations)
      (answer : turn.answer = .ok (.accepted (jobOf settings text check)))
      (session : turn.session =
        { s.withJob (jobOf settings text check) with
          durations := durations, mode := .idle, cursor := 0, elapsed := 0.0 })
      (events : turn.journal.events =
        (s.renderer.tell
          (.setToolpath (jobOf settings text check).toolpath.length)).events)
  /-- The program is in place, but the durations could not be estimated. -/
  | failed (read : (readText text check).1.success = true)
      (unsound : ¬ (jobOf settings text check).HasSoundRates settings)
      (answer : turn.answer = .error .divisionByZero)
      (session : turn.session = s.withJob (jobOf settings text check))
      (events : turn.journal.events = [])

theorem jobOf_estimates :
    Estimates ((jobOf settings text check).toolpath.flatMap
        (rates (some settings.rapidFeedrate)))
      (segmentTimes (some settings.rapidFeedrate) (jobOf settings text check).toolpath).1 :=
  segmentTimes_estimates _ _ (runFrom_measurable zeroPosition_hasAxes)

/-- Preparing a program only makes records. -/
theorem prepare_events (commands : List Command) :
    (Session.prepare settings commands).2.events = [] := by
  have hfindings : ∀ findings : List Finding,
      Journal.events (findings.map fun f =>
        Session.note .warning (s!"Line {f.line}: " ++ f.message)) = [] := by
    intro findings
    induction findings with
    | nil => rfl
    | cons f rest ih => exact ih
  unfold Session.prepare Session.reviewJournal
  rw [Journal.events_append, Journal.events_append, hfindings, Journal.events_ofLog]
  rfl

/-- Every load ends in one of the three ways. -/
theorem load_loads : Loads settings s text check (s.load settings text check) := by
  unfold Session.load
  dsimp only
  split
  · rename_i hread
    have hestimates := jobOf_estimates settings text check
    have hprepared := prepare_events settings (readText text check).1.commands
    change Loads settings s text check
      { s.install settings (jobOf settings text check) with
        journal := Journal.ofLog (readText text check).2 ++
          (Session.prepare settings (readText text check).1.commands).2 ++
            (s.install settings (jobOf settings text check)).journal }
    unfold Session.install
    dsimp only
    generalize htimes : (segmentTimes (some settings.rapidFeedrate)
      (jobOf settings text check).toolpath).1 = times at hestimates
    cases hestimates with
    | estimate durations hsound =>
      refine .accepted durations hread hsound htimes rfl rfl ?_
      simp only [Journal.events_append, Journal.events_ofLog, hprepared, List.nil_append]
      exact List.append_nil _
    | division hunsound =>
      refine .failed hread ?_ rfl rfl ?_
      · intro hsound
        rw [Job.HasSoundRates, hunsound] at hsound
        cases hsound
      · simp only [Journal.events_append, Journal.events_ofLog, hprepared, List.nil_append]
  · rename_i hrefused
    refine .rejected (Bool.eq_false_iff.mpr hrefused) rfl rfl ?_
    rw [Journal.events_append, Journal.events_ofLog]
    rfl

end

/-- A load is accepted just if no line is refused and no rate vanishes. -/
theorem load_accepted_iff (settings : Settings) (s : Session) (text : String)
    (check : LineCheck) :
    (s.load settings text check).answer = .ok (.accepted (jobOf settings text check)) ↔
      (readText text check).1.success = true ∧
        (jobOf settings text check).HasSoundRates settings := by
  cases load_loads settings s text check with
  | rejected refused answer => simp [answer, refused]
  | accepted durations read sound times answer => simp [answer, read, sound]
  | failed read unsound answer => simp [answer, unsound]

/-! ## Loads that are not accepted -/

/-- The session is as it was, and neither machine nor renderer was told anything. -/
def LeavesAlone (s : Session) (turn : Turn (Except Fault Loading)) : Prop :=
  turn.session = s ∧ turn.journal.events = []

/-- A load that is not accepted leaves the session alone just if its lines were refused,
or no rate of its program vanishes, or the session held this very program before.  In
the remaining case it was stopped by a division by zero; then the new program and its
directives have replaced the old ones, and all else is as it was. -/
theorem load_all_or_nothing_iff (settings : Settings) (s : Session) (text : String)
    (check : LineCheck) :
    let turn := s.load settings text check
    let job := jobOf settings text check
    (((∀ job', turn.answer ≠ .ok (.accepted job')) → LeavesAlone s turn) ↔
      (readText text check).1.success = false ∨ job.HasSoundRates settings ∨
        s.withJob job = s) ∧
    (∀ issues, turn.answer = .ok (.rejected issues) → LeavesAlone s turn) ∧
    ∀ fault, turn.answer = .error fault →
      fault = .divisionByZero ∧ turn.session = s.withJob job ∧ turn.journal.events = [] := by
  intro turn job
  have hloads : Loads settings s text check turn := load_loads settings s text check
  generalize turn = turn at hloads
  cases hloads with
  | rejected refused answer session events =>
    have halone : LeavesAlone s turn := ⟨session, events⟩
    rw [answer]
    exact ⟨iff_of_true (fun _ => halone) (.inl refused), fun _ _ => halone,
      fun _ h => (nomatch h)⟩
  | accepted durations read sound times answer session events =>
    rw [answer]
    refine ⟨iff_of_true ?_ (.inr (.inl sound)), fun _ h => (nomatch h),
      fun _ h => (nomatch h)⟩
    intro hnot
    exact absurd rfl (hnot _)
  | failed read unsound answer session events =>
    have hfailed : ∀ job', turn.answer ≠ .ok (.accepted job') := by
      rw [answer]
      exact fun _ h => (nomatch h)
    refine ⟨⟨?_, ?_⟩, ?_, ?_⟩
    · intro halone
      exact .inr (.inr (session.symm.trans (halone hfailed).1))
    · rintro (refused | sound | hsame) _
      · rw [read] at refused
        cases refused
      · exact absurd sound unsound
      · exact ⟨session.trans hsame, events⟩
    · rw [answer]
      exact fun _ h => (nomatch h)
    · intro fault h
      cases answer.symm.trans h
      exact ⟨rfl, session, events⟩

/-- A rate so small that its sixtieth is zero. -/
def vanishingRate : List Char := "0.".toList ++ List.replicate 322 '0' ++ ['1']

/-- A program of two moves at that rate. -/
def vanishingProgram : String :=
  String.ofList ("G1 X1 F".toList ++ vanishingRate ++ "\nG1 X2".toList)

theorem jobOf_vanishingProgram :
    (readText vanishingProgram acceptAll).1.success = true ∧
      ¬ (jobOf .standard vanishingProgram acceptAll).HasSoundRates .standard ∧
      (jobOf .standard vanishingProgram acceptAll).toolpath.length = 2 := by
  unfold jobOf readText readLines vanishingProgram
  rw [String.toList_ofList]
  decide +kernel

theorem load_vanishingProgram (s : Session) :
    (s.load .standard vanishingProgram).answer = .error .divisionByZero ∧
      (s.load .standard vanishingProgram).session =
        s.withJob (jobOf .standard vanishingProgram acceptAll) := by
  obtain ⟨hread, hunsound, _⟩ := jobOf_vanishingProgram
  cases load_loads .standard s vanishingProgram acceptAll with
  | rejected refused => rw [hread] at refused; cases refused
  | accepted durations read sound => exact absurd sound hunsound
  | failed read unsound answer session events => exact ⟨answer, session⟩

/-- A session that holds a program of one move. -/
def oneMoveSession : Session :=
  (Session.operate .standard { machine := .recorder true, renderer := .recorder true }
    (.load "G1 X10 F600" acceptAll)).session

/-- The program loaded before is lost to a load that fails, while its durations stay. -/
theorem failed_load_replaces_program :
    Reachable .standard oneMoveSession ∧
      (oneMoveSession.load .standard vanishingProgram).answer = .error .divisionByZero ∧
      oneMoveSession.toolpath.length = 1 ∧
      oneMoveSession.schedule.segmentCount = 1 ∧
      oneMoveSession.durations = [1.0] ∧
      (oneMoveSession.load .standard vanishingProgram).session.toolpath.length = 2 ∧
      (oneMoveSession.load .standard vanishingProgram).session.schedule.segmentCount = 2 ∧
      (oneMoveSession.load .standard vanishingProgram).session.durations = [1.0] := by
  have hreachable : Reachable .standard oneMoveSession :=
    .operate _ (.new _ _) (by decide +kernel)
  have hloaded : oneMoveSession.toolpath.length = 1 ∧
      oneMoveSession.schedule.segmentCount = 1 ∧ oneMoveSession.durations = [1.0] := by
    decide +kernel
  obtain ⟨hlength, hcount, hdurations⟩ := hloaded
  obtain ⟨hfailed, hsession⟩ := load_vanishingProgram oneMoveSession
  refine ⟨hreachable, hfailed, hlength, hcount, hdurations, ?_⟩
  rw [hsession, Session.toolpath_withJob, Session.segmentCount_withJob,
    Session.durations_withJob]
  exact ⟨jobOf_vanishingProgram.2.2, jobOf_vanishingProgram.2.2, hdurations⟩

/-! ## The toolpath of a loaded program -/

/-- The commands of a text give one segment each for those that ask for one, in their
order, with their line and their kind, and no other segment.  So the lines of the
toolpath increase, and the toolpath of a loaded program is as long as its tally and its
complete cycles say. -/
theorem commands_correspond_to_segments (text : String) (check : LineCheck) :
    let reading := (readText text check).1
    let toolpath := (run {} reading.commands).toolpath
    let tally := Tally.ofCommands reading.commands
    toolpath.map (fun g => (g.line, g.kind)) = drawn .rapid reading.commands ∧
    toolpath.map (·.line) = (reading.commands.filter Command.drawsSegment).map (·.line) ∧
    (toolpath.map (·.line)).Pairwise (· < ·) ∧
    tally.rapidMoves + tally.linearMoves + tally.arcMoves = reading.motions.length ∧
    ∀ settings s job, (Session.load s settings text check).answer = .ok (.accepted job) →
      job.tally = tally ∧ (s.load settings text check).session.toolpath = toolpath ∧
      toolpath.length =
        tally.rapidMoves + tally.linearMoves + tally.arcMoves + tally.modalCommands +
          reading.commands.countP Command.isCompleteCycle := by
  intro reading toolpath tally
  refine ⟨runFrom_drawn _ 0 Modal.IsReady.initial, map_line_toolpath _,
    toolpath_lines_increasing text check, ?_, ?_⟩
  · exact (tally_motions _).trans List.countP_eq_length_filter
  · intro settings s job haccepted
    have hlength := tally_toolpath reading.commands
    cases load_loads settings s text check with
    | accepted durations read sound times answer session events =>
      cases answer.symm.trans haccepted
      rw [session]
      exact ⟨rfl, rfl, hlength.symm⟩
    | rejected refused answer session events => cases answer.symm.trans haccepted
    | failed read unsound answer session events => cases answer.symm.trans haccepted

end Machining.Playback
