import Machining.Execution.Run
import Machining.Geometry.Duration
import Machining.Playback.Plan
import Machining.Program.Reading
import Machining.Program.Review
import Machining.Program.Tally
import Machining.Settings
set_option autoImplicit false

/-!
# Playback sessions

A session holds one loaded program and plays it segment by segment, by single steps or in time.  Every
operation gives the session afterwards, its answer and its journal.  Playing a segment can fail; a
failure leaves the session as far as it got.
-/

namespace Machining.Playback

open Machining.Execution
open Machining.Geometry
open Machining.Machine
open Machining.Program
open Machining.Toolpath

/-! ## State -/

/-- What playback is doing. -/
inductive Mode where
  | idle
  | running
  | paused
  | stopped
  deriving DecidableEq, Repr, Inhabited

namespace Mode

/-- The name of a mode. -/
def name : Mode → String
  | idle => "idle"
  | running => "running"
  | paused => "paused"
  | stopped => "stopped"

end Mode

/-- The renderer that is attached: none, or one that records what it is told.  A renderer that cannot
hide the toolpath ignores visibility. -/
inductive Renderer where
  | absent
  | recorder (canHide : Bool)
  deriving DecidableEq, Repr, Inhabited

namespace Renderer

/-- A renderer that can or cannot hide sees the call. -/
def sees (canHide : Bool) : RendererCall → Bool
  | .setVisible _ => canHide
  | _ => true

/-- Tells the renderer. -/
def tell (r : Renderer) (call : RendererCall) : Journal :=
  match r with
  | absent => []
  | recorder canHide => if sees canHide call then [.event (.renderer call)] else []

end Renderer

/-- A loaded program: its commands, what executing them gave, and what was found about it. -/
structure Job where
  commands : List Command
  toolpath : List Segment
  directives : List Directive
  tally : Tally
  findings : List Finding
  issues : List RunIssue
  deriving DecidableEq, Repr, Inhabited

/-- The answer to loading a text. -/
inductive Loading where
  /-- Lines were refused; nothing was executed. -/
  | rejected (issues : List LineIssue)
  | accepted (job : Job)
  deriving DecidableEq, Repr, Inhabited

/-- A playback session. -/
structure Session where
  machine : Attachment := .absent
  renderer : Renderer := .absent
  job : Option Job := none
  schedule : Schedule := {}
  /-- Estimated seconds of each segment. -/
  durations : List Float := []
  mode : Mode := .idle
  /-- The next segment to play. -/
  cursor : Nat := 0
  /-- Playback time not yet used up by segments. -/
  elapsed : Float := 0.0
  speed : Float := 1.0
  deriving DecidableEq, Repr, Inhabited

/-- What an operation gives. -/
structure Turn (α : Type) where
  session : Session
  answer : α
  journal : Journal := []
  deriving Repr

namespace Session

/-- A record of the session, as a journal entry. -/
def note (level : LogLevel) (message : String) : Entry := .record ⟨level, .session, message⟩

/-- The toolpath of the loaded job. -/
def toolpath (s : Session) : List Segment :=
  match s.job with
  | some job => job.toolpath
  | none => []

/-- Playback has started and not ended. -/
def isRunning (s : Session) : Bool := s.mode = .running || s.mode = .paused

/-- Playback is held. -/
def isPaused (s : Session) : Bool := s.mode = .paused

/-- The answer of an operation that needs a program when there is none. -/
def withoutProgram (s : Session) : Turn Bool := ⟨s, false, [note .error "No program loaded"]⟩

/-! ## Loading -/

/-- The findings and the tally as they are reported. -/
def reviewJournal (findings : List Finding) (tally : Tally) : Journal :=
  findings.map (fun f => note .warning (s!"Line {f.line}: " ++ f.message)) ++
    [note .info ("Program statistics: " ++ tally.text)]

/-- The program of some commands and what its execution reports. -/
def prepare (settings : Settings) (commands : List Command) : Job × Journal :=
  let findings := review settings.largeCoordinate commands
  let tally := Tally.ofCommands commands
  let executed := run {} commands
  ({ commands := commands
     toolpath := executed.toolpath
     directives := executed.directives
     tally := tally
     findings := findings
     issues := executed.issues },
    reviewJournal findings tally ++ Journal.ofLog executed.log)

/-- Puts a prepared program in place.  The program and its directives come first; if the durations cannot
be estimated, the rest of the session stays as it was. -/
def install (s : Session) (settings : Settings) (job : Job) :
    Turn (Except Fault Loading) :=
  let replaced : Session :=
    { s with job := some job, schedule := ⟨job.directives, job.toolpath.length⟩ }
  let (durations, log) := segmentTimes (some settings.rapidFeedrate) job.toolpath
  match durations with
  | .error fault => ⟨replaced, .error fault, Journal.ofLog log⟩
  | .ok durations =>
    ⟨{ replaced with durations := durations, mode := .idle, cursor := 0, elapsed := 0.0 },
      .ok (.accepted job),
      Journal.ofLog log ++ s.renderer.tell (.setToolpath job.toolpath.length) ++
        [note .info s!"Loaded program: {job.toolpath.length} segments"]⟩

/-- The refused lines as they are reported. -/
def rejectionText (issues : List LineIssue) : String :=
  "G-code parsing errors: " ++
    Text.quotedList (issues.map fun i => s!"line {i.line}: {i.message}")

/-- Loads a job.  A text with a refused line is rejected and changes nothing; commands that fail
when executed do not reject the job. -/
def load (s : Session) (settings : Settings) (text : String) (check : LineCheck := acceptAll) :
    Turn (Except Fault Loading) :=
  let (reading, log) := readText text check
  if reading.success then
    let (job, prepared) := prepare settings reading.commands
    let installed := s.install settings job
    { installed with journal := Journal.ofLog log ++ prepared ++ installed.journal }
  else
    ⟨s, .ok (.rejected reading.issues),
      Journal.ofLog log ++ [note .error (rejectionText reading.issues)]⟩

/-! ## Control -/

/-- Starts from the first segment. -/
def start (s : Session) : Turn Bool :=
  match s.job with
  | none => s.withoutProgram
  | some _ =>
    ⟨{ s with mode := .running, cursor := 0, elapsed := 0.0 }, true,
      [note .info "Program started"]⟩

/-- Holds a running playback. -/
def pause (s : Session) : Turn Bool :=
  if s.mode = .running then
    ⟨{ s with mode := .paused }, true, [note .info "Program paused"]⟩
  else ⟨s, false, [note .warning ("Cannot pause while " ++ s.mode.name)]⟩

/-- Goes on with a held playback. -/
def resume (s : Session) : Turn Bool :=
  if s.mode = .paused then
    ⟨{ s with mode := .running }, true, [note .info "Program resumed"]⟩
  else ⟨s, false, [note .warning ("Cannot resume while " ++ s.mode.name)]⟩

/-- The machine after its spindle is stopped, if there is one, and what happened. -/
def stopMachine (machine : Attachment) : Performed :=
  performCues machine (if machine.isPresent then [.call .stopSpindle] else [])

/-- Ends playback, rewinds and stops the spindle. -/
def stop (s : Session) : Turn Bool :=
  match s.job with
  | none => s.withoutProgram
  | some _ =>
    let stopped := stopMachine s.machine
    ⟨{ s with machine := stopped.machine, mode := .stopped, cursor := 0, elapsed := 0.0 }, true,
      stopped.journal ++ [note .info "Program stopped"]⟩

/-- Plays the given segment, which is the one at the cursor, and advances. -/
def playCurrent (s : Session) (segment : Segment) : Turn (Except Fault Bool) :=
  let (performed, outcome) := s.schedule.play s.machine s.cursor segment
  let played : Session := { s with machine := performed.machine }
  match outcome with
  | .error fault => ⟨played, .error fault, performed.journal⟩
  | .ok _ =>
    ⟨{ played with cursor := s.cursor + 1 }, .ok true,
      performed.journal ++ s.renderer.tell (.setCurrentSegment s.cursor)⟩

/-- Applies the directives after the last segment and stops. -/
def endProgram (s : Session) : Turn (Except Fault Bool) :=
  let finished := s.schedule.finish s.machine
  let stopped := { s with machine := finished.machine }.stop
  ⟨stopped.session, .ok false,
    note .info "End of program" :: (finished.journal ++ stopped.journal)⟩

/-- Plays the segment at the cursor and advances; at the end of the toolpath the program is stopped
instead.  The answer says whether a segment was played. -/
def forward (s : Session) : Turn (Except Fault Bool) :=
  match s.job with
  | none =>
    let failed := s.withoutProgram
    ⟨failed.session, .ok failed.answer, failed.journal⟩
  | some job =>
    match job.toolpath[s.cursor]? with
    | some segment => s.playCurrent segment
    | none => s.endProgram

/-- Moves the cursor back by one segment, without the machine. -/
def backward (s : Session) : Turn Bool :=
  if s.cursor = 0 then ⟨s, false, []⟩
  else
    ⟨{ s with cursor := s.cursor - 1, elapsed := 0.0 }, true,
      s.renderer.tell (.setCurrentSegment (s.cursor - 1))⟩

/-! ## Playback in time -/

/-- Plays segments while the time at hand covers them.  The list holds the durations from the cursor
on; when it is used up, one step ends the job.  The answer is the number of segments played. -/
def spend : List Float → Session → Turn (Except Fault Nat)
  | [], s =>
    let turn := s.forward
    ⟨turn.session, turn.answer.map fun _ => 0, turn.journal⟩
  | duration :: rest, s =>
    if s.elapsed < duration then ⟨s, .ok 0, []⟩
    else
      let turn := { s with elapsed := s.elapsed - duration }.forward
      match turn.answer with
      | .error fault => ⟨turn.session, .error fault, turn.journal⟩
      | .ok played =>
        let count := if played then 1 else 0
        if turn.session.mode = .running then
          let later := spend rest turn.session
          ⟨later.session, later.answer.map (· + count), turn.journal ++ later.journal⟩
        else ⟨turn.session, .ok count, turn.journal⟩

/-- Advances a running playback by the given seconds times the speed; negative seconds count as
none. -/
def advance (s : Session) (seconds : Float) : Turn (Except Fault Nat) :=
  if s.mode = .running ∧ s.job.isSome then
    let gained := Number.keepUnlessGreater seconds 0.0 * s.speed
    spend (s.durations.drop s.cursor) { s with elapsed := s.elapsed + gained }
  else ⟨s, .ok 0, []⟩

/-- Sets the speed, within its bounds; the answer is the speed set. -/
def setSpeed (s : Session) (speed : Float) : Turn Float :=
  let bounded := Number.clip minimumSpeed maximumSpeed speed
  ⟨{ s with speed := bounded }, bounded, []⟩

/-- Estimated seconds for the whole program at normal speed.  The durations are added from first to last;
eight or more of them added in pairs may give other last digits. -/
def runTime (s : Session) : Float := s.durations.foldl (· + ·) 0.0

/-! ## Views -/

/-- Shows or hides the toolpath. -/
def setVisibility (s : Session) (visible : Bool) : Turn Unit :=
  ⟨s, (), s.renderer.tell (.setVisible visible)⟩

/-- The share of the toolpath before the cursor; none of an empty toolpath. -/
def progress (s : Session) : Float :=
  if s.toolpath.isEmpty then 0.0
  else Float.ofNat s.cursor / Float.ofNat s.toolpath.length

end Session

end Machining.Playback
