import Machining.Machine.Attachment
import Machining.Toolpath.Directive
import Machining.Toolpath.Segment
set_option autoImplicit false

/-!
# Playing segments

To play a segment is first to plan it: a list of cues, each a record or a call to the machine.  The
directives anchored to the segment come first, in the order in which they were recorded, then the moves.
The plan is data; a machine performs its cues one after the other.
-/

namespace Machining.Playback

open Machining.Machine
open Machining.Toolpath

/-- One item of a plan. -/
inductive Cue where
  | note (record : LogRecord)
  | call (call : Call)
  deriving DecidableEq, Repr, Inhabited

/-- Cues in order, and the fault that ends the plan early, if there is one. -/
structure Plan where
  cues : List Cue := []
  fault? : Option Fault := none
  deriving DecidableEq, Repr, Inhabited

/-! ## Plans -/

/-- A record about playing. -/
def playNote (level : LogLevel) (message : String) : Cue := .note ⟨level, .playback, message⟩

/-- What an effect asks of an attached machine.  The end of the program only leaves a record. -/
def effectCue : Effect → Cue
  | .spindleOn speed direction => .call (.setSpindle speed direction)
  | .spindleOff => .call .stopSpindle
  | .coolant on => .call (.setCoolant on)
  | .toolChange tool => .call (.changeTool tool)
  | .programEnd => playNote .info "Program end reached"

/-- The cues of a directive; without a machine it only leaves a record. -/
def directiveCues (present : Bool) (a : Directive) : List Cue :=
  playNote .debug (s!"Line {a.line}: " ++ a.effect.name)
    :: (if present then [effectCue a.effect] else [])

/-- The moves of a straight path or an arc: every axis of its end, in machine order. -/
def axisMoves (s : Segment) : List Cue :=
  Axis.all.filterMap fun axis =>
    (s.finish.get? axis.name).map fun target => .call (.moveAxis axis target s.isRapid)

/-- The moves of a drilling cycle: over the hole and to the retract height at rapid rate, down at the
cycle's rate, and up again.  A hole without a coordinate ends the plan there. -/
def drillPlan (hole : AddressMap) (depth retract : Float) : Plan :=
  match hole.get "x" with
  | .error fault => { fault? := some fault }
  | .ok x =>
    let overX : Cue := .call (.moveAxis .x x true)
    match hole.get "y" with
    | .error fault => { cues := [overX], fault? := some fault }
    | .ok y =>
      { cues :=
          [overX, .call (.moveAxis .y y true), .call (.moveAxis .z retract true),
            .call (.moveAxis .z depth false), .call (.moveAxis .z retract true)] }

/-- The moves of a segment. -/
def movePlan (s : Segment) : Plan :=
  match s.shape with
  | .drill _ hole depth retract => drillPlan hole depth retract
  | _ => { cues := axisMoves s }

/-! ## Performance -/

/-- Performs cues, with the coordinates reached before. -/
def performFrom (machine : Attachment) (reached : AddressMap) : List Cue → Performed
  | [] => ⟨machine, reached, []⟩
  | .note record :: rest =>
    let later := performFrom machine reached rest
    { later with journal := .record record :: later.journal }
  | .call call :: rest =>
    let first := machine.perform reached call
    let later := performFrom first.machine first.reached rest
    { later with journal := first.journal ++ later.journal }

/-- Performs cues. -/
def performCues (machine : Attachment) (cues : List Cue) : Performed :=
  performFrom machine {} cues

/-! ## Schedules -/

/-- The directives of a loaded program and the length of its toolpath. -/
structure Schedule where
  directives : List Directive := []
  segmentCount : Nat := 0
  deriving DecidableEq, Repr, Inhabited

namespace Schedule

/-- The directives anchored to an index, in recorded order. -/
def directivesAt (p : Schedule) (index : Int) : List Directive :=
  p.directives.filter fun a => a.before = index

/-- The cues of the directives anchored to an index. -/
def directiveCuesAt (p : Schedule) (present : Bool) (index : Int) : List Cue :=
  (p.directivesAt index).flatMap (directiveCues present)

/-- The plan of the segment at an index.  Without a machine there are no moves. -/
def plan (p : Schedule) (present : Bool) (index : Int) (s : Segment) : Plan :=
  let opening := p.directiveCuesAt present index ++
    [playNote .trace
      (s!"Executing segment {index}: " ++ s.kind.name ++ s!" (line {s.line})")]
  if present then
    let moves := movePlan s
    { cues := opening ++ moves.cues, fault? := moves.fault? }
  else { cues := opening }

/-- Plays the segment at an index: the machine afterwards, the coordinates reached or the fault, and
what happened. -/
def play (p : Schedule) (machine : Attachment) (index : Int) (s : Segment) :
    Performed × Except Fault AddressMap :=
  let plan := p.plan machine.isPresent index s
  let performed := performCues machine plan.cues
  (performed,
    match plan.fault? with
    | some fault => .error fault
    | none => .ok performed.reached)

/-- Applies one directive. -/
def apply (machine : Attachment) (a : Directive) : Performed :=
  performCues machine (directiveCues machine.isPresent a)

/-- Applies the directives after the last segment. -/
def finish (p : Schedule) (machine : Attachment) : Performed :=
  performCues machine (p.directiveCuesAt machine.isPresent p.segmentCount)

end Schedule

end Machining.Playback
