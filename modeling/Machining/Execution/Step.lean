import Machining.Execution.Modal
import Machining.Program.Command
import Machining.Toolpath.Directive
import Machining.Toolpath.Segment
set_option autoImplicit false

/-!
# Executing one command

One command takes a modal state to the next.  It may give a segment, a directive and records, and it may
fail; what it changed before failing stays.  A step never looks at the machine.
-/

namespace Machining.Execution

open Machining.Program
open Machining.Toolpath

/-- What one command does. -/
structure Step where
  state : Modal
  segment? : Option Segment := none
  directive? : Option Directive := none
  fault? : Option Fault := none
  log : Log := []
  deriving DecidableEq, Repr, Inhabited

/-! ## Functions of the three groups -/

/-- What a `G` code asks for. -/
inductive GFunction where
  | motion (mode : Int)
  | plane (mode : Int)
  | units (mode : Int)
  | coordinateSystem (mode : Int)
  | positioning (mode : Int)
  | cycle (number : Int)
  | cancelCycle
  | rebase
  | unsupported
  deriving DecidableEq, Repr, Inhabited

/-- The function of a whole `G` number. -/
def GFunction.ofNumber (n : Int) : GFunction :=
  if 0 ≤ n ∧ n ≤ 3 then .motion n
  else if 17 ≤ n ∧ n ≤ 19 then .plane n
  else if 20 ≤ n ∧ n ≤ 21 then .units n
  else if 54 ≤ n ∧ n ≤ 59 then .coordinateSystem n
  else if 90 ≤ n ∧ n ≤ 91 then .positioning n
  else if 81 ≤ n ∧ n ≤ 89 then .cycle n
  else if n = 80 then .cancelCycle
  else if n = 92 then .rebase
  else .unsupported

/-- The function of a `G` code; codes that are not whole have none. -/
def GFunction.ofCode (code : Float) : GFunction :=
  match wholeNumber? code with
  | some n => .ofNumber n
  | none => .unsupported

/-- What an `M` code asks for. -/
inductive MFunction where
  | spindleOn (direction : Int)
  | spindleOff
  | toolChange
  | coolant (on : Bool)
  | programEnd
  | unsupported
  deriving DecidableEq, Repr, Inhabited

/-- The function of an `M` code; codes that are not whole have none. -/
def MFunction.ofCode (code : Float) : MFunction :=
  match wholeNumber? code with
  | some 3 => .spindleOn 1
  | some 4 => .spindleOn (-1)
  | some 5 => .spindleOff
  | some 6 => .toolChange
  | some 8 => .coolant true
  | some 9 => .coolant false
  | some 2 => .programEnd
  | some 30 => .programEnd
  | _ => .unsupported

/-! ## Moves -/

/-- The kind of segment of a motion mode. -/
def segmentKind (mode : Int) : SegmentKind :=
  if mode = 0 then .rapid
  else if mode = 1 then .linear
  else if mode = 2 then .clockwiseArc
  else .counterclockwiseArc

/-- The path of a motion mode: straight, or an arc with the offset and radius words. -/
def motionShape (s : Modal) (mode : Int) (params : AddressMap) : Shape :=
  if mode ≤ 1 then .straight
  else
    .arc
      ⟨[("i", params.getD "I" 0.0), ("j", params.getD "J" 0.0), ("k", params.getD "K" 0.0)]⟩
      (params.get? "R") s.plane

/-- A move in a motion mode `0` to `3`.  The rate is taken first, also by a move that fails; only the
end position changes the tracked position. -/
def move (s : Modal) (mode : Int) (params : AddressMap) (line : Int) : Step :=
  let s := s.withFeedrate params
  match s.destination params with
  | .error fault => { state := s, fault? := some fault }
  | .ok finish =>
    { state := { s with position := finish }
      segment? := some
        { kind := segmentKind mode
          start := s.position
          finish := finish
          shape := motionShape s mode params
          feedrate := if mode = 0 then none else s.feedrate
          spindleSpeed := s.spindleSpeed
          tool := s.tool
          line := line } }

/-- The hole of a drilling cycle.  Both coordinates of the current position are looked up, given or
not. -/
def hole (s : Modal) (params : AddressMap) : Except Fault AddressMap := do
  let x ← s.position.get "x"
  let y ← s.position.get "y"
  return ⟨[("x", params.getD "X" x), ("y", params.getD "Y" y)]⟩

/-- A drilling cycle.  It needs depth and retract height, and leaves the tracked position alone. -/
def drill (s : Modal) (cycle : Int) (params : AddressMap) (line : Int) : Step :=
  match params.get? "Z", params.get? "R" with
  | some depth, some retract =>
    let s := s.withFeedrate params
    match hole s params with
    | .error fault => { state := s, fault? := some fault }
    | .ok hole =>
      { state := s
        segment? := some
          { kind := .drill
            start := s.position
            finish := s.position
            shape := .drill cycle hole depth retract
            feedrate := s.feedrate
            spindleSpeed := s.spindleSpeed
            tool := s.tool
            line := line } }
  | _, _ => { state := s, fault? := some (.incompleteCycle cycle line) }

/-- A record about a command. -/
def note (level : LogLevel) (message : String) : LogRecord := ⟨level, .execution, message⟩

/-! ## Commands of each kind -/

/-- A `G` command.  A spindle speed is taken first; a motion that succeeds becomes the mode in
force. -/
def stepG (s : Modal) (code : Float) (c : Command) : Step :=
  let s := s.withSpindleSpeed c.params
  match GFunction.ofCode code with
  | .motion mode =>
    let step := move s mode c.params c.line
    if step.fault?.isNone then { step with state := { step.state with motion := mode } } else step
  | .plane mode => { state := { s with plane := mode } }
  | .units mode => { state := { s with units := mode } }
  | .coordinateSystem mode => { state := { s with coordinateSystem := mode } }
  | .positioning mode => { state := { s with positioning := mode } }
  | .cycle number => drill s number c.params c.line
  | .cancelCycle =>
    { state := s, log := [note .debug s!"Line {c.line}: canned cycle cancel"] }
  | .rebase =>
    let (state, fault?) := s.rebase c.params
    { state := state, fault? := fault? }
  | .unsupported =>
    { state := s
      log := [note .debug (s!"Line {c.line}: ignoring unsupported G" ++ Number.general 6 code)] }

/-- An `M` command.  The directive is anchored to the next segment, which has the index `count`. -/
def stepM (count : Nat) (s : Modal) (code : Float) (c : Command) : Step :=
  let directive (effect : Effect) : Option Directive := some ⟨effect, count, c.line⟩
  match MFunction.ofCode code with
  | .spindleOn direction =>
    let s := { s.withSpindleSpeed c.params with spindleDirection := direction }
    { state := s, directive? := directive (.spindleOn s.spindleSpeed direction) }
  | .spindleOff =>
    { state := { s with spindleSpeed := 0.0, spindleDirection := 0 }
      directive? := directive .spindleOff }
  | .toolChange => { state := s }
  | .coolant on => { state := { s with coolant := on }, directive? := directive (.coolant on) }
  | .programEnd =>
    { state := s
      directive? := directive .programEnd
      log := [note .info ("Program end (M" ++ Number.general 6 code ++ s!") at line {c.line}")] }
  | .unsupported =>
    { state := s
      log := [note .debug (s!"Line {c.line}: ignoring unsupported M" ++ Number.general 6 code)] }

/-- A `T` command: the tool is the integer part of the code. -/
def stepT (count : Nat) (s : Modal) (code : Float) (c : Command) : Step :=
  match integerPartOrFault code with
  | .error fault => { state := s, fault? := some fault }
  | .ok tool =>
    { state := { s with tool := tool }
      directive? := some ⟨.toolChange tool, count, c.line⟩
      log := [note .info s!"Tool change to T{tool}"] }

/-- A line of parameters: the motion in force once more, also without axis words. -/
def stepModal (s : Modal) (c : Command) : Step :=
  let s := s.withSpindleSpeed c.params
  if 0 ≤ s.motion ∧ s.motion ≤ 3 then move s s.motion c.params c.line else { state := s }

/-- What a command does when `count` segments precede it. -/
def step (count : Nat) (s : Modal) (c : Command) : Step :=
  match c.head with
  | .g code => stepG s code c
  | .m code => stepM count s code c
  | .t code => stepT count s code c
  | .modal => stepModal s c

end Machining.Execution
