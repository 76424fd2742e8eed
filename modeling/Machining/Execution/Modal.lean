import Machining.AddressMap
import Machining.Axis
set_option autoImplicit false

/-!
# Modal state

What commands leave in force for the commands after them: the mode of each modal group, the position
of the tool tip in program coordinates, rate, spindle, coolant and tool, and the offsets.
-/

namespace Machining.Execution

/-- Every axis at zero. -/
def zeroPosition : AddressMap := ⟨Axis.all.map fun axis => (axis.name, 0.0)⟩

/-- Every linear axis at zero. -/
def zeroOffset : AddressMap := ⟨Axis.linear.map fun axis => (axis.name, 0.0)⟩

/-- The rate in force before any `F` word, in units per minute. -/
def defaultFeedrate : Float := 100.0

/-- The tool in use before any `T` word. -/
def defaultTool : Int := 1

/-- The modal state; modes are the numbers of the `G` codes that set them. -/
structure Modal where
  /-- `0` rapid, `1` linear, `2` clockwise arc, `3` counterclockwise arc. -/
  motion : Int := 0
  /-- `17` XY, `18` ZX, `19` YZ. -/
  plane : Int := 17
  /-- `20` inches, `21` millimetres. -/
  units : Int := 21
  /-- `54` to `59`. -/
  coordinateSystem : Int := 54
  /-- `90` absolute, any other mode incremental. -/
  positioning : Int := 90
  position : AddressMap := zeroPosition
  feedrate : Option Float := some defaultFeedrate
  spindleSpeed : Float := 0.0
  /-- `1` clockwise, `-1` counterclockwise, `0` off. -/
  spindleDirection : Int := 0
  coolant : Bool := false
  tool : Int := defaultTool
  workOffset : AddressMap := zeroOffset
  toolOffset : AddressMap := zeroOffset
  deriving DecidableEq, Repr, Inhabited

namespace Modal

/-- Axis words are absolute coordinates. -/
def isAbsolute (s : Modal) : Bool := s.positioning = 90

/-- The coordinate that an axis word asks for. -/
def target (s : Modal) (axis : Axis) (value : Float) : Except Fault Float :=
  if s.isAbsolute then .ok value
  else (s.position.get axis.name).map (· + value)

/-- Moves the given axes of `reached` to where their words ask for, one after the other. -/
def moveAxes (s : Modal) (params : AddressMap) : List Axis → AddressMap → Except Fault AddressMap
  | [], reached => .ok reached
  | axis :: rest, reached =>
    match params.get? axis.letter with
    | none => moveAxes s params rest reached
    | some value =>
      match s.target axis value with
      | .error fault => .error fault
      | .ok coordinate => moveAxes s params rest (reached.set axis.name coordinate)

/-- The position that the parameters ask for; axes without a word stay where they are. -/
def destination (s : Modal) (params : AddressMap) : Except Fault AddressMap :=
  s.moveAxes params Axis.all s.position

/-- Redefines the coordinates of the given axes at the current position, one after the other, and
stops at an axis without a position. -/
def rebaseAxes (params : AddressMap) : List Axis → Modal → Modal × Option Fault
  | [], s => (s, none)
  | axis :: rest, s =>
    match params.get? axis.letter with
    | none => rebaseAxes params rest s
    | some value =>
      match s.position.get axis.name with
      | .error fault => (s, some fault)
      | .ok coordinate =>
        rebaseAxes params rest
          { s with workOffset := s.workOffset.set axis.name (coordinate - value) }

/-- Redefines the current position as the given coordinates.  The machine does not move; only the
work offset changes. -/
def rebase (s : Modal) (params : AddressMap) : Modal × Option Fault :=
  rebaseAxes params Axis.linear s

/-- Position of one axis relative to the work offset. -/
def workCoordinate (s : Modal) (axis : Axis) : Except Fault (String × Float) := do
  let coordinate ← s.position.get axis.name
  let offset ← s.workOffset.get axis.name
  return (axis.name, coordinate - offset)

/-- The current position relative to the work offset. -/
def workPosition (s : Modal) : Except Fault AddressMap :=
  (Axis.linear.mapM s.workCoordinate).map AddressMap.mk

/-- Takes the rate of an `F` word. -/
def withFeedrate (s : Modal) (params : AddressMap) : Modal :=
  match params.get? "F" with
  | some rate => { s with feedrate := some rate }
  | none => s

/-- Takes the spindle speed of an `S` word. -/
def withSpindleSpeed (s : Modal) (params : AddressMap) : Modal :=
  match params.get? "S" with
  | some speed => { s with spindleSpeed := speed }
  | none => s

/-- The text of a mode: the `G` code that sets it. -/
def modeText (mode : Int) : String := s!"G{mode}"

end Modal

end Machining.Execution
