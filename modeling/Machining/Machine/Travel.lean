import Machining.Axis
import Machining.Fault
import Machining.Log
import Machining.Number.Bounds
set_option autoImplicit false

/-!
# Simulated travel

A machine without hardware.  It holds the position of every axis, brings every target within the travel
limits and answers with the coordinate it reached, and keeps count of its moves.
-/

namespace Machining.Machine

/-- The travel of one axis. -/
structure Range where
  low : Float
  high : Float
  deriving DecidableEq, Repr, Inhabited

/-- Travel without limits. -/
def Range.unlimited : Range := ⟨-(1.0 / 0.0), 1.0 / 0.0⟩

/-- The travel of every axis. -/
abbrev TravelLimits := PerAxis Range

/-- The limits listed by axis name; an axis that is not listed is unlimited. -/
def TravelLimits.ofList (listed : List (String × Range)) : TravelLimits :=
  PerAxis.ofFn fun axis => (listed.lookup axis.name).getD .unlimited

/-- The tool of a machine that has changed none. -/
def initialTool : Int := 1

/-- The state of a simulated machine. -/
structure Simulation where
  limits : TravelLimits
  position : PerAxis Float := .constant 0.0
  rpm : Float := 0.0
  /-- `1` clockwise, `-1` counterclockwise, `0` at rest. -/
  direction : Int := 0
  coolant : Bool := false
  tool : Int := initialTool
  rapidMoves : Nat := 0
  feedMoves : Nat := 0
  clampedMoves : Nat := 0
  deriving DecidableEq, Repr, Inhabited

namespace Simulation

/-- A record of the simulation. -/
def note (level : LogLevel) (message : String) : LogRecord := ⟨level, .travel, message⟩

/-- A switch as records show it. -/
def truthText (on : Bool) : String := if on then "True" else "False"

/-- Moves an axis that records call `shown`, and answers with the coordinate reached.  A target counts
as clamped when it differs from that coordinate, which "not a number" always does. -/
def moveShown (m : Simulation) (axis : Axis) (shown : String) (target : Float) (rapid : Bool) :
    Simulation × Float × Log :=
  let range := m.limits.get axis
  let value := Number.clip range.low range.high target
  let clamped := !(value == target)
  let moved : Simulation :=
    { m with
      position := m.position.set axis value
      rapidMoves := if rapid then m.rapidMoves + 1 else m.rapidMoves
      feedMoves := if rapid then m.feedMoves else m.feedMoves + 1
      clampedMoves := if clamped then m.clampedMoves + 1 else m.clampedMoves }
  let warning :=
    if clamped then
      [note .warning ("Axis " ++ shown ++ " target " ++ Number.general 6 target ++ " clamped to "
        ++ Number.general 6 value)]
    else []
  let trace := note .trace
    ("move " ++ shown ++ "=" ++ Number.fixed 3 value ++ " rapid=" ++ truthText rapid)
  (moved, value, warning ++ [trace])

/-- Moves an axis. -/
def move (m : Simulation) (axis : Axis) (target : Float) (rapid : Bool) :
    Simulation × Float × Log :=
  m.moveShown axis axis.name target rapid

/-- Moves the axis of a name in small or capital letters; nothing happens if there is none. -/
def moveNamed (m : Simulation) (name : String) (target : Float) (rapid : Bool) :
    Simulation × Except Fault Float × Log :=
  match Axis.ofAnyCase? name with
  | none => (m, .error (.unknownAxis name), [])
  | some axis =>
    let (moved, value, log) := m.moveShown axis name target rapid
    (moved, .ok value, log)

/-- Runs the spindle, clockwise unless the direction is below zero. -/
def setSpindle (m : Simulation) (rpm : Float) (direction : Int) : Simulation × Log :=
  let clockwise : Bool := 0 ≤ direction
  ({ m with rpm := rpm, direction := if clockwise then 1 else -1 },
    [note .debug ((if clockwise then "Spindle CW at " else "Spindle CCW at ")
      ++ Number.general 6 rpm ++ " RPM")])

/-- Stops the spindle. -/
def stopSpindle (m : Simulation) : Simulation × Log :=
  ({ m with rpm := 0.0, direction := 0 }, [note .debug "Spindle stopped"])

/-- Switches the coolant. -/
def setCoolant (m : Simulation) (on : Bool) : Simulation × Log :=
  ({ m with coolant := on }, [note .debug (if on then "Coolant on" else "Coolant off")])

/-- Changes the tool to one that records call `shown`. -/
def changeToolShown (m : Simulation) (tool : Int) (shown : String) : Simulation × Log :=
  ({ m with tool := tool }, [note .debug ("Tool T" ++ shown ++ " loaded")])

/-- Changes the tool. -/
def changeTool (m : Simulation) (tool : Int) : Simulation × Log :=
  m.changeToolShown tool (toString tool)

/-- Changes the tool to the integer part of a number, which it has to have. -/
def changeToolByNumber (m : Simulation) (number : Float) : Simulation × Except Fault Unit × Log :=
  match integerPartOrFault number with
  | .error fault => (m, .error fault, [])
  | .ok tool =>
    let (changed, log) := m.changeToolShown tool (Number.text number)
    (changed, .ok (), log)

end Simulation

end Machining.Machine
