import Machining.Axis
set_option autoImplicit false

/-!
# Machine calls

What playback asks of a machine, as data.  A machine answers a move with the coordinate that it
reached; the other calls have no answer.
-/

namespace Machining.Machine

/-- One request to a machine. -/
inductive Call where
  | moveAxis (axis : Axis) (target : Float) (rapid : Bool)
  /-- Run the spindle; a direction below zero is counterclockwise. -/
  | setSpindle (rpm : Float) (direction : Int)
  | stopSpindle
  | setCoolant (on : Bool)
  | changeTool (tool : Int)
  deriving DecidableEq, Repr, Inhabited

end Machining.Machine
