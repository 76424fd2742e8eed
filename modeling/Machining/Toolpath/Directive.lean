set_option autoImplicit false

/-!
# Directives

What a program asks of the machine apart from moves.  A directive is anchored to the segment before
which it takes effect; a directive after the last segment is anchored to the length of the toolpath.
-/

namespace Machining.Toolpath

/-- What is to be done. -/
inductive Effect where
  /-- Run the spindle; the direction is `1` clockwise and `-1` counterclockwise. -/
  | spindleOn (speed : Float) (direction : Int)
  | spindleOff
  | coolant (on : Bool)
  | toolChange (tool : Int)
  | programEnd
  deriving DecidableEq, Repr, Inhabited

namespace Effect

/-- The name under which an effect is reported. -/
def name : Effect → String
  | spindleOn _ _ => "spindle_on"
  | spindleOff => "spindle_off"
  | coolant _ => "coolant"
  | toolChange _ => "tool_change"
  | programEnd => "program_end"

end Effect

/-- An effect with its place in the toolpath and its program line. -/
structure Directive where
  effect : Effect
  /-- The segment before which the directive takes effect. -/
  before : Int
  line : Int := 0
  deriving DecidableEq, Repr, Inhabited

/-- The directive with its anchor moved by a number of segments. -/
def Directive.shift (n : Nat) (a : Directive) : Directive := { a with before := a.before + n }

end Machining.Toolpath
