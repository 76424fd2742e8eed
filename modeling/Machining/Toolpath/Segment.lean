import Machining.AddressMap
set_option autoImplicit false

/-!
# Segments

The toolpath of a program is a list of segments: straight moves, arcs and drilling cycles.  A segment
records where the tool starts and ends, the rate, the spindle speed and the tool in use, and the
program line it comes from.
-/

namespace Machining.Toolpath

/-- The kind of a segment as it is reported. -/
inductive SegmentKind where
  | rapid
  | linear
  | clockwiseArc
  | counterclockwiseArc
  | drill
  deriving DecidableEq, Repr, Inhabited

namespace SegmentKind

/-- All kinds. -/
def all : List SegmentKind := [rapid, linear, clockwiseArc, counterclockwiseArc, drill]

/-- The name of a kind. -/
def name : SegmentKind → String
  | rapid => "rapid"
  | linear => "linear"
  | clockwiseArc => "arc_cw"
  | counterclockwiseArc => "arc_ccw"
  | drill => "drill"

/-- The kind of that name. -/
def ofName? (name : String) : Option SegmentKind := all.find? fun kind => kind.name = name

@[simp] theorem ofName?_name (kind : SegmentKind) : ofName? kind.name = some kind := by
  cases kind <;> decide

end SegmentKind

/-- The path between start and end. -/
inductive Shape where
  | straight
  /-- An arc in a plane: its centre by offsets `i`, `j`, `k` from the start, or its radius, which
  takes precedence. -/
  | arc (offsets : AddressMap) (radius : Option Float) (plane : Int)
  /-- A drilling cycle: over the hole, down to the depth and up to the retract height. -/
  | drill (cycle : Int) (hole : AddressMap) (depth retract : Float)
  deriving DecidableEq, Repr, Inhabited

/-- One element of a toolpath. -/
structure Segment where
  kind : SegmentKind
  start : AddressMap
  finish : AddressMap
  shape : Shape
  /-- Units per minute; rapid moves have no rate of their own. -/
  feedrate : Option Float
  spindleSpeed : Float := 0.0
  tool : Int := 1
  line : Int := 0
  deriving DecidableEq, Repr, Inhabited

namespace Segment

/-- The moves of the segment are rapid: a straight path of the rapid kind. -/
def isRapid (s : Segment) : Bool :=
  match s.shape with
  | .straight => s.kind = .rapid
  | _ => false

/-- The arc runs clockwise. -/
def isClockwise (s : Segment) : Bool := s.kind = .clockwiseArc

end Segment

end Machining.Toolpath
