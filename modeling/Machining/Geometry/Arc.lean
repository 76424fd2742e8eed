import Machining.Geometry.Distance
import Machining.Geometry.Plane
import Machining.Number.Hypotenuse
import Machining.Toolpath.Segment
set_option autoImplicit false

/-!
# Arcs

Centre, sweep, length and sample points of an arc.  The centre is given by offsets from the start or,
if there is a radius, follows from it: a positive radius selects the shorter arc, a negative one the
longer.  The centre of an arc in an unknown plane is taken in the XY plane; sweep, length and points
refuse such a plane.
-/

namespace Machining.Geometry

open Machining.Number
open Machining.Toolpath

/-- The data of an arc. -/
structure Arc where
  start : AddressMap
  finish : AddressMap
  offsets : AddressMap
  radius : Option Float
  plane : Int
  clockwise : Bool
  line : Int
  deriving DecidableEq, Repr, Inhabited

/-- A point on the linear axes. -/
structure Point where
  x : Float
  y : Float
  z : Float
  deriving DecidableEq, Repr, Inhabited

namespace Point

/-- Coordinate of an axis; a point has none on the rotary axes. -/
def get (p : Point) : Axis → Float
  | .x => p.x
  | .y => p.y
  | .z => p.z
  | _ => 0.0

/-- Changes the coordinate of a linear axis. -/
def set (p : Point) (axis : Axis) (value : Float) : Point :=
  match axis with
  | .x => { p with x := value }
  | .y => { p with y := value }
  | .z => { p with z := value }
  | _ => p

end Point

/-- Relative tolerance between the radii at start and end. -/
def radiusTolerance : Float := 1e-3

/-- Lengths and angles below this count as zero. -/
def epsilon : Float := 1e-9

/-- Half a turn. -/
def pi : Float := 3.141592653589793

/-- A full turn. -/
def fullTurn : Float := 2.0 * pi

/-- Chords per full turn: a whole number of any size, or a double. -/
inductive SampleRate where
  | whole (n : Int)
  | exact (x : Float)
  deriving DecidableEq, Repr, Inhabited

/-- The rate as a double, at least four.  A whole number has to be within the range of doubles. -/
def SampleRate.toFloat : SampleRate → Except Fault Float
  | whole n => doubleOfInteger (max n 4)
  | exact x => .ok (keepUnlessGreater x 4.0)

namespace Arc

/-- The arc of a segment, if its path is one. -/
def ofSegment? (s : Segment) : Option Arc :=
  match s.shape with
  | .arc offsets radius plane =>
    some ⟨s.start, s.finish, offsets, radius, plane, s.isClockwise, s.line⟩
  | _ => none

/-- The coordinates of a position on the two axes of a plane. -/
def inPlane (m : AddressMap) (plane : Plane) : Except Fault (Float × Float) := do
  let u ← m.get plane.first.name
  let v ← m.get plane.second.name
  return (u, v)

/-- The side of the chord on which the centre lies, seen from start to end: left is positive.  A short
clockwise arc has it on the right, and so has a long counterclockwise one. -/
def side (clockwise : Bool) (radius : Float) : Float :=
  let short : Float := if clockwise then -1.0 else 1.0
  if radius < 0.0 then -short else short

/-- Centre of an arc by radius, in plane coordinates.  The square of half the chord is the nearest
double.  Where it is taken by a general power function it may be one unit off in the last place, which
shows in the height of an arc that is nearly half a circle. -/
def centreByRadius (clockwise : Bool) (radius : Float) (line : Int) (p q : Float × Float) :
    Except Fault (Float × Float) :=
  let du := q.1 - p.1
  let dv := q.2 - p.2
  let chord := (du * du + dv * dv).sqrt
  if chord < epsilon then .error (.arc (.coincidentEnds line))
  else if 2.0 * radius.abs * (1.0 + radiusTolerance) < chord then
    .error (.arc (.radiusTooSmall radius chord line))
  else
    let half := chord / 2.0
    let height := (keepUnlessGreater (radius * radius - half * half) 0.0).sqrt
    let offset := side clockwise radius * height
    .ok ((p.1 + q.1) / 2.0 + offset * (-dv / chord), (p.2 + q.2) / 2.0 + offset * (du / chord))

/-- Centre of the arc; along the normal axis it keeps the start. -/
def centre (arc : Arc) : Except Fault Point := do
  let plane := (Plane.ofNumber? arc.plane).getD .xy
  let base : Point :=
    ⟨coordinate arc.start .x, coordinate arc.start .y, coordinate arc.start .z⟩
  let p ← inPlane arc.start plane
  match arc.radius with
  | some radius =>
    let q ← inPlane arc.finish plane
    let c ← centreByRadius arc.clockwise radius arc.line p q
    return (base.set plane.first c.1).set plane.second c.2
  | none =>
    return (base.set plane.first (p.1 + arc.offsets.getD plane.firstOffset 0.0)).set plane.second
      (p.2 + arc.offsets.getD plane.secondOffset 0.0)

/-- The position relative to the centre, on the two axes of a plane. -/
def relative (m : AddressMap) (centre : Point) (plane : Plane) : Except Fault (Float × Float) := do
  let p ← inPlane m plane
  return (p.1 - centre.get plane.first, p.2 - centre.get plane.second)

/-- Start and end lie on one circle around the centre.  An arc without a centre is not valid. -/
def isValid (arc : Arc) : Except Fault Bool :=
  match arc.centre with
  | .error (.arc _) => .ok false
  | .error fault => .error fault
  | .ok centre => do
    let plane ← Plane.ofNumber arc.plane
    let p ← relative arc.start centre plane
    let q ← relative arc.finish centre plane
    let startRadius := hypotenuse p.1 p.2
    let endRadius := hypotenuse q.1 q.2
    if startRadius < epsilon then return false
    return (startRadius - endRadius).abs ≤ radiusTolerance * keepUnlessGreater startRadius 1.0

/-- Radius, start angle and signed sweep in the plane of an arc. -/
structure Sweep where
  radius : Float
  startAngle : Float
  /-- Negative for a clockwise arc. -/
  angle : Float
  deriving DecidableEq, Repr, Inhabited

/-- A difference of two angles, each within half a turn of zero, as an angle from zero up to a full
turn. -/
def wrapTurn (difference : Float) : Float :=
  if fullTurn ≤ difference.abs then 0.0
  else if difference < 0.0 then difference + fullTurn
  else difference

/-- The sweep around a centre.  An arc that ends where it starts is a full circle. -/
def sweep (arc : Arc) (centre : Point) : Except Fault Sweep := do
  let plane ← Plane.ofNumber arc.plane
  let p ← relative arc.start centre plane
  let q ← relative arc.finish centre plane
  let radius := hypotenuse p.1 p.2
  if radius < epsilon then .error (.arc (.centreAtStart arc.line))
  else
    let startAngle := Float.atan2 p.2 p.1
    let endAngle := Float.atan2 q.2 q.1
    let turned := wrapTurn (if arc.clockwise then startAngle - endAngle else endAngle - startAngle)
    let turned := if turned < epsilon then fullTurn else turned
    return ⟨radius, startAngle, if arc.clockwise then -turned else turned⟩

/-- Length of the arc, with the rise along the normal axis. -/
def length (arc : Arc) : Except Fault Float := do
  let centre ← arc.centre
  let sweep ← arc.sweep centre
  let plane ← Plane.ofNumber arc.plane
  let top ← arc.finish.get plane.normal.name
  let bottom ← arc.start.get plane.normal.name
  return hypotenuse (sweep.radius * sweep.angle) (top - bottom)

/-- The number of chords that an arc is sampled by, at least two. -/
def chordCount (angle : Float) (rate : SampleRate) : Except Fault Nat := do
  let perTurn ← rate.toFloat
  match ceiling (angle.abs / fullTurn * perTurn) with
  | .error reason => .error (.notFinite reason)
  | .ok n => return (max 2 n).toNat

/-- The sample at the fraction `t` of the way. -/
def sample (centre : Point) (sweep : Sweep) (plane : Plane) (bottom rise t : Float) : Point :=
  let angle := sweep.startAngle + sweep.angle * t
  ((({ x := 0.0, y := 0.0, z := 0.0 } : Point).set plane.first
        (centre.get plane.first + sweep.radius * angle.cos)).set plane.second
        (centre.get plane.second + sweep.radius * angle.sin)).set plane.normal (bottom + rise * t)

/-- Points along the arc for drawing.  The first is the start; the last is exactly the programmed
end. -/
def points (arc : Arc) (rate : SampleRate) : Except Fault (List Point) := do
  let centre ← arc.centre
  let sweep ← arc.sweep centre
  let plane ← Plane.ofNumber arc.plane
  let n ← chordCount sweep.angle rate
  let bottom ← arc.start.get plane.normal.name
  let top ← arc.finish.get plane.normal.name
  let step := 1.0 / Float.ofNat n
  let inner := (List.range n).map fun i =>
    sample centre sweep plane bottom (top - bottom) (Float.ofNat i * step)
  let x ← arc.finish.get "x"
  let y ← arc.finish.get "y"
  let z ← arc.finish.get "z"
  return inner ++ [⟨x, y, z⟩]

end Arc

end Machining.Geometry
