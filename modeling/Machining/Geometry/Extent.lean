import Machining.Geometry.Arc
set_option autoImplicit false

/-!
# Extent of a toolpath

The smallest box along the linear axes that holds the ends of all segments and, of a drilling cycle,
the hole at both heights.
-/

namespace Machining.Geometry

open Machining.Number
open Machining.Toolpath

/-- A box along the linear axes. -/
structure Extent where
  low : Point
  high : Point
  deriving DecidableEq, Repr, Inhabited

/-- Coordinates of a position on the linear axes, all of which it has to have. -/
def pointOf (m : AddressMap) : Except Fault Point := do
  let x ← m.get "x"
  let y ← m.get "y"
  let z ← m.get "z"
  return ⟨x, y, z⟩

/-- The point of a hole at a height. -/
def holePoint (hole : AddressMap) (height : Float) : Except Fault Point := do
  let x ← hole.get "x"
  let y ← hole.get "y"
  return ⟨x, y, height⟩

/-- The two points of a segment that its box has to hold. -/
def extremePoints (s : Segment) : Except Fault (List Point) :=
  match s.shape with
  | .drill _ hole depth retract => do
    let bottom ← holePoint hole depth
    let top ← holePoint hole retract
    return [bottom, top]
  | _ => do
    let start ← pointOf s.start
    let finish ← pointOf s.finish
    return [start, finish]

namespace Extent

/-- The box of one point. -/
def ofPoint (p : Point) : Extent := ⟨p, p⟩

/-- The smallest box around a box and a point. -/
def add (e : Extent) (p : Point) : Extent :=
  ⟨⟨lesser e.low.x p.x, lesser e.low.y p.y, lesser e.low.z p.z⟩,
    ⟨greater e.high.x p.x, greater e.high.y p.y, greater e.high.z p.z⟩⟩

/-- The box of some points; without points it is the origin. -/
def ofPoints : List Point → Extent
  | [] => ofPoint ⟨0.0, 0.0, 0.0⟩
  | p :: rest => rest.foldl add (ofPoint p)

/-- The box of a toolpath. -/
def ofToolpath (toolpath : List Segment) : Except Fault Extent :=
  (toolpath.mapM extremePoints).map fun points => ofPoints points.flatten

end Extent

end Machining.Geometry
