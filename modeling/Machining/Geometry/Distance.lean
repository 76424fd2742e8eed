import Machining.AddressMap
import Machining.Axis
set_option autoImplicit false

/-!
# Distance and rate

Straight distances over the linear axes, and the time a distance takes at a rate.
-/

namespace Machining.Geometry

/-- Coordinate of an axis, zero if the map lacks it. -/
def coordinate (m : AddressMap) (axis : Axis) : Float := m.getD axis.name 0.0

/-- Straight distance over the linear axes: the root of the sum of squares, without scaling. -/
def distance (start finish : AddressMap) : Float :=
  let square (axis : Axis) : Float :=
    let d := coordinate finish axis - coordinate start axis
    d * d
  (square .x + square .y + square .z).sqrt

/-- Seconds that a distance takes at a rate in units per minute.  A missing rate and one that is not
positive take no time; a rate so small that its sixtieth is zero is a division by zero. -/
def travelTime (distance : Float) (rate : Option Float) : Except Fault Float :=
  match rate with
  | none => .ok 0.0
  | some rate =>
    if rate ≤ 0.0 then .ok 0.0
    else if rate / 60.0 == 0.0 then .error .divisionByZero
    else .ok (distance / (rate / 60.0))

end Machining.Geometry
