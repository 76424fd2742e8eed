import Machining.Axis
import Machining.Datum
import Machining.Fault
import Machining.Number.Numeral
set_option autoImplicit false

/-!
# Working planes

An arc lies in one of three planes.  The axes of a plane are ordered so that a positive turn is
counterclockwise when one looks down its normal.
-/

namespace Machining.Geometry

/-- A working plane. -/
inductive Plane where
  | xy
  | zx
  | yz
  deriving DecidableEq, Repr, Inhabited

namespace Plane

/-- The plane of a mode number. -/
def ofNumber? : Int → Option Plane
  | 17 => some xy
  | 18 => some zx
  | 19 => some yz
  | _ => none

/-- First axis of the plane. -/
def first : Plane → Axis
  | xy => .x
  | zx => .z
  | yz => .y

/-- Second axis of the plane. -/
def second : Plane → Axis
  | xy => .y
  | zx => .x
  | yz => .z

/-- Axis at right angles to the plane. -/
def normal : Plane → Axis
  | xy => .z
  | zx => .y
  | yz => .x

/-- Word of the centre offset along the first axis. -/
def firstOffset : Plane → String
  | xy => "i"
  | zx => "k"
  | yz => "j"

/-- Word of the centre offset along the second axis. -/
def secondOffset : Plane → String
  | xy => "j"
  | zx => "i"
  | yz => "k"

/-- The plane of a mode number that has to be a plane. -/
def ofNumber (n : Int) : Except Fault Plane :=
  match ofNumber? n with
  | some plane => .ok plane
  | none => .error (.arc (.unknownPlane (toString n)))

/-- The integer that a loosely typed plane stands for: integer part of a number, integer text, truth
as `0` or `1`.  `none` if it stands for none; an infinite number is a fault of its own. -/
def numberOf (given : Datum) : Except Fault (Option Int) :=
  match given with
  | .integer n => .ok (some n)
  | .truth b => .ok (some (if b then 1 else 0))
  | .real x =>
    match integerPart x with
    | .ok n => .ok (some n)
    | .error .undefined => .ok none
    | .error .infinite => .error (.notFinite .infinite)
  | .text s => .ok (readInt s).toOption
  | _ => .ok none

/-- The plane of a loosely typed value. -/
def ofDatum (given : Datum) : Except Fault Plane := do
  let unknown : Fault := .arc (.unknownPlane given.toText)
  match ← numberOf given with
  | none => .error unknown
  | some n =>
    match ofNumber? n with
    | some plane => .ok plane
    | none => .error unknown

end Plane

end Machining.Geometry
