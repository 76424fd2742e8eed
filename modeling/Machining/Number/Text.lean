import Machining.Number.Decimal
set_option autoImplicit false

/-!
# Number text

How doubles are written in reports and messages.  Every form ends in the same two layouts, positional
and with an exponent; a `Layout` record says where the first gives way to the second and what follows
a whole number.  `Number.text` writes the fewest digits that read back, `Number.general` a number of
significant digits without trailing zeros, and `Number.fixed` a number of places.
-/

namespace Machining

/-- The choices that distinguish the number forms. -/
structure Layout where
  /-- From this power of ten of the first digit on, the exponent form is used. -/
  exponentFrom : Int
  /-- What is appended to a positional whole number. -/
  wholeTail : String
  deriving DecidableEq, Repr, Inhabited

namespace Layout

/-- Numbers that are read back: positional below `10 ^ 16`, whole numbers end in `.0`. -/
def exact : Layout := ⟨16, ".0"⟩

/-- Numbers in messages: positional while the digits before the point fit. -/
def general (count : Nat) : Layout := ⟨count, ""⟩

/-- Exponents have a sign and at least two digits. -/
def exponentText (power : Int) : String :=
  let digits := Nat.toDigits 10 power.natAbs
  let padded := if digits.length < 2 then '0' :: digits else digits
  (if power < 0 then "e-" else "e+") ++ String.ofList padded

/-- One digit, a point if more follow, and the exponent. -/
def withExponent (digits : List Char) (power : Int) : String :=
  let tail := digits.drop 1
  String.ofList (digits.take 1) ++ (if tail.isEmpty then "" else "." ++ String.ofList tail)
    ++ exponentText power

/-- All digits around the point, with zeros where the digits do not reach it. -/
def positional (layout : Layout) (digits : List Char) (power : Int) : String :=
  if power < 0 then
    "0." ++ String.ofList (List.replicate ((-power).toNat - 1) '0' ++ digits)
  else
    let whole := power.toNat + 1
    if digits.length ≤ whole then
      String.ofList (digits ++ List.replicate (whole - digits.length) '0') ++ layout.wholeTail
    else
      String.ofList (digits.take whole) ++ "." ++ String.ofList (digits.drop whole)

/-- A decimal in the layout: positional when its first digit stands at `10 ^ -4` or higher and below
the layout's limit. -/
def decimal (layout : Layout) (d : Decimal) : String :=
  if d.leadingPower < -4 ∨ layout.exponentFrom ≤ d.leadingPower then
    withExponent d.digits d.leadingPower
  else
    layout.positional d.digits d.leadingPower

end Layout

namespace Number

/-- The minus sign of negative numbers, negative zero included. -/
def sign (negative : Bool) : String := if negative then "-" else ""

/-- Text of a double whose finite magnitudes are written by `finite`. -/
def textWith (finite : Nat → Int → String) (x : Float) : String :=
  match Exact.ofFloat x with
  | .undefined => "nan"
  | .infinite negative => sign negative ++ "inf"
  | .finite negative mantissa exponent => sign negative ++ finite mantissa exponent

/-- The fewest digits that read back as the same double. -/
def text (x : Float) : String :=
  textWith (fun m e => Layout.exact.decimal (Decimal.shortest m e)) x

/-- At most `count` significant digits, trailing zeros removed. -/
def general (count : Nat) (x : Float) : String :=
  textWith (fun m e =>
    (Layout.general count).decimal ((Magnitude.ofDyadic m e).toSignificant count)) x

/-- Exactly `places` digits after the point, for a positive number of places. -/
def fixed (places : Nat) (x : Float) : String :=
  textWith (fun m e =>
    let digits := Nat.toDigits 10 ((Magnitude.ofDyadic m e).toPlaces places).significand
    let padded := List.replicate (places + 1 - digits.length) '0' ++ digits
    String.ofList (padded.take (padded.length - places)) ++ "."
      ++ String.ofList (padded.drop (padded.length - places))) x

end Number

end Machining
