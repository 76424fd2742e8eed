import Machining.Number.Exact
set_option autoImplicit false

/-!
# Decimal rounding of exact magnitudes

A magnitude becomes a decimal in one of three ways: to a number of significant digits, to a number of
places after the point, or to the fewest digits that still read back as the same double.  All three
are computed exactly in `Nat`; a half goes to the even neighbour.
-/

namespace Machining

/-- The decimal `significand · 10 ^ exponent`. -/
structure Decimal where
  significand : Nat
  exponent : Int
  deriving DecidableEq, Repr, Inhabited

/-- A quotient rounded to the nearest whole number, a half to the even neighbour. -/
def divNearest (n d : Nat) : Nat :=
  let q := n / d
  if 2 * (n % d) < d then q
  else if d < 2 * (n % d) then q + 1
  else q + q % 2

/-- A quotient that is whole is not changed by rounding. -/
theorem divNearest_mul_left (n d : Nat) (h : 0 < d) : divNearest (n * d) d = n := by
  simp [divNearest, h]

namespace Magnitude

/-- The nearest whole number, a half to the even neighbour. -/
def nearest (q : Magnitude) : Nat := divNearest q.numerator q.denominator

/-- The power of ten of the leading decimal digit of a positive magnitude. -/
def leadingPower (q : Magnitude) : Int :=
  let guess : Int := (Nat.toDigits 10 q.numerator).length - (Nat.toDigits 10 q.denominator).length
  if (scale ⟨1, 1⟩ guess).le q then guess else guess - 1

/-- The magnitude rounded to `count` significant digits. -/
def toSignificant (count : Nat) (q : Magnitude) : Decimal :=
  if q.numerator = 0 then ⟨0, 0⟩
  else
    let last := q.leadingPower - (count - 1)
    ⟨(q.scale (-last)).nearest, last⟩

/-- The magnitude rounded to `places` digits after the point. -/
def toPlaces (places : Nat) (q : Magnitude) : Decimal :=
  ⟨(q.scale places).nearest, -places⟩

end Magnitude

/-! ## Fewest digits that read back -/

/-- The magnitudes that round to one double: those between `low` and `high`, with the end points
when the mantissa is even. -/
structure RoundingInterval where
  low : Magnitude
  high : Magnitude
  closed : Bool
  deriving DecidableEq, Repr, Inhabited

namespace RoundingInterval

/-- The rounding interval of `mantissa · 2 ^ exponent`.  Half a unit on either side; below a power of
two the neighbour is half as far away, unless that power is the least normal one. -/
def ofDyadic (mantissa : Nat) (exponent : Int) : RoundingInterval :=
  let down := if mantissa = Nat.pow 2 52 ∧ -1074 < exponent then 1 else 2
  { low := Magnitude.ofDyadic (4 * mantissa - down) (exponent - 2)
    high := Magnitude.ofDyadic (4 * mantissa + 2) (exponent - 2)
    closed := mantissa % 2 = 0 }

/-- Membership of a magnitude. -/
def contains (i : RoundingInterval) (q : Magnitude) : Bool :=
  if i.closed then i.low.le q && q.le i.high else i.low.lt q && q.lt i.high

end RoundingInterval

namespace Decimal

/-- The decimal as a magnitude. -/
def magnitude (d : Decimal) : Magnitude := Magnitude.scale ⟨d.significand, 1⟩ d.exponent

/-- Among the decimals on the grid `10 ^ power`, the one nearest to `q` that lies in the interval.
Only the two grid points around `q` can lie there if any does. -/
def onGrid? (q : Magnitude) (i : RoundingInterval) (power : Int) : Option Decimal :=
  let scaled := q.scale (-power)
  let below : Decimal := ⟨scaled.floor, power⟩
  let above : Decimal := ⟨scaled.floor + 1, power⟩
  match i.contains below.magnitude, i.contains above.magnitude with
  | true, true => some ⟨scaled.nearest, power⟩
  | true, false => some below
  | false, true => some above
  | false, false => none

/-- The decimal with the fewest digits, at most seventeen, that reads back as the double
`mantissa · 2 ^ exponent`, and of those the nearest to it. -/
def shortest (mantissa : Nat) (exponent : Int) : Decimal :=
  if mantissa = 0 then ⟨0, 0⟩
  else
    let q := Magnitude.ofDyadic mantissa exponent
    let i := RoundingInterval.ofDyadic mantissa exponent
    let lead := q.leadingPower
    match (List.range 17).findSome? (fun (k : Nat) => onGrid? q i (lead - k)) with
    | some d => d
    | none => q.toSignificant 17

/-- The significant digits, without trailing zeros; zero has the digit `0`. -/
def digits (d : Decimal) : List Char :=
  let all := Nat.toDigits 10 d.significand
  let kept := (all.reverse.dropWhile (· == '0')).reverse
  if kept.isEmpty then ['0'] else kept

/-- The power of ten of the first digit; zero counts as a one-digit whole number. -/
def leadingPower (d : Decimal) : Int :=
  if d.significand = 0 then 0
  else d.exponent + (Nat.toDigits 10 d.significand).length - 1

end Decimal

end Machining
