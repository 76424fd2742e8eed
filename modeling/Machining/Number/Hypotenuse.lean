import Machining.Number.Bounds
import Machining.Number.Exact
set_option autoImplicit false

/-!
# Hypotenuse

The root of the sum of two squares, right but for rare cases to the last bit.  The sides are scaled so
that no square leaves the range of doubles.  What rounding takes from each square and each sum is
carried along, and the root is corrected once by what it misses.
-/

namespace Machining.Number

/-! ## Numbers in two doubles -/

/-- A number as a double and what rounding took from it. -/
structure Split where
  head : Float
  rest : Float
  deriving DecidableEq, Repr, Inhabited

namespace Split

/-- A double as two doubles of half the digits, whose products are exact. -/
def halves (x : Float) : Split :=
  let shifted := x * 134217729.0
  let head := shifted - (shifted - x)
  ⟨head, x - head⟩

/-- A product with what rounding takes from it. -/
def ofProduct (x y : Float) : Split :=
  let p := halves x
  let q := halves y
  let leading := p.head * q.head
  let cross := p.head * q.rest + p.rest * q.head
  let head := leading + cross
  ⟨head, leading - head + cross + p.rest * q.rest⟩

/-- A sum with what rounding takes from it; the first number must not be the lesser in magnitude. -/
def ofSum (x y : Float) : Split :=
  let head := x + y
  ⟨head, x - head + y⟩

end Split

/-- A running sum of squares, each at most one.  The total begins at one, so that it is never less than
the square that is added; what rounding takes from squares and from sums is summed apart. -/
structure SquareSum where
  total : Float := 1.0
  squareRests : Float := 0.0
  sumRests : Float := 0.0
  deriving DecidableEq, Repr, Inhabited

namespace SquareSum

/-- Adds a square. -/
def add (s : SquareSum) (square : Split) : SquareSum :=
  let sum := Split.ofSum s.total square.head
  ⟨sum.head, s.squareRests + square.rest, s.sumRests + sum.rest⟩

/-- The sum of the squares added. -/
def value (s : SquareSum) : Float := s.total - 1.0 + (s.squareRests + s.sumRests)

end SquareSum

/-! ## Scaling -/

/-- The exponent of the least power of two above a finite double other than zero. -/
def binaryExponent (x : Float) : Int :=
  match Exact.ofFloat x with
  | .finite _ mantissa exponent => exponent + mantissa.log2 + 1
  | _ => 0

/-- Two to a power from `-1074` to `1023`. -/
def powerOfTwo (power : Int) : Float :=
  if power < -1022 then Float.ofBits (UInt64.ofNat (Nat.pow 2 (power + 1074).toNat))
  else Float.ofBits (UInt64.ofNat ((power + 1023).toNat * Nat.pow 2 52))

/-- The hypotenuse over sides below one, the longer of which is at least a half. -/
def scaledHypotenuse (x y : Float) : Float :=
  let squares := (({} : SquareSum).add (.ofProduct x x)).add (.ofProduct y y)
  let root := squares.value.sqrt
  let missed := squares.add (.ofProduct (-root) root)
  root + missed.value / (2.0 * root)

/-- Length of the hypotenuse.  An infinite side makes the result infinite even if the other side is
"not a number". -/
def hypotenuse (x y : Float) : Float :=
  if x.isInf || y.isInf then 1.0 / 0.0
  else if x.isNaN || y.isNaN then 0.0 / 0.0
  else
    let longer := keepUnlessGreater x.abs y.abs
    let exponent := binaryExponent longer
    if longer == 0.0 then 0.0
    else if exponent < -1023 then
      -- No double is as large as the scale would be, so the sides are taken as parts of the longer.
      let square (side : Float) : Split := ⟨side / longer * (side / longer), 0.0⟩
      longer * ((({} : SquareSum).add (square x)).add (square y)).value.sqrt
    else
      let scale := powerOfTwo (-exponent)
      scaledHypotenuse (x * scale) (y * scale) / scale

end Machining.Number
