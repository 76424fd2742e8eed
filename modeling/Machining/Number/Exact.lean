set_option autoImplicit false

/-!
# Exact value of a double

Every quantity of a machining program is a double.  The rules for integer parts, for "is this code a
whole number" and for decimal text are stated on the exact value `± mantissa · 2 ^ exponent` of a
double, never on a rounded image of it.  This module fixes that view, and with it the magnitudes
`numerator / denominator` on which all decimal text is computed in `Nat`.
-/

namespace Machining

/-! ## Magnitudes -/

/-- A non-negative fraction. -/
structure Magnitude where
  numerator : Nat
  denominator : Nat
  deriving DecidableEq, Repr, Inhabited

namespace Magnitude

/-- The fraction `mantissa · 2 ^ exponent`. -/
def ofDyadic (mantissa : Nat) (exponent : Int) : Magnitude :=
  ⟨mantissa * Nat.pow 2 exponent.toNat, Nat.pow 2 (-exponent).toNat⟩

/-- The fraction times `10 ^ power`. -/
def scale (q : Magnitude) (power : Int) : Magnitude :=
  ⟨q.numerator * Nat.pow 10 power.toNat, q.denominator * Nat.pow 10 (-power).toNat⟩

/-- Order of fractions by cross multiplication. -/
def le (p q : Magnitude) : Bool := p.numerator * q.denominator ≤ q.numerator * p.denominator

/-- Strict order of fractions by cross multiplication. -/
def lt (p q : Magnitude) : Bool := p.numerator * q.denominator < q.numerator * p.denominator

/-- Integer part of the fraction. -/
def floor (q : Magnitude) : Nat := q.numerator / q.denominator

/-- The fraction is a whole number. -/
def isWhole (q : Magnitude) : Bool := q.numerator % q.denominator = 0

end Magnitude

/-! ## The view of a double -/

/-- What a double stands for: no number, an infinity, or an exact dyadic number.  Zero has mantissa
`0` and keeps its sign. -/
inductive Exact where
  | undefined
  | infinite (negative : Bool)
  | finite (negative : Bool) (mantissa : Nat) (exponent : Int)
  deriving DecidableEq, Repr, Inhabited

namespace Exact

/-- Whether a sign is the minus sign. -/
def isNegative : Float.Model.UnpackedFloat.Sign → Bool
  | .negative => true
  | .positive => false

/-- The exact value of a double. -/
def ofFloat (x : Float) : Exact :=
  match x.toModel.unpack with
  | .notANumber => .undefined
  | .infinity s => .infinite (isNegative s)
  | .zero s => .finite (isNegative s) 0 0
  | .finite s mantissa exponent _ => .finite (isNegative s) mantissa exponent

end Exact

/-! ## Integers inside doubles -/

/-- A natural number with a sign. -/
def signedInt (negative : Bool) (n : Nat) : Int := if negative then -(n : Int) else n

/-- Why a double has no integer part. -/
inductive NotFinite where
  | undefined
  | infinite
  deriving DecidableEq, Repr, Inhabited

/-- The integer that a double equals, if there is one. -/
def wholeNumber? (x : Float) : Option Int :=
  match Exact.ofFloat x with
  | .finite negative mantissa exponent =>
    let q := Magnitude.ofDyadic mantissa exponent
    if q.isWhole then some (signedInt negative q.floor) else none
  | _ => none

/-- The integer part of a double, toward zero. -/
def integerPart (x : Float) : Except NotFinite Int :=
  match Exact.ofFloat x with
  | .undefined => .error .undefined
  | .infinite _ => .error .infinite
  | .finite negative mantissa exponent =>
    .ok (signedInt negative (Magnitude.ofDyadic mantissa exponent).floor)

/-- The least integer that is not below a double. -/
def ceiling (x : Float) : Except NotFinite Int :=
  match Exact.ofFloat x with
  | .undefined => .error .undefined
  | .infinite _ => .error .infinite
  | .finite negative mantissa exponent =>
    let q := Magnitude.ofDyadic mantissa exponent
    if q.isWhole || negative then .ok (signedInt negative q.floor)
    else .ok (q.floor + 1)

end Machining
