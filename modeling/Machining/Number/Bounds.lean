set_option autoImplicit false

/-!
# Limits on doubles

Comparisons that involve "not a number" are false, so every rule that picks one of two numbers has to
say which one it keeps then.  The rules of this module differ in exactly that.
-/

namespace Machining.Number

/-- The first number unless the second is greater; "not a number" as the first is kept. -/
def keepUnlessGreater (x y : Float) : Float := if x < y then y else x

/-- The first number unless the second is less; "not a number" as the first is kept. -/
def keepUnlessLess (x y : Float) : Float := if y < x then y else x

/-- The number brought between two limits.  A number equal to a limit stays as it is, so zero keeps its
sign.  Where the limits cross, the high one wins.  The result is "not a number" if any of the three
is. -/
def clip (low high x : Float) : Float :=
  if low.isNaN then low else if high.isNaN then high
  else keepUnlessLess (keepUnlessGreater x low) high

/-- A number that neither limit excludes is not changed. -/
theorem clip_eq_self {low high x : Float} (hlow : low.isNaN = false) (hhigh : high.isNaN = false)
    (hx : ¬ x < low) (hx' : ¬ high < x) : clip low high x = x := by
  simp only [clip, keepUnlessGreater, keepUnlessLess, hlow, hhigh, hx, hx', Bool.false_eq_true,
    if_false]

/-- The lesser of two numbers; "not a number" if either is. -/
def lesser (x y : Float) : Float := if x.isNaN then x else if y.isNaN then y else keepUnlessLess x y

/-- The greater of two numbers; "not a number" if either is. -/
def greater (x y : Float) : Float :=
  if x.isNaN then x else if y.isNaN then y else keepUnlessGreater x y

end Machining.Number
