set_option autoImplicit false

/-!
# White space

The characters that are trimmed from the ends of a line: every character with the Unicode property
White_Space, and the four information separators U+001C to U+001F.
-/

namespace Machining.Text

/-- First and last code point of each run of white space. -/
def blankRanges : List (Nat × Nat) := [
  (0x0009, 0x000D), (0x001C, 0x0020), (0x0085, 0x0085), (0x00A0, 0x00A0), (0x1680, 0x1680),
  (0x2000, 0x200A), (0x2028, 0x2029), (0x202F, 0x202F), (0x205F, 0x205F), (0x3000, 0x3000)]

/-- White space. -/
def isBlank (c : Char) : Bool :=
  blankRanges.any fun r => r.1 ≤ c.toNat && c.toNat ≤ r.2

/-- A text without the white space at its ends. -/
def trim (cs : List Char) : List Char :=
  ((cs.dropWhile isBlank).reverse.dropWhile isBlank).reverse

end Machining.Text
