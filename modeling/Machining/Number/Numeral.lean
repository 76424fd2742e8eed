import Machining.Number.Exact
import Machining.Text.Blank
import Machining.Text.Digit
set_option autoImplicit false

/-!
# Numerals

Two grammars of numbers.  The numeral of a program word is `[sign] digits [. digits]` or
`[sign] . digits`, taken as far as it goes; `Numeral.scan` splits it off the front of a text.  A
setting is a whole text: it may have blanks around it, underscores between digits and, unless an
integer is asked for, a fraction, an exponent or the name of an infinity or of "not a number".
Digits are all Unicode decimal digits.
-/

namespace Machining

open Machining.Text

/-- The double nearest to `± significand · 10 ^ exponent`; too large a value is an infinity. -/
def decimalFloat (negative : Bool) (significand : Nat) (exponent : Int) : Float :=
  let x := Float.ofScientific significand (exponent < 0) exponent.natAbs
  if negative then -x else x

/-- Splits a sign off the front: whether it is a minus, the sign as written, and the rest. -/
def splitSign : List Char → Bool × List Char × List Char
  | '-' :: rest => (true, ['-'], rest)
  | '+' :: rest => (false, ['+'], rest)
  | rest => (false, [], rest)

/-! ## Numerals of program words -/

/-- A numeral as written: sign, digits before the point, and digits after it if there is a point. -/
structure Numeral where
  sign : List Char
  whole : List Char
  fraction : Option (List Char)
  deriving DecidableEq, Repr, Inhabited

namespace Numeral

/-- The characters of the numeral. -/
def text (n : Numeral) : List Char :=
  n.sign ++ n.whole ++ (match n.fraction with | some digits => '.' :: digits | none => [])

/-- The number written. -/
def value (n : Numeral) : Float :=
  let fraction := n.fraction.getD []
  decimalFloat (n.sign = ['-']) (digitsValue (n.whole ++ fraction)) (-(fraction.length : Int))

/-- The numeral at the front of a text and what follows it.  A point counts only if a digit follows
it, and there must be a digit at all. -/
def scan (cs : List Char) : Option (Numeral × List Char) :=
  let (_, sign, body) := splitSign cs
  let whole := body.takeWhile isDigit
  let afterWhole := body.dropWhile isDigit
  let plain := if whole.isEmpty then none else some (⟨sign, whole, none⟩, afterWhole)
  match afterWhole with
  | '.' :: rest =>
    let fraction := rest.takeWhile isDigit
    if fraction.isEmpty then plain
    else some (⟨sign, whole, some fraction⟩, rest.dropWhile isDigit)
  | _ => plain

end Numeral

/-- Sign and rest make up the text again. -/
theorem splitSign_append (cs : List Char) : (splitSign cs).2.1 ++ (splitSign cs).2.2 = cs := by
  unfold splitSign
  split <;> simp

/-- A scanned numeral and what follows it make up the text again. -/
theorem Numeral.text_append_of_scan {cs rest : List Char} {n : Numeral}
    (h : Numeral.scan cs = some (n, rest)) : n.text ++ rest = cs := by
  have hs := splitSign_append cs
  have hw := List.takeWhile_append_dropWhile (p := isDigit) (l := (splitSign cs).2.2)
  simp only [Numeral.scan] at h
  split at h
  · rename_i tail heq
    split at h
    · split at h
      · cases h
      · cases h
        simp [Numeral.text, List.append_assoc, hw, hs]
    · cases h
      rw [heq] at hw
      have hf := List.takeWhile_append_dropWhile (p := isDigit) (l := tail)
      simp only [Numeral.text, List.append_assoc, List.cons_append]
      rw [hf, hw, hs]
  · split at h
    · cases h
    · cases h
      simp [Numeral.text, List.append_assoc, hw, hs]

/-- What follows a scanned numeral is no longer than the text. -/
theorem Numeral.length_le_of_scan {cs rest : List Char} {n : Numeral}
    (h : Numeral.scan cs = some (n, rest)) : rest.length ≤ cs.length := by
  rw [← Numeral.text_append_of_scan h, List.length_append]
  omega

/-! ## Numbers of settings -/

/-- Blank around the number of a setting: white space apart from the information separators. -/
def isNumberBlank (c : Char) : Bool := isBlank c && !(0x1C ≤ c.toNat && c.toNat ≤ 0x1F)

/-- The setting's text without blanks around it and with ASCII digits. -/
def settingBody (s : String) : List Char :=
  let cs := ((s.toList.dropWhile isNumberBlank).reverse.dropWhile isNumberBlank).reverse
  cs.map fun c => match digitValue? c with | some v => Nat.digitChar v | none => c

/-- Removes underscores that stand between two digits; `none` if one stands elsewhere.  The first
argument says whether a digit came just before. -/
def dropUnderscores : Bool → List Char → Option (List Char)
  | _, [] => some []
  | afterDigit, '_' :: c :: rest =>
    if afterDigit && c.isDigit then (dropUnderscores true rest).map (c :: ·) else none
  | _, '_' :: [] => none
  | _, c :: rest => (dropUnderscores c.isDigit rest).map (c :: ·)

/-- Power of ten after the letter `e`: an optional sign and at least one digit, nothing else. -/
def exponentPart (cs : List Char) : Option Int :=
  let (negative, _, digits) := splitSign cs
  if digits.isEmpty || !digits.all Char.isDigit then none
  else some (signedInt negative (digitsValue digits))

/-- Digits with an optional point and an optional exponent; there must be a digit. -/
def decimalPart (negative : Bool) (cs : List Char) : Option Float :=
  let whole := cs.takeWhile Char.isDigit
  let rest := cs.dropWhile Char.isDigit
  let (fraction, rest) := match rest with
    | '.' :: tail => (tail.takeWhile Char.isDigit, tail.dropWhile Char.isDigit)
    | _ => ([], rest)
  if whole.isEmpty && fraction.isEmpty then none
  else
    let value (power : Int) :=
      decimalFloat negative (digitsValue (whole ++ fraction)) (power - fraction.length)
    match rest with
    | [] => some (value 0)
    | e :: tail => if e = 'e' ∨ e = 'E' then (exponentPart tail).map value else none

/-- The number of a setting, if its text is one. -/
def readFloat? (s : String) : Option Float := do
  let cs ← dropUnderscores false (settingBody s)
  let (negative, _, body) := splitSign cs
  let infinity : Float := 1.0 / 0.0
  match String.ofList (body.map Char.toLower) with
  | "inf" | "infinity" => some (if negative then -infinity else infinity)
  | "nan" => some (0.0 / 0.0)
  | _ => decimalPart negative body

/-- Why a text is no integer setting. -/
inductive IntegerError where
  | malformed
  | tooManyDigits (count : Nat)
  deriving DecidableEq, Repr, Inhabited

/-- Digits of an integer setting, underscores between them dropped, and what follows; `none` if there
is no digit or an underscore is misplaced. -/
def integerDigits (cs : List Char) : Option (List Char × List Char) :=
  let isBody (c : Char) : Bool := c.isDigit || c == '_'
  match dropUnderscores false (cs.takeWhile isBody) with
  | none => none
  | some digits => if digits.isEmpty then none else some (digits, cs.dropWhile isBody)

/-- The integer of a setting: a sign and at most 4300 digits. -/
def readInt (s : String) : Except IntegerError Int :=
  let (negative, _, body) := splitSign (settingBody s)
  match integerDigits body with
  | none => .error .malformed
  | some (digits, rest) =>
    if 4300 < digits.length then .error (.tooManyDigits digits.length)
    else if !rest.isEmpty then .error .malformed
    else .ok (signedInt negative (digitsValue digits))

end Machining
