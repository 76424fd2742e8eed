import Machining.Number.Numeral
set_option autoImplicit false

/-!
# Words

A word is a capital letter immediately followed by a numeral.  A line is read from left to right: a
letter with a numeral behind it is a word, and reading goes on after the numeral; any other character
is passed over.
-/

namespace Machining.Program

/-- A letter with its numeral. -/
structure Word where
  letter : Char
  numeral : Numeral
  deriving DecidableEq, Repr, Inhabited

namespace Word

/-- The word as written. -/
def text (w : Word) : String := String.ofList (w.letter :: w.numeral.text)

/-- The number of the word. -/
def value (w : Word) : Float := w.numeral.value

end Word

/-- The words of a line, from left to right. -/
def words : List Char → List Word
  | [] => []
  | c :: rest =>
    if c.isUpper then
      match h : Numeral.scan rest with
      | some (numeral, tail) =>
        have : tail.length ≤ rest.length := Numeral.length_le_of_scan h
        ⟨c, numeral⟩ :: words tail
      | none => words rest
    else words rest
termination_by cs => cs.length

end Machining.Program
