import Machining.Text.Blank
import Machining.Text.Case
set_option autoImplicit false

/-!
# Program lines

A program is split into lines at the line feed.  What counts of a line is what remains after its
comments are removed: comments in parentheses first, then the remark after a semicolon.  The rest is
trimmed and put into capitals.
-/

namespace Machining.Program

open Machining.Text

/-- The lines of a text; a text with `n` line feeds has `n + 1` lines. -/
def splitLines : List Char → List (List Char)
  | [] => [[]]
  | c :: rest =>
    if c = '\n' then [] :: splitLines rest
    else
      match splitLines rest with
      | line :: lines => (c :: line) :: lines
      | [] => [[c]]

theorem splitLines_ne_nil (cs : List Char) : splitLines cs ≠ [] := by
  cases cs with
  | nil => simp [splitLines]
  | cons c rest =>
    unfold splitLines
    split
    · simp
    · split <;> simp

/-- Removes every comment in parentheses.  A comment ends at the first closing parenthesis, does not
reach over a line feed, and stays if it is not closed.  The first argument holds the characters of the
comment that is open, last character first. -/
def dropParentheses : Option (List Char) → List Char → List Char
  | none, [] => []
  | some held, [] => held.reverse
  | none, c :: rest =>
    if c = '(' then dropParentheses (some [c]) rest else c :: dropParentheses none rest
  | some held, c :: rest =>
    if c = ')' then dropParentheses none rest
    else if c = '\n' then held.reverse ++ c :: dropParentheses none rest
    else dropParentheses (some (c :: held)) rest

/-- Removes the remark that a semicolon begins.  It reaches to the end of the text, or to the line
feed that ends the text; a semicolon before any other line feed begins no remark. -/
def dropRemark : List Char → List Char
  | [] => []
  | c :: rest =>
    if c = ';' then
      let after := rest.dropWhile (· != '\n')
      if after.length ≤ 1 then after else c :: dropRemark rest
    else c :: dropRemark rest

/-- What counts of a line. -/
def lineContent (line : List Char) : List Char :=
  upper (trim (dropRemark (dropParentheses none line)))

end Machining.Program
