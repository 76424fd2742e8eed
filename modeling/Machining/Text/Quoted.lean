import Machining.Text.Printable
set_option autoImplicit false

/-!
# Quoted text

How a text appears inside a message that has to show exactly what was given.  The quotation mark is
the apostrophe unless the text holds an apostrophe and no double quote; the mark in use, the
backslash and everything that cannot be printed are escaped.
-/

namespace Machining.Text

/-- The last `width` lower-case hexadecimal digits of a number, zeros in front. -/
def hexDigits (width n : Nat) : String :=
  let digits := Nat.toDigits 16 n
  String.ofList (List.replicate (width - digits.length) '0' ++ digits)

/-- Escape by code point: two, four or eight digits, whichever is the first to suffice. -/
def escapeCode (n : Nat) : String :=
  if n < 0x100 then "\\x" ++ hexDigits 2 n
  else if n < 0x10000 then "\\u" ++ hexDigits 4 n
  else "\\U" ++ hexDigits 8 n

/-- One character inside the given quotation marks. -/
def quoteChar (mark c : Char) : String :=
  if c = '\\' ∨ c = mark then "\\" ++ c.toString
  else if c = '\t' then "\\t"
  else if c = '\n' then "\\n"
  else if c = '\r' then "\\r"
  else if isPrintable c then c.toString
  else escapeCode c.toNat

/-- The quotation mark of a text. -/
def quoteMark (cs : List Char) : Char :=
  if cs.contains '\'' && !cs.contains '"' then '"' else '\''

/-- A text in quotation marks. -/
def quoted (s : String) : String :=
  let mark := quoteMark s.toList
  mark.toString ++ String.join (s.toList.map (quoteChar mark)) ++ mark.toString

/-- A list of texts, each in quotation marks. -/
def quotedList (items : List String) : String :=
  "[" ++ ", ".intercalate (items.map quoted) ++ "]"

end Machining.Text
