import Machining.Number.Text
import Machining.Text.Quoted
set_option autoImplicit false

/-!
# Loosely typed data

Job files may give a program text, a plane or a switch as any kind of value.  A `Datum` is such a
value; `Datum.text` is the text it stands for, and `Datum.isSet` whether it counts as "on".
-/

namespace Machining

open Machining.Text

/-- A value whose kind is not fixed in advance. -/
inductive Datum where
  | missing
  | truth (value : Bool)
  | integer (value : Int)
  | real (value : Float)
  | text (value : String)
  | list (items : List Datum)
  | record (fields : List (String × Datum))
  deriving Repr, Inhabited

namespace Datum

mutual

/-- The value as it appears inside a list or a record: texts are quoted. -/
def shown : Datum → String
  | .missing => "None"
  | .truth b => if b then "True" else "False"
  | .integer n => toString n
  | .real x => Number.text x
  | .text s => quoted s
  | .list items => "[" ++ shownItems items ++ "]"
  | .record fields => "\x7b" ++ shownFields fields ++ "\x7d"

/-- Items separated by commas. -/
def shownItems : List Datum → String
  | [] => ""
  | [item] => shown item
  | item :: items => shown item ++ ", " ++ shownItems items

/-- Fields separated by commas, each name quoted. -/
def shownFields : List (String × Datum) → String
  | [] => ""
  | [(name, value)] => quoted name ++ ": " ++ shown value
  | (name, value) :: fields => quoted name ++ ": " ++ shown value ++ ", " ++ shownFields fields

end

/-- The text a value stands for; a text stands for itself. -/
def toText : Datum → String
  | .text s => s
  | d => shown d

/-- The program text a value stands for: no value stands for the empty program. -/
def programText : Datum → String
  | .missing => ""
  | d => d.toText

/-- Whether a switch given by the value is on: zero, the empty text and empty collections are off. -/
def isSet : Datum → Bool
  | .missing => false
  | .truth b => b
  | .integer n => n != 0
  | .real x => x != 0.0
  | .text s => !s.isEmpty
  | .list items => !items.isEmpty
  | .record fields => !fields.isEmpty

end Datum

end Machining
