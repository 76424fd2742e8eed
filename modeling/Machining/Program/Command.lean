import Machining.AddressMap
import Machining.Log
import Machining.Program.Word
set_option autoImplicit false

/-!
# Commands

A line with words is one command.  Its head is the last `G`, `M` or `T` word of the line, and every
other letter is a parameter; a line of parameters alone repeats the motion that is in force.
-/

namespace Machining.Program

/-- The kinds of commands. -/
inductive CommandKind where
  | g
  | m
  | t
  | modal
  deriving DecidableEq, Repr, Inhabited

namespace CommandKind

/-- All kinds. -/
def all : List CommandKind := [g, m, t, modal]

/-- The name of a kind, which is also how its commands are written. -/
def name : CommandKind → String
  | g => "G"
  | m => "M"
  | t => "T"
  | modal => "MODAL"

/-- The kind of that name. -/
def ofName? (name : String) : Option CommandKind := all.find? fun kind => kind.name = name

@[simp] theorem ofName?_name (kind : CommandKind) : ofName? kind.name = some kind := by
  cases kind <;> decide

end CommandKind

/-- What a command asks for: a function of one of three groups, or the motion in force again. -/
inductive Head where
  | g (code : Float)
  | m (code : Float)
  | t (code : Float)
  | modal
  deriving DecidableEq, Repr, Inhabited

namespace Head

/-- The kind of the command. -/
def kind : Head → CommandKind
  | g _ => .g
  | m _ => .m
  | t _ => .t
  | modal => .modal

/-- The code, which parameter lines lack. -/
def code? : Head → Option Float
  | g code => some code
  | m code => some code
  | t code => some code
  | modal => none

/-- The whole number of a `G` code. -/
def gNumber? : Head → Option Int
  | g code => wholeNumber? code
  | _ => none

/-- The whole number of an `M` code. -/
def mNumber? : Head → Option Int
  | m code => wholeNumber? code
  | _ => none

/-- The head as written, with at most ten significant digits. -/
def text (head : Head) : String :=
  match head.code? with
  | some code => head.kind.name ++ Number.general 10 code
  | none => head.kind.name

/-- The head that a word gives, if its letter is one of the three. -/
def ofWord? (w : Word) : Option Head :=
  if w.letter = 'G' then some (.g w.value)
  else if w.letter = 'M' then some (.m w.value)
  else if w.letter = 'T' then some (.t w.value)
  else none

end Head

/-- One command of a program. -/
structure Command where
  head : Head
  params : AddressMap := {}
  /-- Number of the line, from one. -/
  line : Int := 0
  /-- The line as it was written, for messages. -/
  source : String := ""
  deriving DecidableEq, Repr, Inhabited

namespace Command

/-- The command as written: its head and its parameters, ten significant digits each. -/
def text (c : Command) : String :=
  c.head.text ++
    String.join (c.params.entries.map fun p => " " ++ p.1 ++ Number.general 10 p.2)

/-- The command is a motion `G0` to `G3`. -/
def isMotion (c : Command) : Bool := [some 0, some 1, some 2, some 3].contains c.head.gNumber?

/-- The command of a row of words.  The last head counts; a parameter given again keeps its place and
takes the new number. -/
def ofWords (words : List Word) (line : Int) (source : String) : Command :=
  { head := (words.filterMap Head.ofWord?).getLast?.getD .modal
    params := AddressMap.ofList
      ((words.filter fun w => (Head.ofWord? w).isNone).map fun w => (w.letter.toString, w.value))
    line := line
    source := source }

/-- One record for each head that a later head of the line supersedes. -/
def supersededHeads (words : List Word) (line : Int) : Log :=
  let heads := words.filterMap fun w => (Head.ofWord? w).map fun head => (head, w)
  (heads.zip heads.tail).map fun (earlier, later) =>
    ⟨.debug, .reading, s!"Line {line}: " ++ earlier.1.text ++ " superseded by " ++ later.2.text⟩

/-- The command of a cleaned line, if the line has a word, and what there is to report about it.
Without a source text the line itself is the source. -/
def ofLine (line : List Char) (number : Int) (source : String) : Option Command × Log :=
  match words line with
  | [] => (none, [])
  | found =>
    let source := if source.isEmpty then String.ofList line else source
    (some (ofWords found number source), supersededHeads found number)

end Command

end Machining.Program
