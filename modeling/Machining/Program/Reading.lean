import Machining.Program.Command
import Machining.Program.Line
set_option autoImplicit false

/-!
# Reading a program

Reading takes the lines of a text one by one and never fails: a line gives a command, an issue or
nothing, and reading goes on with the next line.  The grammar refuses no line; a line is refused only
by the caller's own check, which is asked for every line that is not empty after cleaning.
-/

namespace Machining.Program

open Machining.Text

/-- A line that was refused: its number, why, and the line untrimmed. -/
structure LineIssue where
  line : Nat
  message : String
  raw : String
  deriving DecidableEq, Repr, Inhabited

/-- What one line gives. -/
structure LineReading where
  command? : Option Command := none
  issue? : Option LineIssue := none
  log : Log := []
  deriving DecidableEq, Repr, Inhabited

/-- A check that may refuse lines by number; it gives the reason. -/
abbrev LineCheck := Nat → Option String

/-- The check that refuses no line. -/
def acceptAll : LineCheck := fun _ => none

/-- What the line with this number gives. -/
def readLine (check : LineCheck) (number : Nat) (raw : List Char) : LineReading :=
  match lineContent raw with
  | [] => {}
  | line =>
    match check number with
    | some reason =>
      { issue? := some ⟨number, reason, String.ofList raw⟩
        log := [⟨.warning, .reading, s!"Line {number}: parse error - {reason}"⟩] }
    | none =>
      let (command?, log) := Command.ofLine line number (String.ofList (trim raw))
      { command? := command?, log := log }

/-- The result of reading a program. -/
structure Reading where
  commands : List Command := []
  issues : List LineIssue := []
  lineCount : Nat := 0
  deriving DecidableEq, Repr, Inhabited

namespace Reading

/-- No line was refused. -/
def success (r : Reading) : Bool := r.issues.isEmpty

/-- The commands of one kind. -/
def byKind (r : Reading) (kind : CommandKind) : List Command :=
  r.commands.filter fun c => c.head.kind = kind

/-- The motions `G0` to `G3`. -/
def motions (r : Reading) : List Command := r.commands.filter Command.isMotion

/-- The closing record. -/
def summary (r : Reading) : LogRecord :=
  ⟨.debug, .reading, s!"Parsed {r.commands.length} commands from {r.lineCount} lines "
    ++ s!"({r.issues.length} errors)"⟩

end Reading

/-- What each line of a program gives, in order; lines are numbered from one. -/
def readLines (check : LineCheck) (text : String) : List LineReading :=
  ((splitLines text.toList).zipIdx 1).map fun (raw, number) => readLine check number raw

/-- Reads a program. -/
def readText (text : String) (check : LineCheck := acceptAll) : Reading × Log :=
  let lines := readLines check text
  let reading : Reading :=
    { commands := lines.filterMap (·.command?)
      issues := lines.filterMap (·.issue?)
      lineCount := lines.length }
  (reading, lines.flatMap (·.log) ++ [reading.summary])

end Machining.Program
