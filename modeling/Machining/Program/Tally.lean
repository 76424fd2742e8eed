import Machining.Program.Command
set_option autoImplicit false

/-!
# Tally

How many commands of a program are of which category.
-/

namespace Machining.Program

/-- Numbers of commands by category. -/
structure Tally where
  totalLines : Nat := 0
  rapidMoves : Nat := 0
  linearMoves : Nat := 0
  arcMoves : Nat := 0
  toolChanges : Nat := 0
  spindleCommands : Nat := 0
  modalCommands : Nat := 0
  deriving DecidableEq, Repr, Inhabited

namespace Tally

/-- The tally of a program. -/
def ofCommands (commands : List Command) : Tally :=
  { totalLines := commands.length
    rapidMoves := commands.countP fun c => c.head.gNumber? = some 0
    linearMoves := commands.countP fun c => c.head.gNumber? = some 1
    arcMoves := commands.countP fun c => c.head.gNumber? = some 2 || c.head.gNumber? = some 3
    toolChanges := commands.countP fun c => c.head.kind = .t
    spindleCommands := commands.countP fun c =>
      c.head.mNumber? = some 3 || c.head.mNumber? = some 4 || c.head.mNumber? = some 5
    modalCommands := commands.countP fun c => c.head.kind = .modal }

/-- The categories with their report names, in report order. -/
def fields (t : Tally) : List (String × Nat) :=
  [("total_lines", t.totalLines), ("rapid_moves", t.rapidMoves),
   ("linear_moves", t.linearMoves), ("arc_moves", t.arcMoves),
   ("tool_changes", t.toolChanges), ("spindle_commands", t.spindleCommands),
   ("modal_commands", t.modalCommands)]

/-- The tally as a record of names and numbers. -/
def text (t : Tally) : String :=
  let shown := t.fields.map fun field => Text.quoted field.1 ++ ": " ++ toString field.2
  "\x7b" ++ ", ".intercalate shown ++ "\x7d"

end Tally

end Machining.Program
