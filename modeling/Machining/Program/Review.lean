import Machining.Axis
import Machining.Program.Command
set_option autoImplicit false

/-!
# Review

Findings about a program that do not keep it from running: coordinates of suspicious size and rapid
moves while the spindle turns.  All findings about coordinates come before those about the spindle.
-/

namespace Machining.Program

/-- What was found. -/
inductive FindingCause where
  | largeCoordinate (axis : Axis) (value : Float)
  | rapidWithSpindle
  deriving DecidableEq, Repr, Inhabited

/-- A finding about one line. -/
structure Finding where
  line : Int
  cause : FindingCause
  deriving DecidableEq, Repr, Inhabited

namespace Finding

/-- The wording. -/
def message (f : Finding) : String :=
  match f.cause with
  | .largeCoordinate axis value =>
    "Large " ++ axis.letter ++ " coordinate: " ++ Number.general 6 value
  | .rapidWithSpindle => "Rapid move (G0) with spindle running"

/-- The weight of a finding, the same for all. -/
def severity (_ : Finding) : String := "warning"

end Finding

/-- Coordinates of one command whose magnitude exceeds the limit, axis by axis. -/
def largeCoordinates (limit : Float) (c : Command) : List Finding :=
  Axis.all.filterMap fun axis =>
    match c.params.get? axis.letter with
    | some value => if limit < value.abs then some ⟨c.line, .largeCoordinate axis value⟩ else none
    | none => none

/-- Whether the spindle turns after a command: `M3` and `M4` start it, `M5` stops it. -/
def spindleAfter (running : Bool) (head : Head) : Bool :=
  match head.mNumber? with
  | some 3 => true
  | some 4 => true
  | some 5 => false
  | _ => running

/-- Rapid moves while the spindle turns; the first argument says whether it turns at the start. -/
def rapidsWithSpindle (running : Bool) : List Command → List Finding
  | [] => []
  | c :: rest =>
    let later := rapidsWithSpindle (spindleAfter running c.head) rest
    if running && c.head.gNumber? = some 0 then ⟨c.line, .rapidWithSpindle⟩ :: later else later

/-- All findings about a program. -/
def review (limit : Float) (commands : List Command) : List Finding :=
  commands.flatMap (largeCoordinates limit) ++ rapidsWithSpindle false commands

end Machining.Program
