import Machining.Number.Text
import Machining.Text.Quoted
set_option autoImplicit false

/-!
# Faults

Everything that can stop an operation, as causes.  Faults of a program line know the line; the other
faults are about a value.  `Fault.message` is the wording of a fault, `Fault.issue` its wording in the
list of issues of a run, where the line is given apart and faults about values carry their category.
-/

namespace Machining

open Machining.Text

/-- Why start, end, centre and radius of an arc do not make a circle. -/
inductive ArcFault where
  /-- The plane has no axes; the plane is kept as the text it was given by. -/
  | unknownPlane (plane : String)
  /-- An arc by radius whose ends coincide. -/
  | coincidentEnds (line : Int)
  /-- An arc by radius whose ends are farther apart than the diameter. -/
  | radiusTooSmall (radius chord : Float) (line : Int)
  /-- An arc that starts at its centre. -/
  | centreAtStart (line : Int)
  deriving DecidableEq, Repr, Inhabited

/-- A cause of failure. -/
inductive Fault where
  | arc (fault : ArcFault)
  /-- A drilling cycle without its depth or its retract height. -/
  | incompleteCycle (cycle : Int) (line : Int)
  /-- A map lacks an entry that is needed. -/
  | missingEntry (name : String)
  | unknownAxis (name : String)
  /-- A double without an integer part where an integer is needed. -/
  | notFinite (reason : NotFinite)
  /-- An integer beyond the range of doubles. -/
  | integerTooLarge
  | divisionByZero
  | malformedFloat (given : String)
  | malformedInteger (given : String)
  | tooManyDigits (count : Nat)
  deriving DecidableEq, Repr, Inhabited

namespace ArcFault

/-- The wording without the line. -/
def text : ArcFault → String
  | .unknownPlane plane => s!"Unknown plane G{plane}"
  | .coincidentEnds _ => "Radius-format arc needs distinct start and end points"
  | .radiusTooSmall radius chord _ =>
    "Arc radius " ++ Number.general 6 radius ++ " too small for distance " ++ Number.general 6 chord
  | .centreAtStart _ => "Arc centre coincides with start point"

/-- The program line; a plane may be asked for outside any program. -/
def line? : ArcFault → Option Int
  | .unknownPlane _ => none
  | .coincidentEnds line => some line
  | .radiusTooSmall _ _ line => some line
  | .centreAtStart line => some line

end ArcFault

/-- A text with the program line in front, if there is one. -/
def located (line : Option Int) (text : String) : String :=
  match line with
  | none => text
  | some n => s!"Line {n}: {text}"

namespace Fault

/-- The wording without the line. -/
def text : Fault → String
  | .arc fault => fault.text
  | .incompleteCycle cycle _ => s!"Canned cycle G{cycle} requires Z and R parameters"
  | .missingEntry name => quoted name
  | .unknownAxis name => s!"Unknown axis: {name}"
  | .notFinite .infinite => "cannot convert float infinity to integer"
  | .notFinite .undefined => "cannot convert float NaN to integer"
  | .integerTooLarge => "int too large to convert to float"
  | .divisionByZero => "float division by zero"
  | .malformedFloat given => "could not convert string to float: " ++ quoted given
  | .malformedInteger given =>
    "invalid literal for int() with base 10: " ++ String.ofList ((quoted given).toList.take 200)
  | .tooManyDigits count =>
    s!"Exceeds the limit (4300 digits) for integer string conversion: value has {count} digits; "
      ++ "use sys.set_int_max_str_digits() to increase the limit"

/-- The program line of a fault that has one. -/
def line? : Fault → Option Int
  | .arc fault => fault.line?
  | .incompleteCycle _ line => some line
  | _ => none

/-- The full wording. -/
def message (fault : Fault) : String := located fault.line? fault.text

/-- The category under which a fault is reported. -/
def category : Fault → String
  | .arc _ => "ArcGeometryError"
  | .incompleteCycle _ _ => "CannedCycleError"
  | .missingEntry _ => "KeyError"
  | .unknownAxis _ => "ValueError"
  | .notFinite .infinite => "OverflowError"
  | .notFinite .undefined => "ValueError"
  | .integerTooLarge => "OverflowError"
  | .divisionByZero => "ZeroDivisionError"
  | .malformedFloat _ => "ValueError"
  | .malformedInteger _ => "ValueError"
  | .tooManyDigits _ => "ValueError"

/-- The fault says that a program line cannot be carried out. -/
def isProgramFault : Fault → Bool
  | .arc _ => true
  | .incompleteCycle _ _ => true
  | _ => false

/-- The wording in the issue list of a run. -/
def issue (fault : Fault) : String :=
  if fault.isProgramFault then fault.text else fault.category ++ ": " ++ fault.message

end Fault

/-- The double nearest to an integer, which has to be within the range of doubles. -/
def doubleOfInteger (n : Int) : Except Fault Float :=
  let x := Float.ofInt n
  if x.isInf then .error .integerTooLarge else .ok x

/-- The integer part of a double, as a step that may fail. -/
def integerPartOrFault (x : Float) : Except Fault Int :=
  (integerPart x).mapError .notFinite

end Machining
