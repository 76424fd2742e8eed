import Machining.Machine.Travel
import Machining.Number.Numeral
import Machining.Text.Case
set_option autoImplicit false

/-!
# Settings

The numbers that an installation may change, read from the texts of its environment.  A text that is no
number is a fault, except in the travel limits: there it leaves a warning and the defaults.
-/

namespace Machining

open Machining.Machine
open Machining.Text

/-- The texts given by the environment; what is not given takes its default. -/
structure Environment where
  trace : Option String := none
  largeCoordinate : Option String := none
  rapidFeedrate : Option String := none
  arcSegments : Option String := none
  logLevel : Option String := none
  travelLimits : Option String := none
  deriving DecidableEq, Repr, Inhabited

/-- The settings in force. -/
structure Settings where
  /-- Records of every weight are wanted. -/
  traceEnabled : Bool
  /-- Coordinates of a greater magnitude are reported. -/
  largeCoordinate : Float
  /-- Rate of rapid moves, for playback timing only, in units per minute. -/
  rapidFeedrate : Float
  /-- Chords per full turn of a sampled arc. -/
  arcSegments : Int
  logLevel : String
  travel : TravelLimits
  deriving DecidableEq, Repr, Inhabited

/-- The slowest playback. -/
def minimumSpeed : Float := 0.1

/-- The fastest playback. -/
def maximumSpeed : Float := 10.0

/-- The travel of a machine that no one has set limits for. -/
def defaultTravel : TravelLimits :=
  { x := ⟨-500.0, 500.0⟩
    y := ⟨-400.0, 400.0⟩
    z := ⟨-300.0, 300.0⟩
    a := ⟨-120.0, 120.0⟩
    b := ⟨-360.0, 360.0⟩ }

namespace Settings

/-- Splits a text at every comma. -/
def splitCommas : List Char → List (List Char)
  | [] => [[]]
  | c :: rest =>
    if c = ',' then [] :: splitCommas rest
    else
      match splitCommas rest with
      | field :: fields => (c :: field) :: fields
      | [] => [[c]]

/-- The numbers of a comma-separated text, if every field is one. -/
def commaNumbers? (s : String) : Option (List Float) :=
  (splitCommas s.toList).mapM fun field => readFloat? (String.ofList (trim field))

/-- The range between two numbers, in either order. -/
def rangeOf (p q : Float) : Range := ⟨Number.keepUnlessLess p q, Number.keepUnlessGreater p q⟩

/-- Pairs of limits in the order of the axes, if there are exactly ten numbers. -/
def travelOfNumbers? : List Float → Option TravelLimits
  | [x0, x1, y0, y1, z0, z1, a0, a1, b0, b1] =>
    some ⟨rangeOf x0 x1, rangeOf y0 y1, rangeOf z0 z1, rangeOf a0 a1, rangeOf b0 b1⟩
  | _ => none

/-- A warning about the travel limits. -/
def travelWarning (message : String) : Log := [⟨.warning, .settings, message⟩]

/-- The travel limits of a text; anything but ten numbers leaves the defaults. -/
def travelOf (given : Option String) : TravelLimits × Log :=
  match given with
  | none => (defaultTravel, [])
  | some s =>
    if s.isEmpty then (defaultTravel, [])
    else
      match commaNumbers? s with
      | none =>
        (defaultTravel, travelWarning ("Ignoring malformed CNCSIM_TRAVEL_LIMITS: " ++ quoted s))
      | some numbers =>
        match travelOfNumbers? numbers with
        | some limits => (limits, [])
        | none =>
          (defaultTravel, travelWarning
            s!"Ignoring CNCSIM_TRAVEL_LIMITS: expected 10 values, got {numbers.length}")

/-- A switch is on for these words, in any case. -/
def isOn (s : String) : Bool :=
  ["1", "true", "yes", "on"].contains (s.map Char.toLower)

/-- A number setting. -/
def floatSetting (given : Option String) (fallback : Float) : Except Fault Float :=
  match given with
  | none => .ok fallback
  | some s =>
    match readFloat? s with
    | some x => .ok x
    | none => .error (.malformedFloat s)

/-- An integer setting. -/
def intSetting (given : Option String) (fallback : Int) : Except Fault Int :=
  match given with
  | none => .ok fallback
  | some s =>
    match readInt s with
    | .ok n => .ok n
    | .error .malformed => .error (.malformedInteger s)
    | .error (.tooManyDigits count) => .error (.tooManyDigits count)

/-- The settings of an environment, and the warnings about it.  Of several faults the first is
reported. -/
def ofEnvironment (e : Environment) : Except Fault (Settings × Log) := do
  let large ← floatSetting e.largeCoordinate 1000.0
  let rapid ← floatSetting e.rapidFeedrate 5000.0
  let arcs ← intSetting e.arcSegments 64
  let (travel, log) := travelOf e.travelLimits
  return (
    { traceEnabled := isOn (e.trace.getD "0")
      largeCoordinate := large
      rapidFeedrate := rapid
      arcSegments := arcs
      logLevel := e.logLevel.getD "INFO"
      travel := travel }, log)

/-- The settings where the environment gives nothing. -/
def standard : Settings :=
  { traceEnabled := false
    largeCoordinate := 1000.0
    rapidFeedrate := 5000.0
    arcSegments := 64
    logLevel := "INFO"
    travel := defaultTravel }

@[simp] theorem ofEnvironment_empty : ofEnvironment {} = .ok (standard, []) := by
  have hoff : isOn "0" = false := by decide +kernel
  simp only [ofEnvironment, floatSetting, intSetting, travelOf, Option.getD_none, hoff]
  rfl

/-! ## Choice of the log level -/

/-- The level numbers by name. -/
def levelNumbers : List (String × Int) :=
  [("CRITICAL", 50), ("FATAL", 50), ("ERROR", 40), ("WARNING", 30), ("WARN", 30), ("INFO", 20),
   ("DEBUG", 10), ("NOTSET", 0), ("TRACE", 5)]

/-- The number of a level name in any case; an unknown name means `INFO`. -/
def levelNumber (name : String) : Int :=
  (levelNumbers.lookup (String.ofList (upper name.toList))).getD LogLevel.info.number

/-- The level asked for by a caller. -/
inductive LevelChoice where
  | unspecified
  | named (name : String)
  | numbered (number : Int)
  deriving DecidableEq, Repr, Inhabited

/-- The number of the level in force.  A caller's choice wins; otherwise tracing, if it is on, and
then the level of the settings. -/
def logThreshold (s : Settings) : LevelChoice → Int
  | .named name => levelNumber name
  | .numbered number => number
  | .unspecified => if s.traceEnabled then LogLevel.trace.number else levelNumber s.logLevel

/-- How a record is laid out. -/
def recordFormat : String := "%(asctime)s %(levelname)-8s %(name)s: %(message)s"

/-- How the time of a record is laid out. -/
def timeFormat : String := "%H:%M:%S"

end Settings

end Machining
