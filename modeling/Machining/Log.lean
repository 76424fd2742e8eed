set_option autoImplicit false

/-!
# Log records

Every part of the library reports what it does as records.  Operations return their records as data,
in the order of the events; an outer layer decides what becomes of them.
-/

namespace Machining

/-- Weight of a record, least first. -/
inductive LogLevel where
  | trace
  | debug
  | info
  | warning
  | error
  deriving DecidableEq, Repr, Inhabited

namespace LogLevel

/-- Number of a level, as thresholds are given. -/
def number : LogLevel → Int
  | .trace => 5
  | .debug => 10
  | .info => 20
  | .warning => 30
  | .error => 40

/-- Name of a level. -/
def name : LogLevel → String
  | .trace => "TRACE"
  | .debug => "DEBUG"
  | .info => "INFO"
  | .warning => "WARNING"
  | .error => "ERROR"

end LogLevel

/-- The part of the library that reports. -/
inductive LogSource where
  | settings
  | reading
  | execution
  | geometry
  | travel
  | playback
  | session
  deriving DecidableEq, Repr, Inhabited

/-- One report. -/
structure LogRecord where
  level : LogLevel
  source : LogSource
  message : String
  deriving DecidableEq, Repr, Inhabited

/-- Reports in the order in which they were made. -/
abbrev Log := List LogRecord

end Machining
