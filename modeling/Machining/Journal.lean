import Machining.Log
import Machining.Machine.Call
set_option autoImplicit false

/-!
# Journal

What happened during an operation, in order: calls to the machine, calls to the renderer that draws
the toolpath, and records.  Operations return their journal as data.
-/

namespace Machining

/-- One notice to the renderer. -/
inductive RendererCall where
  /-- A toolpath with this many segments was loaded. -/
  | setToolpath (count : Nat)
  | setCurrentSegment (index : Nat)
  | setVisible (visible : Bool)
  deriving DecidableEq, Repr, Inhabited

/-- A call that an attached machine or renderer has seen. -/
inductive Event where
  | machine (call : Machine.Call)
  | renderer (call : RendererCall)
  deriving DecidableEq, Repr, Inhabited

/-- An entry of the journal. -/
inductive Entry where
  | event (event : Event)
  | record (record : LogRecord)
  deriving DecidableEq, Repr, Inhabited

namespace Entry

/-- The event of an entry. -/
def event? : Entry → Option Event
  | .event e => some e
  | .record _ => none

/-- The record of an entry. -/
def record? : Entry → Option LogRecord
  | .event _ => none
  | .record r => some r

end Entry

/-- Entries in the order in which things happened. -/
abbrev Journal := List Entry

namespace Journal

/-- The journal of an operation that only reports. -/
def ofLog (log : Log) : Journal := log.map .record

/-- The calls that were seen. -/
def events (j : Journal) : List Event := j.filterMap Entry.event?

/-- The records that were made. -/
def records (j : Journal) : Log := j.filterMap Entry.record?

@[simp] theorem events_append (i j : Journal) : events (i ++ j) = events i ++ events j :=
  List.filterMap_append

@[simp] theorem records_append (i j : Journal) : records (i ++ j) = records i ++ records j :=
  List.filterMap_append

@[simp] theorem events_ofLog (log : Log) : events (ofLog log) = [] := by
  induction log with
  | nil => rfl
  | cons r rest ih => simp [events, ofLog, Entry.event?]

@[simp] theorem records_ofLog (log : Log) : records (ofLog log) = log := by
  induction log with
  | nil => rfl
  | cons r rest ih => simpa [records, ofLog, Entry.record?] using ih

end Journal

end Machining
