import Machining.Geometry.Arc
import Machining.Log
set_option autoImplicit false

/-!
# Length and duration of segments

Both are estimates for playback.  An arc that makes no circle has the length of its chord, and that is
reported.
-/

namespace Machining.Geometry

open Machining.Number
open Machining.Toolpath

/-- Way from the start of a drilling cycle to its hole. -/
def drillApproach (s : Segment) (hole : AddressMap) : Except Fault Float := do
  let x ← hole.get "x"
  let y ← hole.get "y"
  return hypotenuse (x - coordinate s.start .x) (y - coordinate s.start .y)

/-- Length of a segment.  A drilling cycle counts the approach, the plunge and the retract. -/
def segmentLength (s : Segment) : Except Fault Float × Log :=
  match s.shape with
  | .straight => (.ok (distance s.start s.finish), [])
  | .drill _ hole depth retract =>
    ((drillApproach s hole).map (· + 2.0 * (retract - depth).abs), [])
  | .arc offsets radius plane =>
    let arc : Arc := ⟨s.start, s.finish, offsets, radius, plane, s.isClockwise, s.line⟩
    match arc.length with
    | .error (.arc fault) =>
      (.ok (distance s.start s.finish),
        [⟨.debug, .geometry,
          s!"Using chord length for line {s.line}: " ++ (Fault.arc fault).message⟩])
    | other => (other, [])

/-- Seconds that a drilling cycle takes: the plunge at its own rate, approach and retract at the rapid
rate. -/
def drillTime (s : Segment) (hole : AddressMap) (depth retract : Float) (rapidRate : Option Float) :
    Except Fault Float := do
  let plunge := (retract - depth).abs
  let down ← travelTime plunge s.feedrate
  let approach ← drillApproach s hole
  let rest ← travelTime (approach + plunge) rapidRate
  return down + rest

/-- Seconds that the length of a segment takes at a rate. -/
def lengthTime (s : Segment) (rate : Option Float) : Except Fault Float × Log :=
  let (length, log) := segmentLength s
  (length >>= fun length => travelTime length rate, log)

/-- Estimated seconds for a segment.  A segment of the rapid kind goes at the rapid rate, whatever its
path. -/
def segmentTime (rapidRate : Option Float) (s : Segment) : Except Fault Float × Log :=
  if s.kind = .rapid then lengthTime s rapidRate
  else
    match s.shape with
    | .drill _ hole depth retract => (drillTime s hole depth retract rapidRate, [])
    | _ => lengthTime s s.feedrate

/-- Estimated seconds for each segment of a toolpath, in order, up to the first failure. -/
def segmentTimes (rapidRate : Option Float) : List Segment → Except Fault (List Float) × Log
  | [] => (.ok [], [])
  | s :: rest =>
    match segmentTime rapidRate s with
    | (.error fault, log) => (.error fault, log)
    | (.ok time, log) =>
      let (later, laterLog) := segmentTimes rapidRate rest
      (later.map (time :: ·), log ++ laterLog)

end Machining.Geometry
