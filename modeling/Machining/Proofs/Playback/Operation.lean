import Machining.Playback.Session
import Machining.Program.Sample
set_option autoImplicit false

/-!
# Operations and runs

The operations of a session as data, so that a run is a list of them.  A session is
reachable if a run leads to it from a new session and no load of the run failed; a
load that is rejected for its lines does not count as failed.
-/

namespace Machining.Playback

open Machining.Machine
open Machining.Program

/-- One operation of a session. -/
inductive Operation where
  /-- Load a text; the check may refuse lines of it. -/
  | load (text : String) (check : LineCheck)
  | loadSample (name : Option String)
  | start
  | pause
  | resume
  | stop
  | forward
  | backward
  | advance (seconds : Float)
  | setSpeed (speed : Float)
  | setVisibility (visible : Bool)

/-- The answer to an operation. -/
inductive Answer where
  | loading (outcome : Except Fault Loading)
  /-- Whether a control operation was carried out. -/
  | done (carriedOut : Bool)
  | stepped (outcome : Except Fault Bool)
  | advanced (outcome : Except Fault Nat)
  | speed (speed : Float)
  | shown

namespace Answer

/-- A load that failed after it had been accepted. -/
def isFailedLoad : Answer → Bool
  | loading (.error _) => true
  | _ => false

/-- The number of segments that an advance in time played. -/
def advancedBy : Answer → Nat
  | advanced (.ok count) => count
  | _ => 0

end Answer

/-- The turn with its answer changed. -/
def Turn.map {α β : Type} (f : α → β) (t : Turn α) : Turn β :=
  ⟨t.session, f t.answer, t.journal⟩

namespace Session

/-- Carries out one operation. -/
def operate (settings : Settings) (s : Session) : Operation → Turn Answer
  | .load text check => (s.load settings text check).map .loading
  | .loadSample name => (s.load settings (Sample.text name)).map .loading
  | .start => s.start.map .done
  | .pause => s.pause.map .done
  | .resume => s.resume.map .done
  | .stop => s.stop.map .done
  | .forward => s.forward.map .stepped
  | .backward => s.backward.map .done
  | .advance seconds => (s.advance seconds).map .advanced
  | .setSpeed speed => (s.setSpeed speed).map .speed
  | .setVisibility visible => (s.setVisibility visible).map fun _ => .shown

/-- Carries out operations one after the other. -/
def operateAll (settings : Settings) : List Operation → Session → Turn (List Answer)
  | [], s => ⟨s, [], []⟩
  | op :: rest, s =>
    let first := s.operate settings op
    let later := operateAll settings rest first.session
    ⟨later.session, first.answer :: later.answer, first.journal ++ later.journal⟩

/-- A run in two parts is the first part, and then the second from where that ended. -/
theorem operateAll_append (settings : Settings) (later : List Operation) :
    ∀ (earlier : List Operation) (s : Session),
      operateAll settings (earlier ++ later) s =
        let first := operateAll settings earlier s
        let second := operateAll settings later first.session
        ⟨second.session, first.answer ++ second.answer,
          first.journal ++ second.journal⟩ := by
  intro earlier
  induction earlier with
  | nil => intro s; rfl
  | cons op rest ih =>
    intro s
    rw [List.cons_append]
    simp only [operateAll, ih, List.cons_append, List.append_assoc]

end Session

/-- The sessions that runs without a failed load reach from new sessions, whatever
is attached. -/
inductive Reachable (settings : Settings) : Session → Prop where
  | new (machine : Attachment) (renderer : Renderer) :
      Reachable settings { machine := machine, renderer := renderer }
  | operate {s : Session} (op : Operation) (h : Reachable settings s)
      (hload : (s.operate settings op).answer.isFailedLoad = false) :
      Reachable settings (s.operate settings op).session

/-- A run without a failed load leads from reachable sessions to reachable ones. -/
theorem Reachable.operateAll {settings : Settings} :
    ∀ (ops : List Operation) {s : Session}, Reachable settings s →
      (∀ a ∈ (s.operateAll settings ops).answer, a.isFailedLoad = false) →
      Reachable settings (s.operateAll settings ops).session := by
  intro ops
  induction ops with
  | nil => intro s h _; exact h
  | cons op rest ih =>
    intro s h hloads
    apply ih
    · exact h.operate op (hloads _ List.mem_cons_self)
    · intro a ha
      exact hloads a (List.mem_cons_of_mem _ ha)

end Machining.Playback
