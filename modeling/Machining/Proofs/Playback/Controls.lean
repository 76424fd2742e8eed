import Machining.Proofs.Playback.Playthrough
set_option autoImplicit false

/-!
# The controls of a simulated machine

Spindle, coolant and tool of a simulated machine are set by the calls of directives and
left alone by moves.  Playback performs the items of a program one after the other, so
the controls after some segments are those that the items played so far have set.
-/

namespace Machining.Machine

/-- The call moves an axis. -/
def Call.isMove : Call → Bool
  | .moveAxis _ _ _ => true
  | _ => false

/-- What calls other than moves set on a machine. -/
structure Controls where
  rpm : Float := 0.0
  direction : Int := 0
  coolant : Bool := false
  tool : Int := initialTool
  deriving DecidableEq, Repr, Inhabited

namespace Controls

/-- The controls after a call. -/
def after (k : Controls) : Call → Controls
  | .moveAxis _ _ _ => k
  | .setSpindle rpm direction =>
    { k with rpm := rpm, direction := if 0 ≤ direction then 1 else -1 }
  | .stopSpindle => { k with rpm := 0.0, direction := 0 }
  | .setCoolant on => { k with coolant := on }
  | .changeTool tool => { k with tool := tool }

/-- Moves leave the controls alone. -/
theorem foldl_after_of_moves {calls : List Call} (h : ∀ call ∈ calls, call.isMove = true)
    (k : Controls) : calls.foldl after k = k := by
  induction calls with
  | nil => rfl
  | cons call rest ih =>
    have hrest := ih fun call' hcall' => h call' (List.mem_cons_of_mem _ hcall')
    cases call with
    | moveAxis axis target rapid => exact hrest
    | _ => cases h _ List.mem_cons_self

end Controls

namespace Simulation

/-- The controls of the machine. -/
def controls (m : Simulation) : Controls := ⟨m.rpm, m.direction, m.coolant, m.tool⟩

/-- The controls of a new machine are as they are before any call. -/
@[simp] theorem controls_new (limits : TravelLimits) : controls { limits := limits } = {} := rfl

/-- The machine after a call. -/
def after (m : Simulation) (call : Call) : Simulation := (Attachment.simulate m {} call).1

/-- What a call does to the machine does not depend on the coordinates reached before. -/
theorem simulate_fst (m : Simulation) (reached : AddressMap) (call : Call) :
    (Attachment.simulate m reached call).1 = m.after call := by
  cases call <;> rfl

theorem controls_after (m : Simulation) (call : Call) :
    (m.after call).controls = m.controls.after call := by
  cases call with
  | setSpindle rpm direction =>
    simp [after, Attachment.simulate, setSpindle, controls, Controls.after]
  | _ => rfl

theorem controls_foldl_after (calls : List Call) (m : Simulation) :
    (calls.foldl after m).controls = calls.foldl Controls.after m.controls :=
  (List.foldl_hom controls fun m call => (controls_after m call).symm).symm

end Simulation

end Machining.Machine

namespace Machining.Playback

open Machining.Execution
open Machining.Machine
open Machining.Program
open Machining.Toolpath

/-! ## Performing cues -/

/-- A simulated machine that performs cues receives the calls among them. -/
theorem performFrom_simulated :
    ∀ (cues : List Cue) (m : Simulation) (reached : AddressMap),
      (performFrom (.simulated m) reached cues).machine =
        .simulated ((cues.filterMap Cue.call?).foldl Simulation.after m) := by
  intro cues
  induction cues with
  | nil => intro m reached; rfl
  | cons cue rest ih =>
    intro m reached
    cases cue with
    | note r => exact ih m reached
    | call k =>
      have hmachine : ((Attachment.simulated m).perform reached k).machine =
          .simulated (m.after k) := by
        simp only [Attachment.perform, Simulation.simulate_fst]
      simp only [performFrom, hmachine, ih]
      rfl

/-- The calls of items, in the order in which they are played. -/
def itemCalls (items : List Item) : List Call := items.flatMap Item.calls

@[simp] theorem itemCalls_append (earlier later : List Item) :
    itemCalls (earlier ++ later) = itemCalls earlier ++ itemCalls later :=
  List.flatMap_append

theorem itemCalls_eq_filterMap (items : List Item) :
    (items.flatMap Item.cues).filterMap Cue.call? = itemCalls items :=
  List.filterMap_flatMap ..

/-- A segment asks for moves only. -/
theorem isMove_of_segment (i : Nat) (g : Segment) :
    ∀ call ∈ (Item.segment i g).calls, call.isMove = true := by
  intro call hcall
  obtain ⟨cue, hcue, hgiven⟩ := List.mem_filterMap.mp hcall
  rcases List.mem_cons.mp hcue with rfl | hmove
  · cases hgiven
  · obtain ⟨axis, target, rapid, rfl⟩ := eq_moveAxis_of_mem_movePlan hmove
    cases hgiven
    rfl

/-- A directive asks for no move. -/
theorem isMove_of_directive (a : Directive) :
    ∀ call ∈ (Item.directive a).calls, call.isMove = false := by
  intro call hcall
  obtain ⟨cue, hcue, hgiven⟩ := List.mem_filterMap.mp hcall
  simp only [Item.cues, directiveCues, if_true, List.mem_cons, List.not_mem_nil,
    or_false] at hcue
  rcases hcue with rfl | rfl
  · cases hgiven
  · generalize a.effect = effect at hgiven
    cases effect <;> cases hgiven <;> rfl

theorem isMove_of_itemsAt (p : Schedule) (i : Nat) :
    ∀ call ∈ itemCalls (p.itemsAt i), call.isMove = false := by
  intro call hcall
  obtain ⟨item, hitem, hcall⟩ := List.mem_flatMap.mp hcall
  obtain ⟨a, _, rfl⟩ := List.mem_map.mp hitem
  exact isMove_of_directive a call hcall

end Machining.Playback

namespace Machining.Machine.Controls

open Machining.Execution
open Machining.Playback
open Machining.Toolpath

/-! ## What items set -/

/-- The controls after some items are played. -/
def played (k : Controls) (items : List Item) : Controls := (itemCalls items).foldl after k

variable (k : Controls)

@[simp] theorem played_nil : k.played [] = k := rfl

@[simp] theorem played_append (earlier later : List Item) :
    k.played (earlier ++ later) = (k.played earlier).played later := by
  simp [played]

/-- A segment leaves the controls alone. -/
@[simp] theorem played_segment (i : Nat) (g : Segment) :
    k.played [.segment i g] = k := by
  have hmoves : ∀ call ∈ itemCalls [.segment i g], call.isMove = true := by
    simpa [itemCalls] using isMove_of_segment i g
  exact foldl_after_of_moves hmoves k

/-- A directive sets what its effect asks for. -/
@[simp] theorem played_directive (a : Directive) :
    k.played [.directive a] = ((effectCue a.effect).call?.map k.after).getD k := by
  unfold played itemCalls Item.calls Item.cues directiveCues
  simp only [if_true, List.flatMap_singleton, List.filterMap_cons, List.filterMap_nil]
  cases (effectCue a.effect).call? <;> simp [playNote, Cue.call?]

/-- What a command emits sets what its directive sets. -/
theorem played_emittedBy (count : Nat) (r : Step) :
    k.played (emittedBy count r) = k.played (r.directive?.toList.map .directive) := by
  unfold emittedBy
  rw [played_append]
  cases r.segment? <;> simp

end Machining.Machine.Controls

namespace Machining.Playback

open Machining.Machine
open Machining.Toolpath

/-! ## Playing segments -/

namespace Schedule

variable (p : Schedule) (m : Simulation)

theorem play_simulated (i : Nat) (g : Segment) :
    (p.play (.simulated m) i g).1.machine =
      .simulated ((itemCalls (p.itemsAt i ++ [Item.segment i g])).foldl Simulation.after m) := by
  have hcues : (p.plan true i g).cues.filterMap Cue.call? =
      itemCalls (p.itemsAt i ++ [Item.segment i g]) := by
    rw [plan_cues, ← itemCalls_eq_filterMap, List.flatMap_append, List.flatMap_singleton]
  rw [← hcues]
  exact performFrom_simulated _ m {}

/-- Segments played in a row leave the machine that the calls of their items make of
it. -/
theorem playRow_simulated (r : Renderer) :
    ∀ (segments : List Segment) (i : Nat) (m : Simulation),
      (p.playRow r (.simulated m) i segments).1 =
        .simulated ((itemCalls (p.itemsAhead i segments)).foldl Simulation.after m) := by
  intro segments
  induction segments with
  | nil => intro i m; rfl
  | cons g rest ih =>
    intro i m
    have hitems : p.itemsAhead i (g :: rest) =
        (p.itemsAt i ++ [Item.segment i g]) ++ p.itemsAhead (i + 1) rest :=
      List.append_cons ..
    rw [hitems, itemCalls_append, List.foldl_append]
    simp only [playRow, play_simulated, ih]

/-- The end of a program performs the directives after the last segment and stops the
spindle. -/
theorem close_simulated :
    (p.close (.simulated m)).1 =
      .simulated ((itemCalls (p.itemsAt p.segmentCount) ++ [Call.stopSpindle]).foldl
        Simulation.after m) := by
  have hfinish : (p.finish (.simulated m)).machine =
      .simulated ((itemCalls (p.itemsAt p.segmentCount)).foldl Simulation.after m) := by
    rw [← itemCalls_eq_filterMap, flatMap_cues_itemsAt]
    exact performFrom_simulated _ m {}
  rw [List.foldl_append]
  simp only [close, hfinish]
  rfl

/-- Segments played in a row leave the controls that their items set. -/
theorem playRow_controls (r : Renderer) (segments : List Segment) (i : Nat) :
    ∃ m', (p.playRow r (.simulated m) i segments).1 = .simulated m' ∧
      m'.controls = m.controls.played (p.itemsAhead i segments) :=
  ⟨_, p.playRow_simulated r segments i m, Simulation.controls_foldl_after _ m⟩

/-- The end of a program leaves the controls that its last directives set, with the
spindle at rest. -/
theorem close_controls :
    ∃ m', (p.close (.simulated m)).1 = .simulated m' ∧
      m'.controls =
        (m.controls.played (p.itemsAt p.segmentCount)).after .stopSpindle := by
  refine ⟨_, p.close_simulated m, ?_⟩
  rw [Simulation.controls_foldl_after, List.foldl_append]
  rfl

end Schedule

end Machining.Playback
