import Machining.Proofs.Machine.Account
import Machining.Proofs.Playback.Following
set_option autoImplicit false

/-!
# Where a simulated machine stands

Every segment of a toolpath asks for five moves: a straight path or an arc for one of each
axis to its end, a drilling cycle for those over the hole, down and up.  The directives
between the segments ask for none.  So the position after a segment, and the number of
moves that the machine has counted, are read off the segments played.
-/

namespace Machining.Execution

open Machining.Program
open Machining.Toolpath

/-! ## Rapid segments -/

section

variable {count : Nat} {s : Modal} {c : Command} {g : Segment}

/-- A segment that a command gives is given by a move or by a drilling cycle. -/
theorem exists_move_or_drill (hg : (step count s c).segment? = some g) :
    ∃ t, (∃ mode, (move t mode c.params c.line).segment? = some g) ∨
      ∃ number, (drill t number c.params c.line).segment? = some g := by
  cases hc : c.head with
  | g code =>
    simp only [step, hc, stepG] at hg
    split at hg
    case h_1 mode _ =>
      refine ⟨s.withSpindleSpeed c.params, .inl ⟨mode, ?_⟩⟩
      split at hg <;> exact hg
    case h_6 number _ => exact ⟨_, .inr ⟨number, hg⟩⟩
    all_goals cases hg
  | modal =>
    simp only [step, hc, stepModal] at hg
    split at hg
    · exact ⟨_, .inl ⟨_, hg⟩⟩
    · cases hg
  | m code =>
    simp only [step, hc, stepM] at hg
    split at hg <;> cases hg
  | t code =>
    simp only [step, hc, stepT] at hg
    split at hg <;> cases hg

/-- A segment of the rapid kind is straight. -/
theorem straight_of_rapid (hg : (step count s c).segment? = some g) (hkind : g.kind = .rapid) :
    g.shape = .straight := by
  obtain ⟨t, ⟨mode, hmove⟩ | ⟨number, hdrill⟩⟩ := exists_move_or_drill hg
  · unfold move at hmove
    dsimp only at hmove
    split at hmove
    · cases hmove
    · cases hmove
      have hmode : mode = 0 := segmentKind_eq_rapid_iff.mp hkind
      subst hmode
      rfl
  · unfold drill at hdrill
    split at hdrill
    · dsimp only at hdrill
      split at hdrill
      · cases hdrill
      · cases hdrill
        cases hkind
    · cases hdrill

end

/-- The segments of a run whose moves are rapid are those of the rapid kind. -/
theorem runFrom_isRapid {commands : List Command} {count : Nat} {s : Modal} {g : Segment}
    (hg : g ∈ (runFrom count s commands).toolpath) : g.isRapid = decide (g.kind = .rapid) := by
  obtain ⟨i, hi⟩ := List.getElem?_of_mem hg
  obtain ⟨_, c, _, _, _, hgiven⟩ := exists_command_of_segment commands count s hi
  unfold Segment.isRapid
  split
  · rfl
  · rename_i hshape
    symm
    rw [decide_eq_false_iff_not]
    intro hkind
    exact hshape (straight_of_rapid hgiven hkind)

end Machining.Execution

namespace Machining.Machine

/-! ## One call -/

/-- The call is a move at rapid rate, or at the feed rate. -/
def Call.isMoveAt (rapid : Bool) : Call → Bool
  | .moveAxis _ _ r => r == rapid
  | _ => false

theorem Call.isMoveAt_of_not_move {call : Call} (h : call.isMove = false) (rapid : Bool) :
    call.isMoveAt rapid = false := by
  cases call with
  | moveAxis axis target r => cases h
  | _ => rfl

namespace Simulation

/-- The moves at rapid rate, or at the feed rate, that were counted. -/
def moves (rapid : Bool) (m : Simulation) : Nat := if rapid then m.rapidMoves else m.feedMoves

section

variable (m : Simulation)

theorem limits_after (call : Call) : (m.after call).limits = m.limits := by
  cases call <;> rfl

theorem position_after_moveAxis (axis : Axis) (target : Float) (rapid : Bool) :
    (m.after (.moveAxis axis target rapid)).position =
      m.position.set axis
        (Number.clip (m.limits.get axis).low (m.limits.get axis).high target) := rfl

theorem position_after {call : Call} (h : call.isMove = false) :
    (m.after call).position = m.position := by
  cases call with
  | moveAxis axis target rapid => cases h
  | _ => rfl

/-- Every move is counted once, by its rate. -/
theorem moves_after (rapid : Bool) (call : Call) :
    (m.after call).moves rapid = m.moves rapid + if call.isMoveAt rapid then 1 else 0 := by
  cases call with
  | moveAxis axis target r => cases r <;> cases rapid <;> rfl
  | _ => rfl

end

/-! ## Rows of calls -/

theorem limits_foldl_after (calls : List Call) (m : Simulation) :
    (calls.foldl after m).limits = m.limits := by
  induction calls generalizing m with
  | nil => rfl
  | cons call rest ih => exact (ih _).trans (limits_after m call)

theorem position_foldl_after {calls : List Call} (h : ∀ call ∈ calls, call.isMove = false)
    (m : Simulation) : (calls.foldl after m).position = m.position := by
  induction calls generalizing m with
  | nil => rfl
  | cons call rest ih =>
    have hrest : ∀ call' ∈ rest, call'.isMove = false :=
      fun call' hcall' => h call' (List.mem_cons_of_mem _ hcall')
    exact (ih hrest _).trans (position_after m (h call List.mem_cons_self))

/-- Of the axes, those that are moved stand where their targets lead. -/
theorem position_foldl_moves (target : PerAxis Float) (rapid : Bool) (axis : Axis) :
    ∀ (axes : List Axis) (m : Simulation), m.limits.InOrder →
      ((axes.map fun axis => Call.moveAxis axis (target.get axis) rapid).foldl after
          m).position.get axis =
        if axis ∈ axes then (m.limits.get axis).clamp (target.get axis)
        else m.position.get axis := by
  intro axes
  induction axes with
  | nil => intro m _; rfl
  | cons first rest ih =>
    intro m hlimits
    have hkept := limits_after m (.moveAxis first (target.get first) rapid)
    rw [List.map_cons, List.foldl_cons, ih _ (by rw [hkept]; exact hlimits), hkept,
      position_after_moveAxis, PerAxis.get_set]
    by_cases hrest : axis ∈ rest
    · rw [if_pos hrest, if_pos (List.mem_cons_of_mem _ hrest)]
    · rw [if_neg hrest]
      by_cases hfirst : axis = first
      · subst hfirst
        rw [if_pos rfl, if_pos List.mem_cons_self, Range.clip_eq_clamp (hlimits axis)]
      · have hnot : axis ∉ first :: rest := fun hmem =>
          (List.mem_cons.mp hmem).elim hfirst hrest
        rw [if_neg hfirst, if_neg hnot]

theorem moves_foldl_after (rapid : Bool) (calls : List Call) (m : Simulation) :
    (calls.foldl after m).moves rapid = m.moves rapid + calls.countP (Call.isMoveAt rapid) := by
  induction calls generalizing m with
  | nil => rfl
  | cons call rest ih =>
    rw [List.foldl_cons, ih, moves_after, List.countP_cons]
    omega

end Simulation

end Machining.Machine

namespace Machining.Playback

open Machining.Execution
open Machining.Geometry
open Machining.Machine
open Machining.Program
open Machining.Toolpath

/-! ## What a segment asks for -/

/-- The moves that a segment asks for. -/
inductive Asks (g : Segment) (calls : List Call) : Prop where
  | path (target : PerAxis Float) (kind : g.kind ≠ .drill)
      (finish : ∀ axis, g.finish.get? axis.name = some (target.get axis))
      (eq : calls = Axis.all.map fun axis =>
        .moveAxis axis (target.get axis) (decide (g.kind = .rapid)))
  | cycle (number : Int) (hole : AddressMap) (depth retract x y : Float)
      (kind : g.kind = .drill) (shape : g.shape = .drill number hole depth retract)
      (overX : hole.get? "x" = some x) (overY : hole.get? "y" = some y)
      (eq : calls = [.moveAxis .x x true, .moveAxis .y y true, .moveAxis .z retract true,
        .moveAxis .z depth false, .moveAxis .z retract true])

/-- Every axis of a position on the five axes has a number. -/
theorem exists_coordinates {position : AddressMap} (h : HasAxes position) :
    ∃ target : PerAxis Float,
      ∀ axis, position.get? axis.name = some (target.get axis) := by
  refine ⟨.ofFn fun axis => position.getD axis.name 0.0, ?_⟩
  intro axis
  obtain ⟨value, hvalue⟩ := h.exists_get axis
  rw [AddressMap.get_eq_ok_iff] at hvalue
  rw [PerAxis.get_ofFn, AddressMap.getD, hvalue]
  rfl

theorem asks_of_measurable {g : Segment} (h : IsMeasurable g)
    (hrapid : g.isRapid = decide (g.kind = .rapid)) (i : Nat) :
    Asks g (Item.segment i g).calls := by
  by_cases hkind : g.kind = .drill
  · obtain ⟨number, hole, depth, retract, hshape, ⟨x, hx⟩, ⟨y, hy⟩⟩ := h.hole hkind
    refine .cycle number hole depth retract x y hkind hshape
      (AddressMap.get_eq_ok_iff.mp hx) (AddressMap.get_eq_ok_iff.mp hy) ?_
    simp only [Item.calls, Item.cues, movePlan, hshape, drillPlan, hx, hy]
    rfl
  · obtain ⟨target, htarget⟩ := exists_coordinates h.finish
    refine .path target hkind htarget ?_
    have hplan : movePlan g = { cues := axisMoves g } := by
      unfold movePlan
      split
      · rename_i hshape
        exact absurd hshape (h.path hkind _ _ _ _)
      · rfl
    simp only [Item.calls, Item.cues, hplan, axisMoves, htarget, hrapid]
    rfl

/-- The moves at rapid rate, or at the feed rate, that a segment of a kind asks for. -/
def movesOf (rapid : Bool) : SegmentKind → Nat
  | .rapid => if rapid then 5 else 0
  | .drill => if rapid then 4 else 1
  | _ => if rapid then 0 else 5

theorem Asks.countP {g : Segment} {calls : List Call} (h : Asks g calls) (rapid : Bool) :
    calls.countP (Call.isMoveAt rapid) = movesOf rapid g.kind := by
  cases h with
  | path target kind finish eq =>
    rw [eq]
    cases hkind : g.kind with
    | drill => exact absurd hkind kind
    | _ => cases rapid <;> rfl
  | cycle number hole depth retract x y kind shape overX overY eq =>
    rw [eq, kind]
    cases rapid <;> rfl

/-- The positions of a machine before and after it has played a segment.  A straight path
or an arc leads to its end on every axis, as far as the travel allows; a drilling cycle
leads over the hole at the retract height, and leaves the rotary axes alone. -/
structure PlaysTo (limits : TravelLimits) (g : Segment) (before after : PerAxis Float) :
    Prop where
  path : g.kind ≠ .drill → ∀ axis, ∃ target, g.finish.get? axis.name = some target ∧
    after.get axis = (limits.get axis).clamp target
  cycle : g.kind = .drill → ∃ number hole depth retract x y,
    g.shape = .drill number hole depth retract ∧
    hole.get? "x" = some x ∧ hole.get? "y" = some y ∧
    after =
      { x := limits.x.clamp x
        y := limits.y.clamp y
        z := limits.z.clamp retract
        a := before.a
        b := before.b }

theorem Asks.playsTo {g : Segment} {calls : List Call} (h : Asks g calls) (m : Simulation)
    (hlimits : m.limits.InOrder) :
    PlaysTo m.limits g m.position (calls.foldl Simulation.after m).position := by
  cases h with
  | path target kind finish eq =>
    refine ⟨fun _ axis => ⟨target.get axis, finish axis, ?_⟩, fun hkind => absurd hkind kind⟩
    rw [eq, Simulation.position_foldl_moves target _ axis Axis.all m hlimits,
      if_pos (Axis.mem_all axis)]
  | cycle number hole depth retract x y kind shape overX overY eq =>
    refine ⟨fun hkind => absurd kind hkind, fun _ =>
      ⟨number, hole, depth, retract, x, y, shape, overX, overY, ?_⟩⟩
    have hx := Range.clip_eq_clamp (hlimits .x) x
    have hy := Range.clip_eq_clamp (hlimits .y) y
    have hz := Range.clip_eq_clamp (hlimits .z) retract
    simp only [eq, List.foldl_cons, List.foldl_nil, Simulation.position_after_moveAxis,
      Simulation.limits_after, hx, hy, hz]
    rfl

/-! ## What a row of segments asks for -/

/-- The moves at rapid rate, or at the feed rate, that segments ask for. -/
def movesAsked (rapid : Bool) (segments : List Segment) : Nat :=
  let count (kind : SegmentKind) := segments.countP fun g => g.kind = kind
  if rapid then 5 * count .rapid + 4 * count .drill
  else
    5 * (count .linear + (count .clockwiseArc + count .counterclockwiseArc)) + count .drill

theorem movesAsked_cons (rapid : Bool) (g : Segment) (rest : List Segment) :
    movesAsked rapid (g :: rest) = movesOf rapid g.kind + movesAsked rapid rest := by
  unfold movesAsked
  simp only [List.countP_cons]
  cases rapid <;> cases g.kind <;> simp [movesOf] <;> omega

namespace Schedule

variable (p : Schedule)

theorem countP_itemsAt (rapid : Bool) (i : Nat) :
    (itemCalls (p.itemsAt i)).countP (Call.isMoveAt rapid) = 0 := by
  rw [List.countP_eq_zero]
  intro call hcall
  rw [Call.isMoveAt_of_not_move (isMove_of_itemsAt p i call hcall)]
  exact Bool.false_ne_true

/-- The moves of segments, by their rate; the directives between them ask for none. -/
theorem countP_itemsAhead (rapid : Bool) :
    ∀ (segments : List Segment) (i : Nat),
      (∀ g ∈ segments, ∀ i, Asks g (Item.segment i g).calls) →
        (itemCalls (p.itemsAhead i segments)).countP (Call.isMoveAt rapid) =
          movesAsked rapid segments := by
  intro segments
  induction segments with
  | nil => intro i _; cases rapid <;> rfl
  | cons g rest ih =>
    intro i h
    have hfirst := (h g List.mem_cons_self i).countP rapid
    have hrest := ih (i + 1) fun g' hg' => h g' (List.mem_cons_of_mem _ hg')
    have hitems : p.itemsAhead i (g :: rest) =
        (p.itemsAt i ++ [Item.segment i g]) ++ p.itemsAhead (i + 1) rest :=
      List.append_cons ..
    have hsegment : itemCalls [Item.segment i g] = (Item.segment i g).calls :=
      List.flatMap_singleton ..
    rw [hitems, itemCalls_append, itemCalls_append, List.countP_append, List.countP_append,
      countP_itemsAt, hsegment, hfirst, hrest, Nat.zero_add, movesAsked_cons]

end Schedule

/-! ## Stepping -/

/-- A new simulated machine after segments that are played from the first on. -/
def Schedule.machineAfter (p : Schedule) (limits : TravelLimits) (segments : List Segment) :
    Simulation :=
  (itemCalls (p.itemsAhead 0 segments)).foldl Simulation.after { limits := limits }

theorem Schedule.limits_machineAfter (p : Schedule) (limits : TravelLimits)
    (segments : List Segment) : (p.machineAfter limits segments).limits = limits :=
  Simulation.limits_foldl_after _ _

namespace IsFresh

variable {settings : Settings} {s : Session} {job : Job} {limits : TravelLimits}

theorem asks (h : IsFresh settings s job limits) :
    ∀ g ∈ job.toolpath, ∀ i, Asks g (Item.segment i g).calls := by
  rw [h.executed.1]
  intro g hg
  exact asks_of_measurable (runFrom_measurable zeroPosition_hasAxes g hg) (runFrom_isRapid hg)

theorem start_forwards_machine (h : IsFresh settings s job limits) {k : Nat}
    (hk : k ≤ job.toolpath.length) :
    (s.operateAll settings (.start :: List.replicate k .forward)).session.machine =
      .simulated (s.schedule.machineAfter limits (job.toolpath.take k)) := by
  rw [Session.start_forwards settings h.held h.playable hk, h.machine]
  exact s.schedule.playRow_simulated s.renderer _ 0 _

theorem moves_machineAfter (h : IsFresh settings s job limits) (rapid : Bool) (k : Nat) :
    (s.schedule.machineAfter limits (job.toolpath.take k)).moves rapid =
      movesAsked rapid (job.toolpath.take k) := by
  have hasks : ∀ g ∈ job.toolpath.take k, ∀ i, Asks g (Item.segment i g).calls :=
    fun g hg => h.asks g (List.mem_of_mem_take hg)
  have hnone : Simulation.moves rapid { limits := limits } = 0 := by cases rapid <;> rfl
  rw [Schedule.machineAfter, Simulation.moves_foldl_after,
    Schedule.countP_itemsAhead _ _ _ _ hasks, hnone, Nat.zero_add]

/-- One segment more is its directives, which leave the position alone, and its moves. -/
theorem machineAfter_playsTo (h : IsFresh settings s job limits) (hlimits : limits.InOrder)
    {i : Nat} {g : Segment} (hg : job.toolpath[i]? = some g) :
    PlaysTo limits g (s.schedule.machineAfter limits (job.toolpath.take i)).position
      (s.schedule.machineAfter limits (job.toolpath.take (i + 1))).position := by
  have hi : i < job.toolpath.length := (List.getElem?_eq_some_iff.mp hg).1
  have hitems : s.schedule.itemsAhead 0 (job.toolpath.take (i + 1)) =
      s.schedule.itemsAhead 0 (job.toolpath.take i) ++
        (s.schedule.itemsAt i ++ [Item.segment i g]) := by
    rw [List.take_add_one, hg, Option.toList_some, Schedule.itemsAhead_append,
      List.length_take_of_le (Nat.le_of_lt hi), Nat.zero_add]
    rfl
  have hsegment : itemCalls [Item.segment i g] = (Item.segment i g).calls :=
    List.flatMap_singleton ..
  -- The machine between the directives and the moves.
  obtain ⟨ready, hready⟩ : ∃ ready, (itemCalls (s.schedule.itemsAt i)).foldl Simulation.after
      (s.schedule.machineAfter limits (job.toolpath.take i)) = ready := ⟨_, rfl⟩
  have hkept : ready.limits = limits := by
    rw [← hready, Simulation.limits_foldl_after, Schedule.limits_machineAfter]
  have hposition : ready.position =
      (s.schedule.machineAfter limits (job.toolpath.take i)).position := by
    rw [← hready]
    exact Simulation.position_foldl_after (isMove_of_itemsAt s.schedule i) _
  have hafter : s.schedule.machineAfter limits (job.toolpath.take (i + 1)) =
      (Item.segment i g).calls.foldl Simulation.after ready := by
    rw [Schedule.machineAfter, hitems, itemCalls_append, itemCalls_append, hsegment,
      List.foldl_append, List.foldl_append, ← hready]
    rfl
  have hplays := (h.asks g (List.mem_of_getElem? hg) i).playsTo ready (hkept ▸ hlimits)
  rw [hkept, hposition, ← hafter] at hplays
  exact hplays

end IsFresh

/-- A program loaded for a new simulated machine with limits in order can be stepped
through as many times as it has segments.  After any number of such steps the machine has
counted five moves for every straight path and every arc, at rapid rate for the rapid
ones, and four rapid moves and one feed move for every drilling cycle.  Every step brings
it to the end of the segment, as far as the travel allows, or over the hole of a cycle. -/
theorem stepping_positions_machine {settings : Settings} {s : Session} {text : String}
    {check : LineCheck} {job : Job} {limits : TravelLimits}
    (hmachine : s.machine = .simulated { limits := limits }) (hlimits : limits.InOrder)
    (haccepted : (s.load settings text check).answer = .ok (.accepted job)) :
    let loaded := (s.load settings text check).session
    let steps (k : Nat) := loaded.operateAll settings (.start :: List.replicate k .forward)
    let count (k : Nat) (kind : SegmentKind) :=
      (job.toolpath.take k).countP fun g => g.kind = kind
    (∀ k, (steps k).answer = .done true :: List.replicate k (.stepped (.ok true)) ↔
      k ≤ job.toolpath.length) ∧
    (∀ k, k ≤ job.toolpath.length → ∃ m, (steps k).session.machine = .simulated m ∧
      m.rapidMoves = 5 * count k .rapid + 4 * count k .drill ∧
      m.feedMoves =
        5 * (count k .linear + (count k .clockwiseArc + count k .counterclockwiseArc)) +
          count k .drill) ∧
    ∀ i g, job.toolpath[i]? = some g →
      ∃ before after, (steps i).session.machine = .simulated before ∧
        (steps (i + 1)).session.machine = .simulated after ∧
        PlaysTo limits g before.position after.position := by
  obtain ⟨_, hfresh⟩ := Session.load_isFresh hmachine haccepted
  intro loaded steps count
  refine ⟨?_, ?_, ?_⟩
  · intro k
    exact Session.start_forwards_answer_iff settings hfresh.held hfresh.playable k
  · intro k hk
    exact ⟨_, hfresh.start_forwards_machine hk, hfresh.moves_machineAfter true k,
      hfresh.moves_machineAfter false k⟩
  · intro i g hg
    have hi : i < job.toolpath.length := (List.getElem?_eq_some_iff.mp hg).1
    exact ⟨_, _, hfresh.start_forwards_machine (Nat.le_of_lt hi),
      hfresh.start_forwards_machine hi, hfresh.machineAfter_playsTo hlimits hg⟩

/-- A program with all kinds of segments that leaves the travel, and whose cycle has its
hole to the side of the tool. -/
theorem stepping_positions_machine_within_travel :
    let text := "G0 X700 A-3\nM3 S100\nG1 X10 Z-4 F600\nG81 X3 Y900 Z-1 R2\nG2 X5 I1\nT2\nY7"
    let s : Session := { machine := .simulated { limits := defaultTravel } }
    let job := jobOf .standard text acceptAll
    let loaded := (s.load .standard text).session
    s.machine = .simulated { limits := defaultTravel } ∧ TravelLimits.InOrder defaultTravel ∧
      (s.load .standard text).answer = .ok (.accepted job) ∧
      (∃ m,
        (loaded.operateAll .standard (.start :: List.replicate 5 .forward)).session.machine =
          .simulated m ∧ m.rapidMoves = 9 ∧ m.feedMoves = 16) ∧
      ∃ before after,
        (loaded.operateAll .standard (.start :: List.replicate 2 .forward)).session.machine =
          .simulated before ∧
        (loaded.operateAll .standard (.start :: List.replicate 3 .forward)).session.machine =
          .simulated after ∧
        after.position =
          { x := 3.0, y := 400.0, z := 2.0, a := before.position.a, b := before.position.b } := by
  intro text s job loaded
  have hlimits : TravelLimits.InOrder defaultTravel := by
    intro axis
    cases axis <;> decide
  have haccepted : (s.load .standard text).answer = .ok (.accepted job) :=
    (load_accepted_iff .standard s text acceptAll).mpr (by decide +kernel)
  have hcounts : (5 ≤ job.toolpath.length) ∧
      SegmentKind.all.map (fun kind => (job.toolpath.take 5).countP fun g => g.kind = kind) =
        [1, 1, 2, 0, 1] := by decide +kernel
  have hcycle : (job.toolpath[2]?.map fun g => (g.kind, g.shape)) =
      some (.drill, .drill 81 ⟨[("x", 3.0), ("y", 900.0)]⟩ (-1.0) 2.0) := by decide +kernel
  obtain ⟨_, hmoves, hplays⟩ := stepping_positions_machine (s := s) rfl hlimits haccepted
  refine ⟨rfl, hlimits, haccepted, ?_, ?_⟩
  · obtain ⟨hlength, hkinds⟩ := hcounts
    obtain ⟨m, hm, hrapid, hfeed⟩ := hmoves 5 hlength
    simp only [SegmentKind.all, List.map_cons, List.map_nil, List.cons.injEq, and_true] at hkinds
    obtain ⟨hr, hl, hcw, hccw, hd⟩ := hkinds
    simp only [hr, hl, hcw, hccw, hd] at hrapid hfeed
    exact ⟨m, hm, hrapid, hfeed⟩
  · obtain ⟨g, hg, hboth⟩ := Option.map_eq_some_iff.mp hcycle
    obtain ⟨hkind, hshape⟩ := Prod.mk.inj hboth
    obtain ⟨before, after, hbefore, hafter, hto⟩ := hplays 2 g hg
    obtain ⟨_, _, _, _, x, y, hshape', hx, hy, hposition⟩ := hto.cycle hkind
    cases hshape.symm.trans hshape'
    cases hx
    cases hy
    have hclamped : defaultTravel.x.clamp 3.0 = 3.0 ∧ defaultTravel.y.clamp 900.0 = 400.0 ∧
        defaultTravel.z.clamp 2.0 = 2.0 := by decide +kernel
    obtain ⟨hx, hy, hz⟩ := hclamped
    rw [hx, hy, hz] at hposition
    exact ⟨before, after, hbefore, hafter, hposition⟩

end Machining.Playback
