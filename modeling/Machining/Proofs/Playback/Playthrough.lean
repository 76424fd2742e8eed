import Machining.Proofs.Playback.Invariant
set_option autoImplicit false

/-!
# Playing a program from start to end

A recording machine shows what playback asked of it.  From the start of a loaded
program, steps forward make exactly the calls of its items in the order of the
program's lines, and then stop the spindle.
-/

namespace Machining

open Machining.Machine
open Machining.Playback

/-! ## Views of a journal -/

/-- The machine call of an entry. -/
def Entry.call? : Entry → Option Call
  | .event (.machine k) => some k
  | _ => none

/-- The cue that left an entry: a machine call, or a record of playing. -/
def Entry.cue? : Entry → Option Cue
  | .event (.machine k) => some (.call k)
  | .event (.renderer _) => none
  | .record r => if r.source = .playback then some (.note r) else none

namespace Journal

/-- The machine calls of a journal. -/
def calls (j : Journal) : List Call := j.filterMap Entry.call?

/-- The cues that were performed. -/
def cues (j : Journal) : List Cue := j.filterMap Entry.cue?

@[simp] theorem cues_append (i j : Journal) : cues (i ++ j) = cues i ++ cues j :=
  List.filterMap_append

end Journal

end Machining

namespace Machining.Playback

open Machining.Execution
open Machining.Machine
open Machining.Program
open Machining.Toolpath

namespace Cue

/-- The machine call of a cue. -/
def call? : Cue → Option Call
  | call k => some k
  | note _ => none

/-- A call, or a record that playing leaves. -/
def IsPlayed : Cue → Prop
  | call _ => True
  | note r => r.source = .playback

end Cue

/-- The machine calls of a journal are those of its cues. -/
theorem calls_eq_filterMap_cues (j : Journal) :
    j.calls = j.cues.filterMap Cue.call? := by
  unfold Journal.calls Journal.cues
  rw [List.filterMap_filterMap]
  congr 1
  funext e
  match e with
  | .event (.machine k) => rfl
  | .event (.renderer k) => rfl
  | .record r =>
    simp only [Entry.call?, Entry.cue?]
    split <;> rfl

namespace Item

/-- What playing an item asks of an attached machine, with the records of it. -/
def cues : Item → List Cue
  | directive a => directiveCues true a
  | segment i g =>
    playNote .trace
      (s!"Executing segment {(i : Int)}: " ++ g.kind.name ++ s!" (line {g.line})") ::
        (movePlan g).cues

/-- The machine calls of an item. -/
def calls (item : Item) : List Call := item.cues.filterMap Cue.call?

end Item

/-! ## Cues of the plans -/

theorem isPlayed_effectCue (e : Effect) : (effectCue e).IsPlayed := by
  cases e <;> trivial

theorem isPlayed_directiveCues (present : Bool) (a : Directive) :
    ∀ cue ∈ directiveCues present a, cue.IsPlayed := by
  intro cue hcue
  rcases List.mem_cons.mp hcue with rfl | heffect
  · rfl
  · split at heffect
    · rw [List.mem_singleton] at heffect
      exact heffect ▸ isPlayed_effectCue a.effect
    · cases heffect

/-- The plan of the moves of a segment has nothing but moves. -/
theorem eq_moveAxis_of_mem_movePlan {g : Segment} {cue : Cue}
    (h : cue ∈ (movePlan g).cues) :
    ∃ axis target rapid, cue = .call (.moveAxis axis target rapid) := by
  unfold movePlan at h
  split at h
  · unfold drillPlan at h
    split at h
    · cases h
    · dsimp only at h
      split at h
      · exact ⟨_, _, _, List.mem_singleton.mp h⟩
      · simp only [List.mem_cons, List.not_mem_nil, or_false] at h
        rcases h with rfl | rfl | rfl | rfl | rfl <;> exact ⟨_, _, _, rfl⟩
  · obtain ⟨axis, _, hmove⟩ := List.mem_filterMap.mp h
    obtain ⟨target, _, rfl⟩ := Option.map_eq_some_iff.mp hmove
    exact ⟨axis, target, g.isRapid, rfl⟩

theorem isPlayed_movePlan (g : Segment) :
    ∀ cue ∈ (movePlan g).cues, cue.IsPlayed := by
  intro cue hcue
  obtain ⟨axis, target, rapid, rfl⟩ := eq_moveAxis_of_mem_movePlan hcue
  trivial

theorem isPlayed_cues (item : Item) : ∀ cue ∈ item.cues, cue.IsPlayed := by
  cases item with
  | directive a => exact isPlayed_directiveCues true a
  | segment i g =>
    intro cue hcue
    rcases List.mem_cons.mp hcue with rfl | hmove
    · rfl
    · exact isPlayed_movePlan g cue hmove

theorem flatMap_cues_itemsAt (p : Schedule) (i : Nat) :
    (p.itemsAt i).flatMap Item.cues = p.directiveCuesAt true i :=
  List.flatMap_map ..

theorem plan_cues (p : Schedule) (i : Nat) (g : Segment) :
    (p.plan true i g).cues =
      (p.itemsAt i).flatMap Item.cues ++ (Item.segment i g).cues := by
  rw [flatMap_cues_itemsAt]
  simp only [Schedule.plan, Item.cues, if_true, List.append_assoc, List.cons_append,
    List.nil_append]

/-! ## What a recording machine shows -/

/-- A recording machine shows every cue. -/
theorem performFrom_recorder : ∀ (cues : List Cue) (reached : AddressMap),
    (∀ cue ∈ cues, cue.IsPlayed) →
      (performFrom (.recorder true) reached cues).journal.cues = cues := by
  intro cues
  induction cues with
  | nil => intro reached _; rfl
  | cons cue rest ih =>
    intro reached hplayed
    have hrest : ∀ cue ∈ rest, cue.IsPlayed := by
      intro cue hcue
      exact hplayed cue (List.mem_cons_of_mem _ hcue)
    cases cue with
    | note r =>
      have hsource : r.source = .playback := hplayed _ List.mem_cons_self
      simp only [performFrom, Journal.cues, List.filterMap_cons, Entry.cue?, hsource,
        if_true]
      exact congrArg _ (ih reached hrest)
    | call k =>
      have hsees : Attachment.sees true k = true := by cases k <;> rfl
      simp only [performFrom, Attachment.perform, hsees, if_true, Journal.cues_append]
      exact congrArg _ (ih (Attachment.directReach k reached) hrest)

theorem isPlayed_flatMap (items : List Item) :
    ∀ cue ∈ items.flatMap Item.cues, cue.IsPlayed := by
  intro cue hcue
  obtain ⟨item, _, hmem⟩ := List.mem_flatMap.mp hcue
  exact isPlayed_cues item cue hmem

theorem cues_tell (r : Renderer) (call : RendererCall) : (r.tell call).cues = [] := by
  unfold Renderer.tell
  split
  · rfl
  · split <;> rfl

namespace Schedule

variable (p : Schedule) (r : Renderer)

/-- Playing a segment performs its directives and then the segment. -/
theorem play_recorder (i : Nat) (g : Segment) :
    (p.play (.recorder true) i g).1.journal.cues =
      (p.itemsAt i ++ [Item.segment i g]).flatMap Item.cues := by
  have hcues : (p.plan true i g).cues =
      (p.itemsAt i ++ [Item.segment i g]).flatMap Item.cues := by
    rw [plan_cues, List.flatMap_append, List.flatMap_singleton]
  have hplayed : ∀ cue ∈ (p.plan true i g).cues, cue.IsPlayed := by
    rw [hcues]
    exact isPlayed_flatMap _
  exact (performFrom_recorder _ {} hplayed).trans hcues

/-- Ending a program performs the directives after the last segment and stops the
spindle. -/
theorem close_recorder :
    (p.close (.recorder true)).2.cues =
      (p.itemsAt p.segmentCount).flatMap Item.cues ++ [.call .stopSpindle] := by
  have hcues := flatMap_cues_itemsAt p p.segmentCount
  have hplayed : ∀ cue ∈ p.directiveCuesAt true p.segmentCount, cue.IsPlayed := by
    rw [← hcues]
    exact isPlayed_flatMap _
  have hfinish : (p.finish (.recorder true)).journal.cues =
      (p.itemsAt p.segmentCount).flatMap Item.cues :=
    (performFrom_recorder _ {} hplayed).trans hcues.symm
  rw [close_recorder_journal]
  show ((p.finish (.recorder true)).journal ++ _).cues = _
  rw [Journal.cues_append, hfinish]
  rfl

/-- A row of segments and the end of the program perform the items from there on. -/
theorem playRow_close_recorder : ∀ (segments : List Segment) (i : Nat),
    p.segmentCount = i + segments.length →
      (p.playRow r (.recorder true) i segments).2.cues ++
          (p.close (.recorder true)).2.cues =
        (p.itemsFrom i segments).flatMap Item.cues ++ [.call .stopSpindle] := by
  intro segments
  induction segments with
  | nil =>
    intro i hcount
    rw [p.close_recorder, hcount]
    rfl
  | cons g rest ih =>
    intro i hcount
    have hnext : p.segmentCount = i + 1 + rest.length := by
      rw [hcount, List.length_cons]
      omega
    simp only [playRow, play_machine]
    rw [Journal.cues_append, Journal.cues_append, p.play_recorder i g, cues_tell,
      List.append_nil, List.append_assoc, ih (i + 1) hnext]
    simp only [itemsFrom, List.flatMap_append, List.flatMap_cons, List.flatMap_nil,
      List.append_assoc, List.append_nil]

end Schedule

/-! ## From start to end -/

section

variable {settings : Settings} {s : Session} {job : Job}

/-- Start, a step forward for every segment and one step more: the answers, and the
cues performed. -/
theorem start_forwards_recorder (h : IsLoaded settings s job)
    (hmachine : s.machine = .recorder true) :
    let n := job.toolpath.length
    let turn := s.operateAll settings (.start :: List.replicate (n + 1) .forward)
    turn.answer = .done true ::
        (List.replicate n (.stepped (.ok true)) ++ [.stepped (.ok false)]) ∧
      turn.journal.cues =
        (s.schedule.itemsFrom 0 job.toolpath).flatMap Item.cues ++
          [.call .stopSpindle] := by
  have hcount : s.schedule.segmentCount = 0 + job.toolpath.length := by
    rw [h.schedule, Nat.zero_add]
  have hcues := s.schedule.playRow_close_recorder s.renderer job.toolpath 0 hcount
  have hturn := Session.start_forwards_to_end settings h.held h.playable
  simp only [hmachine, Schedule.playRow_machine] at hturn
  simp only [hturn]
  refine ⟨trivial, ?_⟩
  rw [← hcues, ← Journal.cues_append]
  rfl

/-- What the items of a loaded job are: all that execution recorded, in the order of
the lines. -/
theorem order_of_isLoaded (h : IsLoaded settings s job) :
    let order :=
      Schedule.itemsFrom ⟨job.directives, job.toolpath.length⟩ 0 job.toolpath
    order.filterMap Item.directive? = job.directives ∧
      order.filterMap Item.segment? = job.toolpath ∧
      (order.map Item.line).Pairwise (· < ·) := by
  obtain ⟨text, check, rfl⟩ := h.origin
  intro order
  have horder : order = emitted 0 {} (readText text check).1.commands :=
    itemsFrom_runFrom _ (readText text check).1.commands 0 {}
  rw [horder]
  exact ⟨filterMap_directive?_emitted _ 0 {}, filterMap_segment?_emitted _ 0 {},
    lines_emitted_increasing text check {}⟩

/-- From the start of a loaded program, as many steps forward as it has segments all
play one, and the next one ends the program.  The calls meanwhile are those of the
directives and the segments, each directive before the segment that it is anchored
to, and then one spindle stop.  The items so played are what execution recorded, all
of it and in recorded order, and their program lines strictly increase. -/
theorem start_forwards_play_program (h : Reachable settings s)
    (hjob : s.job = some job) (hmachine : s.machine = .recorder true) :
    let n := job.toolpath.length
    let order := Schedule.itemsFrom ⟨job.directives, n⟩ 0 job.toolpath
    let turn := s.operateAll settings (.start :: List.replicate (n + 1) .forward)
    turn.answer =
        .done true ::
          (List.replicate n (.stepped (.ok true)) ++ [.stepped (.ok false)]) ∧
      turn.journal.calls = order.flatMap Item.calls ++ [.stopSpindle] ∧
      turn.journal.cues = order.flatMap Item.cues ++ [.call .stopSpindle] ∧
      job.toolpath = (run {} job.commands).toolpath ∧
      job.directives = (run {} job.commands).directives ∧
      order.filterMap Item.directive? = job.directives ∧
      order.filterMap Item.segment? = job.toolpath ∧
      (order.map Item.line).Pairwise (· < ·) := by
  have hloaded := h.consistent.isLoaded hjob
  obtain ⟨hanswer, hcues⟩ := start_forwards_recorder hloaded hmachine
  obtain ⟨htoolpath, hdirectives⟩ := hloaded.executed
  obtain ⟨hall, hsegments, hlines⟩ := order_of_isLoaded hloaded
  rw [hloaded.schedule] at hcues
  intro n order turn
  have hcalls : turn.journal.calls = order.flatMap Item.calls ++ [.stopSpindle] := by
    rw [calls_eq_filterMap_cues, hcues, List.filterMap_append, List.filterMap_flatMap]
    rfl
  exact ⟨hanswer, hcalls, hcues, htoolpath, hdirectives, hall, hsegments, hlines⟩

/-- A program with directives at both ends, started anew after it was played in part
and held. -/
theorem start_forwards_play_program_after_pause :
    let text := "M3 S100\nG1 X10 F600\nT2\nG81 Z-1\nG81 X1 Y1 Z-2 R1\nM5\nM30"
    let history := [.load text acceptAll, .start, .forward, .pause]
    let fresh : Session := { machine := .recorder true }
    let s := (fresh.operateAll .standard history).session
    let job := (Session.prepare .standard (readText text).1.commands).1
    Reachable .standard s ∧ s.job = some job ∧ s.machine = .recorder true ∧
      job.toolpath.length = 2 ∧
      (s.operateAll .standard
        (.start :: List.replicate (job.toolpath.length + 1) .forward)).journal.calls =
        [.setSpindle 100.0 1, .moveAxis .x 10.0 false, .moveAxis .y 0.0 false,
          .moveAxis .z 0.0 false, .moveAxis .a 0.0 false, .moveAxis .b 0.0 false,
          .changeTool 2, .moveAxis .x 1.0 true, .moveAxis .y 1.0 true,
          .moveAxis .z 1.0 true, .moveAxis .z (-2.0) false, .moveAxis .z 1.0 true,
          .stopSpindle, .stopSpindle] := by
  intro text history fresh s job
  have hreachable : Reachable .standard s :=
    (Reachable.new (.recorder true) .absent).operateAll history (by decide +kernel)
  have hstate : s.job = some job ∧ s.machine = .recorder true ∧
      job.toolpath.length = 2 := by decide +kernel
  obtain ⟨hjob, hmachine, hlength⟩ := hstate
  refine ⟨hreachable, hjob, hmachine, hlength, ?_⟩
  rw [(start_forwards_play_program hreachable hjob hmachine).2.1]
  decide +kernel

end

end Machining.Playback
