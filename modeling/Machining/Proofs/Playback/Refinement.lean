import Mathlib.Algebra.GroupWithZero.Nat
import Machining.Proofs.Playback.Timing
set_option autoImplicit false

/-!
# Timed playback refines stepping

Advances in time, pauses and changes of the speed split a program's playback in
whatever way they come.  What they make happen is always the beginning of what single
steps make happen, segment by segment, and it is all of that as soon as the session
has stopped.
-/

namespace Machining

/-- The index of the segment that a renderer is shown. -/
def Event.shown? : Event → Option Nat
  | .renderer (.setCurrentSegment i) => some i
  | _ => none

/-- The indices of the segments shown in a journal. -/
def Journal.shown (j : Journal) : List Nat := j.events.filterMap Event.shown?

@[simp] theorem Journal.shown_append (i j : Journal) :
    shown (i ++ j) = shown i ++ shown j := by
  simp only [shown, events_append, List.filterMap_append]

end Machining

namespace Machining.Playback

open Machining.Machine
open Machining.Program
open Machining.Toolpath

/-- The operations that let time pass, hold playback or change its speed. -/
def Operation.isTiming : Operation → Bool
  | .advance _ | .pause | .resume | .setSpeed _ => true
  | _ => false

/-! ## What a recording machine and renderer see -/

/-- A recording machine shows no segments. -/
theorem performFrom_shown {b : Bool} : ∀ (cues : List Cue) (reached : AddressMap),
    (performFrom (.recorder b) reached cues).journal.shown = [] := by
  intro cues
  induction cues with
  | nil => intro reached; rfl
  | cons cue rest ih =>
    intro reached
    cases cue with
    | note r => exact ih reached
    | call k =>
      simp only [performFrom, Attachment.perform, Journal.shown_append]
      rw [ih, List.append_nil]
      split <;> rfl

/-- A row of segments is shown segment by segment. -/
theorem Schedule.playRow_shown (p : Schedule) {b c : Bool} :
    ∀ (segments : List Segment) (i : Nat),
      (p.playRow (.recorder c) (.recorder b) i segments).2.shown =
        List.range' i segments.length := by
  intro segments
  induction segments with
  | nil => intro i; rfl
  | cons g rest ih =>
    intro i
    have hplay : (p.play (.recorder b) i g).1.journal.shown = [] :=
      performFrom_shown _ {}
    simp only [playRow, play_machine]
    rw [Journal.shown_append, Journal.shown_append, hplay, ih (i + 1), List.length_cons,
      List.range'_succ]
    rfl

namespace Session

variable {s : Session} {hasToolChanger canHide : Bool}

theorem row_shown (hmachine : s.machine = .recorder hasToolChanger)
    (hrenderer : s.renderer = .recorder canHide) (segments : List Segment) :
    (s.row segments).2.shown = List.range' s.cursor segments.length := by
  unfold row
  rw [hmachine, hrenderer, Schedule.playRow_shown]

/-- The end of the program shows no further segment. -/
theorem finale_shown (hmachine : s.machine = .recorder hasToolChanger)
    (hrenderer : s.renderer = .recorder canHide) (segments : List Segment) :
    (s.finale segments).2.shown = List.range' s.cursor segments.length := by
  have hfinish : (s.schedule.finish (.recorder hasToolChanger)).journal.shown = [] :=
    performFrom_shown _ {}
  have hclose : (s.schedule.close (.recorder hasToolChanger)).2.shown = [] := by
    rw [Schedule.close_recorder_journal]
    show Journal.shown (Performed.journal _ ++ _) = []
    rw [Journal.shown_append, hfinish]
    rfl
  have hrow : (s.row segments).1 = .recorder hasToolChanger := by
    unfold row
    rw [hmachine, Schedule.playRow_machine]
  simp only [finale, hrow, Journal.shown_append, hclose, List.append_nil]
  exact row_shown hmachine hrenderer segments

/-- The end of the program is not silent: the spindle is stopped. -/
theorem finale_events_ne_nil (hmachine : s.machine = .recorder hasToolChanger)
    (segments : List Segment) : (s.finale segments).2.events ≠ [] := by
  have hrow : (s.row segments).1 = .recorder hasToolChanger := by
    unfold row
    rw [hmachine, Schedule.playRow_machine]
  have hclose : (s.schedule.close (.recorder hasToolChanger)).2.events ≠ [] := by
    rw [Schedule.close_recorder_journal]
    show Journal.events (Performed.journal _ ++ _) ≠ []
    rw [Journal.events_append]
    exact List.append_ne_nil_of_right_ne_nil _ (List.cons_ne_nil _ _)
  simp only [finale, hrow, Journal.events_append]
  exact List.append_ne_nil_of_right_ne_nil _ hclose

end Session

/-! ## How far playback has come -/

/-- Where a session that was running in `s` can be after `k` more segments, with what
has happened: on its way with these segments played, or stopped after all segments
ahead and the end of the program. -/
inductive Progress (s : Session) (ahead : List Segment) (k : Nat) (t : Session)
    (events : List Event) : Prop where
  | underway (mode : Mode) (elapsed speed : Float)
      (isRunning : mode = .running ∨ mode = .paused) (within : k ≤ ahead.length)
      (session : t =
        { s.reached ahead k with mode := mode, elapsed := elapsed, speed := speed })
      (journal : events = (s.row (ahead.take k)).2.events)
  | ended (all : k = ahead.length) (stopped : t.mode = .stopped)
      (journal : events = (s.finale ahead).2.events)

section

variable {settings : Settings} {s t : Session} {job : Job} {k : Nat}
  {events : List Event}

namespace Progress

variable {ahead : List Segment}

/-- What a greedy loop adds to the first `k` segments. -/
theorem of_greedy {mode : Mode} {elapsed speed : Float} {n : Nat}
    {turn : Turn (Except Fault Nat)} (hmode : mode = .running ∨ mode = .paused)
    (hk : k ≤ ahead.length)
    (h : Session.Greedy
      { s.reached ahead k with mode := mode, elapsed := elapsed, speed := speed }
      (ahead.drop k) turn n) :
    Progress s ahead (k + n) turn.session
      ((s.row (ahead.take k)).2.events ++ turn.journal.events) := by
  cases h with
  | short more covered short eq =>
    have htake : ((ahead.drop k).take n).length = n :=
      List.length_take_of_le (Nat.le_of_lt more)
    rw [List.length_drop] at more
    have hrow := s.row_take_append hk ((ahead.drop k).take n)
    rw [← List.take_add] at hrow
    have hindex : s.cursor + k + n = s.cursor + (k + n) := Nat.add_assoc _ _ _
    rw [eq]
    refine .underway mode (timeLeft s.durations (s.cursor + k) elapsed n) speed hmode
      (by omega) ?_ ?_
    · simp only [Session.playOn, Session.reached, hrow, htake, hindex]
      rfl
    · rw [hrow, Journal.events_append]
      rfl
  | out all covered eq =>
    rw [List.length_drop] at all
    rw [eq]
    refine .ended (by omega) rfl ?_
    rw [s.finale_reached hk, Journal.events_append]
    rfl

/-- Holding playback, or going on, brings it no further. -/
theorem switch (hp : Progress s ahead k t events) (hmode : t.mode ≠ .stopped)
    {mode : Mode} (hnew : mode = .running ∨ mode = .paused) :
    Progress s ahead k { t with mode := mode } events := by
  cases hp with
  | ended all stopped journal => exact absurd stopped hmode
  | underway old elapsed speed isRunning within session journal =>
    exact .underway mode elapsed speed hnew within (by rw [session]) journal

/-- Another speed brings playback no further. -/
theorem atSpeed (hp : Progress s ahead k t events) (speed : Float) :
    Progress s ahead k { t with speed := speed } events := by
  cases hp with
  | ended all stopped journal => exact .ended all stopped journal
  | underway mode elapsed old isRunning within session journal =>
    exact .underway mode elapsed speed isRunning within (by rw [session]) journal

/-- An advance in time brings playback further by the number of segments that it
answers. -/
theorem advance (h : IsLoaded settings s job)
    (hp : Progress s (job.toolpath.drop s.cursor) k t events) (seconds : Float) :
    ∃ n, (t.advance seconds).answer = .ok n ∧
      Progress s (job.toolpath.drop s.cursor) (k + n) (t.advance seconds).session
        (events ++ (t.advance seconds).journal.events) := by
  by_cases hrunning : t.mode = .running
  · cases hp with
    | ended all stopped journal => rw [stopped] at hrunning; cases hrunning
    | underway mode elapsed speed isRunning within session journal =>
      have hbound := within
      rw [List.length_drop] at hbound
      have hcursor := h.cursor
      have hloaded : IsLoaded settings t job := by
        rw [session]
        exact h.frame rfl rfl rfl (by simp only [Session.reached]; omega)
      have hahead : job.toolpath.drop t.cursor =
          (job.toolpath.drop s.cursor).drop k := by
        rw [session, List.drop_drop]
        rfl
      obtain ⟨n, hgreedy⟩ := Session.advance_greedy hloaded hrunning seconds
      refine ⟨n, hgreedy.answer, ?_⟩
      rw [hahead] at hgreedy
      subst session journal
      exact of_greedy isRunning within hgreedy
  · rw [Session.advance_of_not_running hrunning]
    refine ⟨0, rfl, ?_⟩
    show Progress s _ (k + 0) t (events ++ [])
    rw [List.append_nil]
    exact hp

/-- An operation that times playback does not fail and brings playback further by
what it answers. -/
theorem operate (h : IsLoaded settings s job) {op : Operation}
    (hop : op.isTiming = true)
    (hp : Progress s (job.toolpath.drop s.cursor) k t events) :
    let turn := t.operate settings op
    (∀ fault, .advanced (.error fault) ≠ turn.answer) ∧
      Progress s (job.toolpath.drop s.cursor) (k + turn.answer.advancedBy) turn.session
        (events ++ turn.journal.events) := by
  have hquiet : ∀ {u : Session}, Progress s (job.toolpath.drop s.cursor) k u events →
      Progress s (job.toolpath.drop s.cursor) (k + 0) u (events ++ []) := by
    intro u hu
    rw [List.append_nil]
    exact hu
  cases op with
  | advance seconds =>
    obtain ⟨n, hanswer, hfurther⟩ := hp.advance h seconds
    simp only [Session.operate, Turn.map, hanswer, Answer.advancedBy]
    refine ⟨?_, hfurther⟩
    intro fault heq
    cases heq
  | pause =>
    simp only [Session.operate, Turn.map, Session.pause]
    refine ⟨fun fault heq => Answer.noConfusion heq, ?_⟩
    split
    · rename_i hrunning
      have hmode : t.mode ≠ .stopped := by
        rw [hrunning]
        exact Mode.noConfusion
      exact hquiet (hp.switch hmode (.inr rfl))
    · exact hquiet hp
  | resume =>
    simp only [Session.operate, Turn.map, Session.resume]
    refine ⟨fun fault heq => Answer.noConfusion heq, ?_⟩
    split
    · rename_i hpaused
      have hmode : t.mode ≠ .stopped := by
        rw [hpaused]
        exact Mode.noConfusion
      exact hquiet (hp.switch hmode (.inl rfl))
    · exact hquiet hp
  | setSpeed speed =>
    exact ⟨fun fault heq => Answer.noConfusion heq, hquiet (hp.atSpeed _)⟩
  | _ => cases hop

/-- Operations that time playback do not fail and bring playback further by what
they answer in all. -/
theorem operateAll (h : IsLoaded settings s job) :
    ∀ (ops : List Operation) {t : Session} {k : Nat} {events : List Event},
      (∀ op ∈ ops, op.isTiming = true) →
      Progress s (job.toolpath.drop s.cursor) k t events →
        let run := t.operateAll settings ops
        (∀ fault, .advanced (.error fault) ∉ run.answer) ∧
          Progress s (job.toolpath.drop s.cursor)
            (k + (run.answer.map Answer.advancedBy).sum) run.session
            (events ++ run.journal.events) := by
  intro ops
  induction ops with
  | nil =>
    intro t k events _ hp
    refine ⟨fun fault hmem => List.not_mem_nil hmem, ?_⟩
    show Progress s _ (k + 0) t (events ++ [])
    rw [List.append_nil]
    exact hp
  | cons op rest ih =>
    intro t k events hops hp
    obtain ⟨hfirst, hnext⟩ := hp.operate h (hops op List.mem_cons_self)
    have hrest : ∀ op' ∈ rest, op'.isTiming = true := by
      intro op' hmem
      exact hops op' (List.mem_cons_of_mem _ hmem)
    obtain ⟨hlater, hlast⟩ := ih hrest hnext
    constructor
    · intro fault hmem
      rcases List.mem_cons.mp hmem with heq | hmem'
      · exact hfirst fault heq
      · exact hlater fault hmem'
    · simp only [Session.operateAll, List.map_cons, List.sum_cons,
        Journal.events_append]
      rw [← Nat.add_assoc, ← List.append_assoc]
      exact hlast

/-- What a recording machine and renderer have seen so far: the beginning of all
that there is to see, with every segment shown, and all of it only when playback has
stopped. -/
theorem of_recorder {hasToolChanger canHide : Bool} (hp : Progress s ahead k t events)
    (hmachine : s.machine = .recorder hasToolChanger)
    (hrenderer : s.renderer = .recorder canHide) :
    let all := (s.finale ahead).2.events
    events <+: all ∧ events.filterMap Event.shown? = List.range' s.cursor k ∧
      (t.mode = .stopped ↔ events = all) := by
  intro all
  cases hp with
  | underway mode elapsed speed isRunning within session journal =>
    -- What is still to come ends with the spindle stop, so it is not empty.
    let later := ((s.reached ahead k).finale (ahead.drop k)).2.events
    have hall : all = events ++ later := by
      simp only [all, s.finale_reached within, journal, Journal.events_append]
      rfl
    have hreached : (s.reached ahead k).machine = .recorder hasToolChanger := by
      simp only [Session.reached, Session.row, hmachine, Schedule.playRow_machine]
    have hlater : later ≠ [] := Session.finale_events_ne_nil hreached _
    have hshown := Session.row_shown hmachine hrenderer (ahead.take k)
    rw [List.length_take_of_le within] at hshown
    refine ⟨⟨later, hall.symm⟩, ?_, ?_⟩
    · rw [journal]
      exact hshown
    · constructor
      · intro hstopped
        rw [session] at hstopped
        rcases isRunning with rfl | rfl <;> cases hstopped
      · intro heq
        rw [hall] at heq
        exact absurd (List.self_eq_append_right.mp heq) hlater
  | ended hk stopped journal =>
    have hshown := Session.finale_shown hmachine hrenderer ahead
    rw [← hk] at hshown
    refine ⟨journal ▸ List.prefix_rfl, ?_, fun _ => journal, fun _ => stopped⟩
    rw [journal]
    exact hshown

end Progress

/-- While playback is held or has ended, timing it makes nothing happen. -/
theorem events_of_not_running (hmode : t.mode = .paused ∨ t.mode = .stopped)
    {op : Operation} (hop : op.isTiming = true) :
    (t.operate settings op).journal.events = [] := by
  have hrunning : t.mode ≠ .running := by
    rcases hmode with hpaused | hstopped
    · rw [hpaused]
      exact Mode.noConfusion
    · rw [hstopped]
      exact Mode.noConfusion
  cases op with
  | advance seconds =>
    simp only [Session.operate, Turn.map, Session.advance_of_not_running hrunning]
    rfl
  | pause =>
    simp only [Session.operate, Turn.map, Session.pause, hrunning, if_false]
    rfl
  | resume =>
    simp only [Session.operate, Turn.map, Session.resume]
    split <;> rfl
  | setSpeed speed => rfl
  | _ => cases hop

/-- However playback is timed, held and sped up, what happens is the beginning of
what single steps to the end of the program make happen.  Advances answer in all with
the number of segments shown as played, and the session has stopped if and only if
everything has happened.  Nothing happens while playback is held or after it has
ended. -/
theorem timing_refines_stepping {hasToolChanger canHide : Bool}
    (h : Reachable settings s) (hmode : s.mode = .running)
    (hmachine : s.machine = .recorder hasToolChanger)
    (hrenderer : s.renderer = .recorder canHide) (ops : List Operation)
    (hops : ∀ op ∈ ops, op.isTiming = true) :
    let ahead := s.toolpath.length - s.cursor
    let steps := s.operateAll settings (List.replicate (ahead + 1) .forward)
    let run := s.operateAll settings ops
    let played := (run.answer.map Answer.advancedBy).sum
    steps.answer =
        List.replicate ahead (.stepped (.ok true)) ++ [.stepped (.ok false)] ∧
      (∀ fault, .advanced (.error fault) ∉ run.answer) ∧
      run.journal.events <+: steps.journal.events ∧
      run.journal.shown = List.range' s.cursor played ∧
      (run.session.mode = .stopped ↔ run.journal.events = steps.journal.events) ∧
      ∀ before op after, ops = before ++ op :: after →
        let t := (s.operateAll settings before).session
        t.mode = .paused ∨ t.mode = .stopped →
          (t.operate settings op).journal.events = [] := by
  intro ahead steps run played
  have hidle : s.mode ≠ .idle := by
    rw [hmode]
    exact Mode.noConfusion
  obtain ⟨job, hjob, hloaded⟩ := h.consistent.exists_job hidle
  have hlength : ahead = (job.toolpath.drop s.cursor).length := by
    simp only [ahead, Session.toolpath, hjob, List.length_drop]
  have hsteps := Session.forwards_to_end settings hjob hloaded.playable
  dsimp only at hsteps
  rw [← hlength] at hsteps
  have hstart : Progress s (job.toolpath.drop s.cursor) 0 s [] :=
    .underway s.mode s.elapsed s.speed (.inl hmode) (Nat.zero_le _) rfl rfl
  obtain ⟨hfaultless, hprogress⟩ := hstart.operateAll hloaded ops hops
  rw [Nat.zero_add, List.nil_append] at hprogress
  obtain ⟨hbeginning, hshown, hstopped⟩ := hprogress.of_recorder hmachine hrenderer
  have hall : steps = _ := hsteps
  rw [hall]
  refine ⟨rfl, hfaultless, hbeginning, hshown, hstopped, ?_⟩
  intro before op after hsplit t hheld
  have hop : op ∈ ops := hsplit ▸ List.mem_append_cons_self
  exact events_of_not_running hheld (hops op hop)

/-- A program that is timed with a pause, a change of speed, negative time and time
that is "not a number", which plays the rest. -/
theorem timing_refines_stepping_odd_times :
    let text := "M3 S100\nG1 X10 F600\nT2\nG1 X20\nG1 X30\nM5"
    let fresh : Session := { machine := .recorder true, renderer := .recorder false }
    let s := (fresh.operateAll .standard [.load text acceptAll, .start]).session
    let ops := [.advance 1.5, .pause, .advance 60.0, .resume, .setSpeed 4.0,
      .advance (-3.0), .advance (0.0 / 0.0)]
    let run := s.operateAll .standard ops
    Reachable .standard s ∧ s.mode = .running ∧ s.machine = .recorder true ∧
      s.renderer = .recorder false ∧ (∀ op ∈ ops, op.isTiming = true) ∧
      run.answer.map Answer.advancedBy = [1, 0, 0, 0, 0, 0, 2] ∧
      run.journal.shown = [0, 1, 2] ∧
      run.journal.events =
        (s.operateAll .standard (List.replicate 4 .forward)).journal.events := by
  intro text fresh s ops run
  have hreachable : Reachable .standard s :=
    (Reachable.new (.recorder true) (.recorder false)).operateAll
      [.load text acceptAll, .start] (by decide +kernel)
  have hstate : s.mode = .running ∧ s.machine = .recorder true ∧
      s.renderer = .recorder false ∧ s.toolpath.length - s.cursor = 3 := by
    decide +kernel
  have hops : ∀ op ∈ ops, op.isTiming = true := by decide +kernel
  have hrun : run.session.mode = .stopped ∧
      run.answer.map Answer.advancedBy = [1, 0, 0, 0, 0, 0, 2] ∧
      List.range' s.cursor (run.answer.map Answer.advancedBy).sum = [0, 1, 2] := by
    decide +kernel
  obtain ⟨hmode, hmachine, hrenderer, hahead⟩ := hstate
  obtain ⟨hstopped, hplayed, hindices⟩ := hrun
  obtain ⟨_, _, _, hshown, hall, _⟩ :=
    timing_refines_stepping hreachable hmode hmachine hrenderer ops hops
  have hevents := hall.mp hstopped
  rw [hahead] at hevents
  exact ⟨hreachable, hmode, hmachine, hrenderer, hops, hplayed, hshown.trans hindices,
    hevents⟩

end

end Machining.Playback
