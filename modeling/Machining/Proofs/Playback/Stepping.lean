import Machining.Proofs.Playback.Operation
import Machining.Proofs.Playback.Order
set_option autoImplicit false

/-!
# Stepping through a program

What one step forward does, what a row of steps does, and what the last step does,
for every attached machine.  The results are stated with `Schedule.playRow` and
`Schedule.close`, which follow the machine through the segments and know nothing of
modes, time or speed.
-/

namespace Machining.Playback

open Machining.Machine
open Machining.Toolpath

/-- The moves of the segment can all be planned. -/
def IsPlayable (g : Segment) : Prop := (movePlan g).fault? = none

namespace Schedule

variable (p : Schedule) (r : Renderer)

/-- Plays segments one after the other, the first of which has the index `i`: the
machine afterwards, and what happened. -/
def playRow : Attachment → Nat → List Segment → Attachment × Journal
  | m, _, [] => (m, [])
  | m, i, g :: rest =>
    let played := (p.play m i g).1
    let later := playRow played.machine (i + 1) rest
    (later.1, (played.journal ++ r.tell (.setCurrentSegment i)) ++ later.2)

/-- Ends a program: the directives after the last segment, then the spindle stop. -/
def close (m : Attachment) : Attachment × Journal :=
  let finished := p.finish m
  let stopped := Session.stopMachine finished.machine
  (stopped.machine,
    Session.note .info "End of program" :: (finished.journal ++
      (stopped.journal ++ [Session.note .info "Program stopped"])))

/-- A row in two parts is the first part, and then the second on the machine that it
left. -/
theorem playRow_append (later : List Segment) :
    ∀ (earlier : List Segment) (m : Attachment) (i : Nat),
      p.playRow r m i (earlier ++ later) =
        let first := p.playRow r m i earlier
        let second := p.playRow r first.1 (i + earlier.length) later
        (second.1, first.2 ++ second.2) := by
  intro earlier
  induction earlier with
  | nil => intro m i; rfl
  | cons g rest ih =>
    intro m i
    have hindex : i + 1 + rest.length = i + (g :: rest).length := by
      rw [List.length_cons]
      omega
    rw [List.cons_append]
    simp only [playRow, ih, hindex, List.append_assoc]

/-- Playing a segment whose moves can be planned gives no fault. -/
theorem play_ok (m : Attachment) (i : Int) {g : Segment} (h : IsPlayable g) :
    (p.play m i g).2 = .ok (p.play m i g).1.reached := by
  have hfault : (p.plan m.isPresent i g).fault? = none := by
    unfold plan
    split
    · exact h
    · rfl
  simp only [play, hfault]

end Schedule

/-! ## Recording machines -/

/-- A recording machine stays what it is. -/
theorem performFrom_machine {b : Bool} : ∀ (cues : List Cue) (reached : AddressMap),
    (performFrom (.recorder b) reached cues).machine = .recorder b := by
  intro cues
  induction cues with
  | nil => intro reached; rfl
  | cons cue rest ih =>
    intro reached
    cases cue with
    | note r => exact ih reached
    | call k => exact ih (Attachment.directReach k reached)

namespace Schedule

variable (p : Schedule) (r : Renderer) {b : Bool}

@[simp] theorem play_machine (i : Int) (g : Segment) :
    (p.play (.recorder b) i g).1.machine = .recorder b :=
  performFrom_machine _ _

@[simp] theorem finish_machine : (p.finish (.recorder b)).machine = .recorder b :=
  performFrom_machine _ _

@[simp] theorem playRow_machine : ∀ (segments : List Segment) (i : Nat),
    (p.playRow r (.recorder b) i segments).1 = .recorder b := by
  intro segments
  induction segments with
  | nil => intro i; rfl
  | cons g rest ih =>
    intro i
    simp only [playRow, play_machine]
    exact ih (i + 1)

/-- What a recording machine shows of the end of a program. -/
theorem close_recorder_journal :
    (p.close (.recorder b)).2 = Session.note .info "End of program" ::
      ((p.finish (.recorder b)).journal ++
        [.event (.machine .stopSpindle), Session.note .info "Program stopped"]) := by
  simp only [close, finish_machine]
  rfl

end Schedule

namespace Session

variable {s : Session} {job : Job}

/-- Starting a loaded program rewinds it. -/
theorem start_of_job (hjob : s.job = some job) :
    s.start =
      ⟨{ s with mode := .running, cursor := 0, elapsed := 0.0 }, true,
        [note .info "Program started"]⟩ := by
  simp only [start, hjob]

/-! ## One step -/

/-- A step whose segment is played without a fault advances. -/
theorem forward_of_ok {g : Segment} {reached : AddressMap} (hjob : s.job = some job)
    (hg : job.toolpath[s.cursor]? = some g)
    (houtcome : (s.schedule.play s.machine s.cursor g).2 = .ok reached) :
    s.forward =
      ⟨{ s with
          machine := (s.schedule.play s.machine s.cursor g).1.machine
          cursor := s.cursor + 1 },
        .ok true,
        (s.schedule.play s.machine s.cursor g).1.journal ++
          s.renderer.tell (.setCurrentSegment s.cursor)⟩ := by
  simp only [forward, hjob, hg, playCurrent, houtcome]

/-- A step whose segment ends in a fault stays where it is. -/
theorem forward_of_error {g : Segment} {fault : Fault} (hjob : s.job = some job)
    (hg : job.toolpath[s.cursor]? = some g)
    (houtcome : (s.schedule.play s.machine s.cursor g).2 = .error fault) :
    s.forward =
      ⟨{ s with machine := (s.schedule.play s.machine s.cursor g).1.machine },
        .error fault, (s.schedule.play s.machine s.cursor g).1.journal⟩ := by
  simp only [forward, hjob, hg, playCurrent, houtcome]

/-- A step with a playable segment at the cursor plays it and advances. -/
theorem forward_play {g : Segment} (hjob : s.job = some job)
    (hg : job.toolpath[s.cursor]? = some g) (hplayable : IsPlayable g) :
    s.forward =
      ⟨{ s with
          machine := (s.schedule.play s.machine s.cursor g).1.machine
          cursor := s.cursor + 1 },
        .ok true,
        (s.schedule.play s.machine s.cursor g).1.journal ++
          s.renderer.tell (.setCurrentSegment s.cursor)⟩ :=
  forward_of_ok hjob hg (s.schedule.play_ok s.machine s.cursor hplayable)

/-- A step past the last segment ends the program. -/
theorem forward_end (hjob : s.job = some job) (hg : job.toolpath[s.cursor]? = none) :
    s.forward =
      ⟨{ s with
          machine := (s.schedule.close s.machine).1
          mode := .stopped
          cursor := 0
          elapsed := 0.0 },
        .ok false, (s.schedule.close s.machine).2⟩ := by
  simp only [forward, hjob, hg, endProgram, stop, Schedule.close]

/-- Everything that a step can do to a session with a program, also where a segment
cannot be played. -/
theorem forward_cases (hjob : s.job = some job) :
    (∃ m, s.cursor < job.toolpath.length ∧ s.forward.answer = .ok true ∧
      s.forward.session = { s with machine := m, cursor := s.cursor + 1 }) ∨
    (∃ m fault, s.forward.answer = .error fault ∧
      s.forward.session = { s with machine := m }) ∨
    (∃ m, job.toolpath.length ≤ s.cursor ∧ s.forward.answer = .ok false ∧
      s.forward.session =
        { s with machine := m, mode := .stopped, cursor := 0, elapsed := 0.0 }) := by
  cases hg : job.toolpath[s.cursor]? with
  | none =>
    rw [forward_end hjob hg]
    exact .inr (.inr ⟨_, List.getElem?_eq_none_iff.mp hg, rfl, rfl⟩)
  | some g =>
    cases houtcome : (s.schedule.play s.machine s.cursor g).2 with
    | ok reached =>
      obtain ⟨hlt, _⟩ := List.getElem?_eq_some_iff.mp hg
      rw [forward_of_ok hjob hg houtcome]
      exact .inl ⟨_, hlt, rfl, rfl⟩
    | error fault =>
      rw [forward_of_error hjob hg houtcome]
      exact .inr (.inl ⟨_, fault, rfl, rfl⟩)

/-! ## Rows of steps -/

/-- Segments played in a row from the cursor on: the machine afterwards, and what
happened. -/
def row (s : Session) (segments : List Segment) : Attachment × Journal :=
  s.schedule.playRow s.renderer s.machine s.cursor segments

/-- Segments played in a row from the cursor on, and then the end of the program. -/
def finale (s : Session) (segments : List Segment) : Attachment × Journal :=
  let closed := s.schedule.close (s.row segments).1
  (closed.1, (s.row segments).2 ++ closed.2)

/-- The session after the first `k` segments ahead. -/
def reached (s : Session) (ahead : List Segment) (k : Nat) : Session :=
  { s with
    machine := (s.row (ahead.take k)).1
    cursor := s.cursor + k }

/-- A row that has come `k` segments far goes on with the segments after them. -/
theorem row_take_append {ahead : List Segment} {k : Nat} (hk : k ≤ ahead.length)
    (later : List Segment) :
    s.row (ahead.take k ++ later) =
      let second := (s.reached ahead k).row later
      (second.1, (s.row (ahead.take k)).2 ++ second.2) := by
  unfold row
  rw [Schedule.playRow_append, List.length_take_of_le hk]
  rfl

/-- The end of the program, seen from the session after the first `k` segments. -/
theorem finale_reached {ahead : List Segment} {k : Nat} (hk : k ≤ ahead.length) :
    s.finale ahead =
      let second := (s.reached ahead k).finale (ahead.drop k)
      (second.1, (s.row (ahead.take k)).2 ++ second.2) := by
  have hrow := s.row_take_append hk (ahead.drop k)
  rw [List.take_append_drop] at hrow
  simp only [finale, hrow, List.append_assoc]
  rfl

/-- The first of the remaining segments is the one at the cursor. -/
theorem getElem?_of_drop {α : Type} {xs rest : List α} {x : α} {i : Nat}
    (h : xs.drop i = x :: rest) : xs[i]? = some x ∧ xs.drop (i + 1) = rest := by
  constructor
  · rw [← List.head?_drop, h]
    rfl
  · rw [← List.tail_drop, h]
    rfl

/-- Steps forward through the segments ahead play them in a row. -/
theorem forwards_play (settings : Settings) :
    ∀ (segments rest : List Segment) {s : Session} {job : Job}, s.job = some job →
      (∀ g ∈ job.toolpath, IsPlayable g) →
      job.toolpath.drop s.cursor = segments ++ rest →
      s.operateAll settings (List.replicate segments.length .forward) =
        ⟨{ s with
            machine := (s.row segments).1
            cursor := s.cursor + segments.length },
          List.replicate segments.length (.stepped (.ok true)),
          (s.row segments).2⟩ := by
  intro segments
  induction segments with
  | nil => intro rest s job _ _ _; rfl
  | cons g later ih =>
    intro rest s job hjob hplayable hahead
    obtain ⟨hg, hnext⟩ := getElem?_of_drop hahead
    have hmem : g ∈ job.toolpath := List.mem_of_getElem? hg
    have hindex : s.cursor + 1 + later.length = s.cursor + (later.length + 1) := by
      omega
    have hlater := ih rest
      (s := { s with
        machine := (s.schedule.play s.machine s.cursor g).1.machine
        cursor := s.cursor + 1 }) hjob hplayable hnext
    rw [List.length_cons, List.replicate_succ]
    simp only [operateAll, operate, Turn.map, forward_play hjob hg (hplayable g hmem),
      hlater]
    simp only [row, Schedule.playRow, List.replicate_succ, hindex]

/-- Steps forward through all segments ahead, and one more, play the program to its
end. -/
theorem forwards_to_end (settings : Settings) (hjob : s.job = some job)
    (hplayable : ∀ g ∈ job.toolpath, IsPlayable g) :
    let ahead := job.toolpath.drop s.cursor
    s.operateAll settings (List.replicate (ahead.length + 1) .forward) =
      ⟨{ s with
          machine := (s.finale ahead).1
          mode := .stopped
          cursor := 0
          elapsed := 0.0 },
        List.replicate ahead.length (.stepped (.ok true)) ++ [.stepped (.ok false)],
        (s.finale ahead).2⟩ := by
  intro ahead
  have hrow := forwards_play settings ahead [] hjob hplayable (List.append_nil _).symm
  have hend : job.toolpath[s.cursor + ahead.length]? = none := by
    rw [List.getElem?_eq_none_iff, List.length_drop]
    omega
  have hlast := forward_end
    (s := { s with
      machine := (s.row ahead).1
      cursor := s.cursor + ahead.length }) hjob hend
  rw [List.replicate_succ', operateAll_append, hrow]
  simp only [operateAll, operate, Turn.map, hlast, List.append_nil]
  rfl

/-! ## From the start -/

/-- Start and steps forward play the first segments in a row. -/
theorem start_forwards (settings : Settings) (hjob : s.job = some job)
    (hplayable : ∀ g ∈ job.toolpath, IsPlayable g) {k : Nat}
    (hk : k ≤ job.toolpath.length) :
    let row := s.schedule.playRow s.renderer s.machine 0 (job.toolpath.take k)
    s.operateAll settings (.start :: List.replicate k .forward) =
      ⟨{ s with machine := row.1, mode := .running, cursor := k, elapsed := 0.0 },
        .done true :: List.replicate k (.stepped (.ok true)),
        note .info "Program started" :: row.2⟩ := by
  have hlength : (job.toolpath.take k).length = k := List.length_take_of_le hk
  have hrow := forwards_play settings (job.toolpath.take k) (job.toolpath.drop k)
    (s := { s with mode := .running, cursor := 0, elapsed := 0.0 }) hjob hplayable
    (List.take_append_drop k job.toolpath).symm
  rw [hlength] at hrow
  simp only [operateAll, operate, Turn.map, start_of_job hjob, hrow, Nat.zero_add]
  rfl

/-- Start, a step forward for every segment and one step more play the program to its
end. -/
theorem start_forwards_to_end (settings : Settings) (hjob : s.job = some job)
    (hplayable : ∀ g ∈ job.toolpath, IsPlayable g) :
    let n := job.toolpath.length
    let row := s.schedule.playRow s.renderer s.machine 0 job.toolpath
    let closed := s.schedule.close row.1
    s.operateAll settings (.start :: List.replicate (n + 1) .forward) =
      ⟨{ s with machine := closed.1, mode := .stopped, cursor := 0, elapsed := 0.0 },
        .done true :: (List.replicate n (.stepped (.ok true)) ++ [.stepped (.ok false)]),
        note .info "Program started" :: (row.2 ++ closed.2)⟩ := by
  have hsteps := forwards_to_end settings
    (s := { s with mode := .running, cursor := 0, elapsed := 0.0 }) hjob hplayable
  simp only [List.drop_zero] at hsteps
  intro n row closed
  simp only [n, operateAll, operate, Turn.map, start_of_job hjob, hsteps]
  rfl

/-- As many steps in a row play a segment as there are segments, and no more. -/
theorem start_forwards_answer_iff (settings : Settings) (hjob : s.job = some job)
    (hplayable : ∀ g ∈ job.toolpath, IsPlayable g) (k : Nat) :
    (s.operateAll settings (.start :: List.replicate k .forward)).answer =
        .done true :: List.replicate k (.stepped (.ok true)) ↔
      k ≤ job.toolpath.length := by
  constructor
  · intro hanswer
    apply Nat.le_of_not_lt
    intro hmore
    obtain ⟨rest, hk⟩ : ∃ rest, k = job.toolpath.length + 1 + rest :=
      Nat.exists_eq_add_of_le (by omega)
    have hlast : Answer.stepped (.ok false) ∈
        (s.operateAll settings (.start :: List.replicate k .forward)).answer := by
      rw [hk, ← List.replicate_append_replicate, ← List.cons_append, operateAll_append,
        start_forwards_to_end settings hjob hplayable]
      simp
    rw [hanswer] at hlast
    simp [List.mem_replicate] at hlast
  · intro hk
    rw [start_forwards settings hjob hplayable hk]

end Session

end Machining.Playback
