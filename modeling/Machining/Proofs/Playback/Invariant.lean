import Machining.Proofs.Playback.Loading
import Machining.Proofs.Playback.Stepping
set_option autoImplicit false

/-!
# What holds of every reachable session

A session either holds nothing and has never played, or it holds a job together with
the schedule and the durations of that very job, and its cursor lies within the
toolpath.  Every operation keeps this, so it holds of every reachable session.
-/

namespace Machining.Playback

open Machining.Execution
open Machining.Geometry
open Machining.Machine
open Machining.Program
open Machining.Toolpath

/-! ## Segments of a run can be played -/

theorem isPlayable_of_isMove {s t : Modal} {c : Command} {g : Segment}
    (h : IsMove s c t g) : IsPlayable g := by
  unfold IsPlayable movePlan
  split
  · rename_i hshape
    exact absurd hshape (h.shape _ _ _ _)
  · rfl

theorem isPlayable_of_isCycle {s t : Modal} {c : Command} {g : Segment}
    (h : IsCycle s c t g) : IsPlayable g := by
  obtain ⟨number, hole, depth, retract, hshape, ⟨x, hx⟩, ⟨y, hy⟩⟩ := h.shape
  simp only [IsPlayable, movePlan, hshape, drillPlan, hx, hy]

/-- The moves of every segment that execution gives can be planned. -/
theorem runFrom_playable : ∀ (commands : List Command) (count : Nat) (s : Modal),
    ∀ g ∈ (runFrom count s commands).toolpath, IsPlayable g := by
  intro commands count s g hg
  obtain ⟨_, _, _, hmove | hcycle⟩ := isMove_or_isCycle_of_mem hg
  · exact isPlayable_of_isMove hmove
  · exact isPlayable_of_isCycle hcycle

/-! ## The invariant -/

/-- The session holds a job that loading prepared, with the schedule and the
durations of that job. -/
structure IsLoaded (settings : Settings) (s : Session) (job : Job) : Prop where
  held : s.job = some job
  origin : ∃ text check,
    job = (Session.prepare settings (readText text check).1.commands).1
  schedule : s.schedule = ⟨job.directives, job.toolpath.length⟩
  durations :
    (segmentTimes (some settings.rapidFeedrate) job.toolpath).1 = .ok s.durations
  cursor : s.cursor ≤ job.toolpath.length

/-- What holds of every reachable session. -/
inductive Consistent (settings : Settings) (s : Session) : Prop where
  | empty (held : s.job = none) (schedule : s.schedule = {})
      (durations : s.durations = []) (mode : s.mode = .idle) (cursor : s.cursor = 0)
      (elapsed : s.elapsed = 0.0)
  | loaded (job : Job) (isLoaded : IsLoaded settings s job)

/-- Estimates are made for every segment. -/
theorem length_segmentTimes {rate : Option Float} :
    ∀ {toolpath : List Segment} {times : List Float},
      (segmentTimes rate toolpath).1 = .ok times → times.length = toolpath.length := by
  intro toolpath
  induction toolpath with
  | nil => intro times h; cases h; rfl
  | cons g rest ih =>
    intro times h
    unfold segmentTimes at h
    split at h
    · cases h
    · dsimp only at h
      cases hlater : (segmentTimes rate rest).1 with
      | error fault => rw [hlater] at h; cases h
      | ok later =>
        rw [hlater] at h
        cases h
        rw [List.length_cons, List.length_cons, ih hlater]

namespace IsLoaded

variable {settings : Settings} {s t : Session} {job : Job}

/-- A session that differs in machine, mode, time and speed only, with the cursor
still within the toolpath. -/
theorem frame (h : IsLoaded settings s job) (hjob : t.job = s.job)
    (hschedule : t.schedule = s.schedule) (hdurations : t.durations = s.durations)
    (hcursor : t.cursor ≤ job.toolpath.length) : IsLoaded settings t job where
  held := hjob.trans h.held
  origin := h.origin
  schedule := hschedule.trans h.schedule
  durations := hdurations ▸ h.durations
  cursor := hcursor

theorem length_durations (h : IsLoaded settings s job) :
    s.durations.length = job.toolpath.length :=
  length_segmentTimes h.durations

/-- Toolpath and directives are what executing the commands of the job gives. -/
theorem executed (h : IsLoaded settings s job) :
    job.toolpath = (run {} job.commands).toolpath ∧
      job.directives = (run {} job.commands).directives := by
  obtain ⟨text, check, rfl⟩ := h.origin
  exact ⟨rfl, rfl⟩

theorem playable (h : IsLoaded settings s job) :
    ∀ g ∈ job.toolpath, IsPlayable g := by
  rw [h.executed.1]
  exact runFrom_playable job.commands 0 {}

end IsLoaded

namespace Consistent

variable {settings : Settings} {s : Session} {job : Job}

theorem isLoaded (h : Consistent settings s) (hjob : s.job = some job) :
    IsLoaded settings s job := by
  cases h with
  | empty hnone => rw [hjob] at hnone; cases hnone
  | loaded job' h' =>
    have heq : job = job' := Option.some.inj (hjob.symm.trans h'.held)
    exact heq ▸ h'

/-- A session that is not idle holds a job. -/
theorem exists_job (h : Consistent settings s) (hmode : s.mode ≠ .idle) :
    ∃ job, s.job = some job ∧ IsLoaded settings s job := by
  cases h with
  | empty _ _ _ hidle => exact absurd hidle hmode
  | loaded job h' => exact ⟨job, h'.held, h'⟩

end Consistent

/-! ## Loading -/

theorem Answer.ne_error {outcome : Except Fault Loading}
    (h : (Answer.loading outcome).isFailedLoad = false) :
    ∀ fault, outcome ≠ .error fault := by
  rintro fault rfl
  cases h

namespace Session

variable {settings : Settings} {s : Session} {job : Job}

/-- A load that is accepted holds the program of its text, on the machine as it was. -/
theorem load_accepted {text : String} {check : LineCheck}
    (haccepted : (s.load settings text check).answer = .ok (.accepted job)) :
    job = jobOf settings text check ∧
      (s.load settings text check).session.machine = s.machine ∧
      IsLoaded settings (s.load settings text check).session job := by
  cases load_loads settings s text check with
  | rejected refused answer => cases answer.symm.trans haccepted
  | failed read unsound answer => cases answer.symm.trans haccepted
  | accepted durations read sound times answer session events =>
    cases answer.symm.trans haccepted
    rw [session]
    refine ⟨rfl, rfl, ?_⟩
    exact
      { held := rfl
        origin := ⟨text, check, rfl⟩
        schedule := rfl
        durations := times
        cursor := Nat.zero_le _ }

theorem load_consistent (h : Consistent settings s) (text : String) (check : LineCheck)
    (hload : ∀ fault, (s.load settings text check).answer ≠ .error fault) :
    Consistent settings (s.load settings text check).session := by
  cases load_loads settings s text check with
  | rejected refused answer session events =>
    rw [session]
    exact h
  | failed read unsound answer session events => exact absurd answer (hload _)
  | accepted durations read sound times answer session events =>
    exact .loaded _ (load_accepted answer).2.2

/-! ## Control and playback -/

theorem forward_isLoaded (h : IsLoaded settings s job) :
    IsLoaded settings s.forward.session job := by
  rcases forward_cases h.held with
    ⟨m, hlt, _, hsession⟩ | ⟨m, fault, _, hsession⟩ | ⟨m, _, _, hsession⟩
  · rw [hsession]
    exact h.frame rfl rfl rfl hlt
  · rw [hsession]
    exact h.frame rfl rfl rfl h.cursor
  · rw [hsession]
    exact h.frame rfl rfl rfl (Nat.zero_le _)

theorem spend_isLoaded :
    ∀ (durations : List Float) {s : Session}, IsLoaded settings s job →
      IsLoaded settings (spend durations s).session job := by
  intro durations
  induction durations with
  | nil => intro s h; exact forward_isLoaded h
  | cons duration rest ih =>
    intro s h
    let paid : Session := { s with elapsed := s.elapsed - duration }
    have hnext : IsLoaded settings paid.forward.session job :=
      forward_isLoaded (h.frame rfl rfl rfl h.cursor)
    unfold spend
    split
    · exact h
    · dsimp only
      split
      · exact hnext
      · split
        · exact ih hnext
        · exact hnext

theorem advance_isLoaded (h : IsLoaded settings s job) (seconds : Float) :
    IsLoaded settings (s.advance seconds).session job := by
  unfold advance
  split
  · exact spend_isLoaded _ (h.frame rfl rfl rfl h.cursor)
  · exact h

/-- Every operation on a loaded session keeps the invariant. -/
theorem operate_loaded (h : IsLoaded settings s job) (op : Operation)
    (hload : (s.operate settings op).answer.isFailedLoad = false) :
    Consistent settings (s.operate settings op).session := by
  cases op with
  | load text check =>
    exact load_consistent (.loaded job h) text check (Answer.ne_error hload)
  | loadSample name =>
    exact load_consistent (.loaded job h) _ acceptAll (Answer.ne_error hload)
  | start =>
    simp only [operate, Turn.map, start, h.held]
    exact .loaded job (h.frame h.held.symm rfl rfl (Nat.zero_le _))
  | pause =>
    simp only [operate, Turn.map, pause]
    split <;> exact .loaded job (h.frame rfl rfl rfl h.cursor)
  | resume =>
    simp only [operate, Turn.map, resume]
    split <;> exact .loaded job (h.frame rfl rfl rfl h.cursor)
  | stop =>
    simp only [operate, Turn.map, stop, h.held]
    exact .loaded job (h.frame h.held.symm rfl rfl (Nat.zero_le _))
  | forward => exact .loaded job (forward_isLoaded h)
  | backward =>
    have hcursor := h.cursor
    simp only [operate, Turn.map, backward]
    split
    · exact .loaded job h
    · exact .loaded job (h.frame rfl rfl rfl (by dsimp only; omega))
  | advance seconds => exact .loaded job (advance_isLoaded h seconds)
  | setSpeed speed => exact .loaded job (h.frame rfl rfl rfl h.cursor)
  | setVisibility visible => exact .loaded job h

/-- A session that holds nothing ignores every operation but loading and the choice
of a speed. -/
theorem operate_empty (h : Consistent settings s) (hjob : s.job = none) (op : Operation)
    (hload : (s.operate settings op).answer.isFailedLoad = false) :
    Consistent settings (s.operate settings op).session := by
  cases op with
  | load text check => exact load_consistent h text check (Answer.ne_error hload)
  | loadSample name => exact load_consistent h _ acceptAll (Answer.ne_error hload)
  | _ =>
    cases h with
    | loaded job h' => rw [h'.held] at hjob; cases hjob
    | empty held schedule durations mode cursor elapsed =>
      -- With the fields known, every other operation computes.
      obtain ⟨machine, renderer, _, _, _, _, _, _, speed⟩ := s
      subst held schedule durations mode cursor elapsed
      exact .empty rfl rfl rfl rfl rfl rfl

theorem operate_consistent (h : Consistent settings s) (op : Operation)
    (hload : (s.operate settings op).answer.isFailedLoad = false) :
    Consistent settings (s.operate settings op).session := by
  rcases Option.eq_none_or_eq_some s.job with hjob | ⟨job, hjob⟩
  · exact operate_empty h hjob op hload
  · exact operate_loaded (h.isLoaded hjob) op hload

end Session

/-- Every reachable session is consistent. -/
theorem Reachable.consistent {settings : Settings} {s : Session}
    (h : Reachable settings s) : Consistent settings s := by
  induction h with
  | new machine renderer => exact .empty rfl rfl rfl rfl rfl rfl
  | operate op _ hload ih => exact Session.operate_consistent ih op hload

end Machining.Playback
