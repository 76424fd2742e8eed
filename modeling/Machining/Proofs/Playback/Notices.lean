import Machining.Proofs.Playback.Refinement
set_option autoImplicit false

/-!
# What the renderer is told

A renderer is told the number of segments by every load, and the index of a segment by
every step.  Only a load changes the program: every other operation keeps it, and shows
no index but those of its toolpath.
-/

namespace Machining

/-- The number of segments that an event tells the renderer. -/
def Event.count? : Event → Option Nat
  | .renderer (.setToolpath count) => some count
  | _ => none

end Machining

namespace Machining.Playback

open Machining.Machine
open Machining.Program
open Machining.Toolpath

/-! ## Indices within a toolpath -/

/-- The number of segments that was told last, or the number known before. -/
def lastCount (known : Option Nat) (events : List Event) : Option Nat :=
  (events.filterMap Event.count?).getLast?.or known

/-- Every index that is shown is below the number of segments told last before it. -/
def InRange : Option Nat → List Event → Prop
  | _, [] => True
  | known, e :: rest =>
    (∀ i, e.shown? = some i → ∃ count, known = some count ∧ i < count) ∧
      InRange (e.count?.or known) rest

section

variable {known : Option Nat}

theorem lastCount_cons (e : Event) (rest : List Event) :
    lastCount known (e :: rest) = lastCount (e.count?.or known) rest := by
  unfold lastCount
  rw [List.filterMap_cons]
  cases e.count? with
  | none => rfl
  | some count =>
    rw [List.getLast?_cons, Option.some_or]
    cases (rest.filterMap Event.count?).getLast? <;> rfl

theorem InRange.append {later : List Event} :
    ∀ {earlier : List Event} {known : Option Nat}, InRange known earlier →
      InRange (lastCount known earlier) later → InRange known (earlier ++ later) := by
  intro earlier
  induction earlier with
  | nil => intro known _ hlater; exact hlater
  | cons e rest ih =>
    intro known hearlier hlater
    rw [lastCount_cons] at hlater
    exact ⟨hearlier.1, ih hearlier.2 hlater⟩

theorem lastCount_append (earlier later : List Event) :
    lastCount known (earlier ++ later) = lastCount (lastCount known earlier) later := by
  unfold lastCount
  rw [List.filterMap_append, List.getLast?_append, Option.or_assoc]

/-- The rule read at one index that is shown. -/
theorem InRange.at_shown {i : Nat} {after : List Event} :
    ∀ {before : List Event} {known : Option Nat},
      InRange known (before ++ .renderer (.setCurrentSegment i) :: after) →
        ∃ count, lastCount known before = some count ∧ i < count := by
  intro before
  induction before with
  | nil => intro known h; exact h.1 i rfl
  | cons e rest ih =>
    intro known h
    rw [lastCount_cons]
    exact ih h.2

end

/-- The events tell no number of segments; indices are shown to an attached renderer only,
and they are below `n`. -/
def Within (r : Renderer) (n : Nat) (events : List Event) : Prop :=
  ∀ e ∈ events, e.count? = none ∧ ∀ i, e.shown? = some i → r ≠ .absent ∧ i < n

namespace Within

variable {r : Renderer} {n : Nat} {earlier later events : List Event}

theorem nil : Within r n [] := by
  intro e he
  cases he

theorem append (hearlier : Within r n earlier) (hlater : Within r n later) :
    Within r n (earlier ++ later) := by
  intro e he
  rcases List.mem_append.mp he with h | h
  · exact hearlier e h
  · exact hlater e h

/-- Such events do not change what was told last, and are in range of it. -/
theorem inRange {known : Option Nat} (h : Within r n events)
    (hknown : r ≠ .absent → 0 < n → known = some n) :
    InRange known events ∧ lastCount known events = known := by
  induction events with
  | nil => exact ⟨trivial, rfl⟩
  | cons e rest ih =>
    obtain ⟨hcount, hshown⟩ := h e List.mem_cons_self
    obtain ⟨hrest, hlast⟩ := ih fun e' he' => h e' (List.mem_cons_of_mem _ he')
    refine ⟨⟨?_, ?_⟩, ?_⟩
    · intro i hi
      obtain ⟨hpresent, hlt⟩ := hshown i hi
      exact ⟨n, hknown hpresent (by omega), hlt⟩
    · rw [hcount]
      exact hrest
    · rw [lastCount_cons, hcount]
      exact hlast

end Within

section

variable (r : Renderer) (n : Nat)

theorem tell_within {call : RendererCall} (hcount : (Event.renderer call).count? = none)
    (hshown : ∀ i, (Event.renderer call).shown? = some i → i < n) :
    Within r n (r.tell call).events := by
  cases r with
  | absent => exact .nil
  | recorder canHide =>
    unfold Renderer.tell
    dsimp only
    split
    · intro e he
      cases List.mem_singleton.mp he
      exact ⟨hcount, fun i hi => ⟨Renderer.noConfusion, hshown i hi⟩⟩
    · exact .nil

theorem perform_within (m : Attachment) (reached : AddressMap) (call : Call) :
    Within r n (m.perform reached call).journal.events := by
  cases m with
  | absent => exact .nil
  | recorder hasToolChanger =>
    unfold Attachment.perform
    dsimp only
    split
    · intro e he
      cases List.mem_singleton.mp he
      exact ⟨rfl, fun i hi => (nomatch hi)⟩
    · exact .nil
  | simulated simulation =>
    unfold Attachment.perform
    rw [Journal.events_ofLog]
    exact .nil

/-- The machine tells the renderer nothing. -/
theorem performFrom_within : ∀ (cues : List Cue) (m : Attachment) (reached : AddressMap),
    Within r n (performFrom m reached cues).journal.events := by
  intro cues
  induction cues with
  | nil => intro m reached; exact .nil
  | cons cue rest ih =>
    intro m reached
    cases cue with
    | note record => exact ih m reached
    | call call =>
      unfold performFrom
      rw [Journal.events_append]
      exact (perform_within r n m reached call).append (ih _ _)

end

/-! ## Operations that keep the program -/

/-- The program, the renderer and the speed are as before, and what the renderer is shown
lies within the toolpath. -/
structure KeepsProgram {α : Type} (s : Session) (turn : Turn α) : Prop where
  job : turn.session.job = s.job
  renderer : turn.session.renderer = s.renderer
  speed : turn.session.speed = s.speed
  within : Within s.renderer s.toolpath.length turn.journal.events

/-- Changing the answer of an operation keeps what it keeps. -/
theorem KeepsProgram.map {α β : Type} {s : Session} {turn : Turn α}
    (h : KeepsProgram s turn) (f : α → β) : KeepsProgram s (turn.map f) :=
  { h with }

namespace Session

variable {s : Session}

theorem toolpath_congr {s t : Session} (h : t.job = s.job) : t.toolpath = s.toolpath := by
  unfold toolpath
  rw [h]

theorem toolpath_of_job {job : Job} (h : s.job = some job) : s.toolpath = job.toolpath := by
  unfold toolpath
  rw [h]

theorem start_keeps (s : Session) : KeepsProgram s s.start := by
  unfold start
  split <;> exact ⟨rfl, rfl, rfl, .nil⟩

theorem pause_keeps (s : Session) : KeepsProgram s s.pause := by
  unfold pause
  split <;> exact ⟨rfl, rfl, rfl, .nil⟩

theorem resume_keeps (s : Session) : KeepsProgram s s.resume := by
  unfold resume
  split <;> exact ⟨rfl, rfl, rfl, .nil⟩

theorem setVisibility_keeps (s : Session) (visible : Bool) :
    KeepsProgram s (s.setVisibility visible) :=
  ⟨rfl, rfl, rfl, tell_within _ _ rfl fun _ hi => (nomatch hi)⟩

theorem stop_keeps (s : Session) : KeepsProgram s s.stop := by
  unfold stop
  split
  · exact ⟨rfl, rfl, rfl, .nil⟩
  · refine ⟨rfl, rfl, rfl, ?_⟩
    rw [Journal.events_append]
    exact (performFrom_within _ _ _ _ _).append .nil

theorem forward_keeps (s : Session) : KeepsProgram s s.forward := by
  unfold forward
  split
  · exact ⟨rfl, rfl, rfl, .nil⟩
  · rename_i job hjob
    split
    · rename_i g hg
      have hplayed : Within s.renderer s.toolpath.length
          (s.schedule.play s.machine s.cursor g).1.journal.events :=
        performFrom_within _ _ _ _ _
      unfold playCurrent
      dsimp only
      split
      · exact ⟨rfl, rfl, rfl, hplayed⟩
      · refine ⟨rfl, rfl, rfl, ?_⟩
        rw [Journal.events_append]
        refine hplayed.append (tell_within _ _ rfl ?_)
        intro i hi
        cases hi
        rw [toolpath_of_job hjob]
        exact (List.getElem?_eq_some_iff.mp hg).1
    · have hstopped := stop_keeps { s with machine := (s.schedule.finish s.machine).machine }
      refine ⟨hstopped.job, hstopped.renderer, hstopped.speed, ?_⟩
      show Within _ _ (Journal.events (_ ++ _))
      rw [Journal.events_append]
      exact Within.append (performFrom_within _ _ _ _ _) hstopped.within

theorem spend_keeps : ∀ (durations : List Float) (s : Session),
    KeepsProgram s (spend durations s) := by
  intro durations
  induction durations with
  | nil =>
    intro s
    exact { forward_keeps s with }
  | cons duration rest ih =>
    intro s
    have hforward := forward_keeps { s with elapsed := s.elapsed - duration }
    unfold spend
    split
    · exact ⟨rfl, rfl, rfl, .nil⟩
    · dsimp only
      split
      · exact { hforward with }
      · split
        · have hlater := ih ({ s with elapsed := s.elapsed - duration }).forward.session
          have hwithin := hlater.within
          rw [hforward.renderer, toolpath_congr hforward.job] at hwithin
          refine ⟨hlater.job.trans hforward.job, hlater.renderer.trans hforward.renderer,
            hlater.speed.trans hforward.speed, ?_⟩
          show Within _ _ (Journal.events (_ ++ _))
          rw [Journal.events_append]
          exact hforward.within.append hwithin
        · exact { hforward with }

theorem advance_keeps (s : Session) (seconds : Float) :
    KeepsProgram s (s.advance seconds) := by
  unfold advance
  split
  · exact { spend_keeps _ _ with }
  · exact ⟨rfl, rfl, rfl, .nil⟩

theorem backward_keeps (hcursor : s.cursor ≤ s.toolpath.length) :
    KeepsProgram s s.backward := by
  unfold backward
  split
  · exact ⟨rfl, rfl, rfl, .nil⟩
  · refine ⟨rfl, rfl, rfl, tell_within _ _ rfl ?_⟩
    intro i hi
    cases hi
    omega

end Session

end Machining.Playback
