import Machining.Proofs.Geometry.ArcLength
import Machining.Proofs.Playback.Acceptance
set_option autoImplicit false

/-!
# What stops an estimate

Every segment of a program has a length, and no rate but one that vanishes stops the
estimate of its duration.  So a load that is not rejected is stopped just if a segment of
its program goes at such a rate.
-/

namespace Machining.Geometry

/-- An estimate is stopped by a division by zero only, just if one of its rates vanishes. -/
theorem Estimates.division_iff {α : Type} {rates : List (Option Float)} {x : Except Fault α}
    (h : Estimates rates x) :
    (∀ fault, x = .error fault → fault = .divisionByZero) ∧
      (x = .error .divisionByZero ↔ ∃ rate ∈ rates, vanishes rate = true) := by
  rw [← List.any_eq_true]
  cases h with
  | estimate a h => simp [h]
  | division h => simp [h]

end Machining.Geometry

namespace Machining.Playback

open Machining.Execution
open Machining.Geometry
open Machining.Program
open Machining.Toolpath

theorem toolpath_jobOf (settings : Settings) (text : String) (check : LineCheck) :
    (jobOf settings text check).toolpath =
      (run {} (readText text check).1.commands).toolpath := rfl

/-- The rates of a program are sound unless one of a segment vanishes. -/
theorem not_hasSoundRates_iff (settings : Settings) (job : Job) :
    ¬ job.HasSoundRates settings ↔
      ∃ g ∈ job.toolpath, ∃ rate ∈ rates (some settings.rapidFeedrate) g,
        vanishes rate = true := by
  rw [Job.HasSoundRates, Bool.not_eq_false, List.any_eq_true]
  constructor
  · rintro ⟨rate, hrate, hvanishes⟩
    obtain ⟨g, hg, hof⟩ := List.mem_flatMap.mp hrate
    exact ⟨g, hg, rate, hof, hvanishes⟩
  · rintro ⟨g, hg, rate, hof, hvanishes⟩
    exact ⟨rate, List.mem_flatMap.mpr ⟨g, hg, hof⟩, hvanishes⟩

section

variable (settings : Settings) (s : Session) (text : String) (check : LineCheck)

/-- A load is stopped just if no line is refused and a rate of the program vanishes. -/
theorem load_stopped_iff :
    (∃ fault, (s.load settings text check).answer = .error fault) ↔
      ¬ Refuses check text ∧ ¬ (jobOf settings text check).HasSoundRates settings := by
  rw [← success_eq_false_iff, Bool.not_eq_false]
  cases load_loads settings s text check with
  | rejected refused answer => simp [answer, refused]
  | accepted durations read sound times answer => simp [answer, sound]
  | failed read unsound answer => simp [answer, read, unsound]

end

/-- Every segment of a program has a length, and an arc that makes no circle has that of its
chord.  The estimate of its duration is stopped by a division by zero only, just if a rate
that it divides by vanishes.  So a load is stopped just if a rate of a segment of its
program does, unless the check refuses a line of the text; without a check no line is
refused. -/
theorem estimates_stopped_by_vanishing_rates (text : String) (check : LineCheck) :
    let toolpath := (run {} (readText text check).1.commands).toolpath
    (∀ g ∈ toolpath,
      (∃ length, (segmentLength g).1 = .ok length) ∧
      (∀ arc, Arc.ofSegment? g = some arc →
        (arc.IsUnresolved → (segmentLength g).1 = .ok (distance g.start g.finish)) ∧
        (¬ arc.IsUnresolved → (segmentLength g).1 = arc.length)) ∧
      ∀ rapidRate,
        (∀ fault, (segmentTime rapidRate g).1 = .error fault → fault = .divisionByZero) ∧
        ((segmentTime rapidRate g).1 = .error .divisionByZero ↔
          ∃ rate ∈ rates rapidRate g, vanishes rate = true)) ∧
    (∀ settings s, (∃ fault, (Session.load s settings text check).answer = .error fault) ↔
      ¬ Refuses check text ∧
        ∃ g ∈ toolpath, ∃ rate ∈ rates (some settings.rapidFeedrate) g,
          vanishes rate = true) ∧
    ¬ Refuses acceptAll text := by
  intro toolpath
  refine ⟨?_, ?_, ?_⟩
  · intro g hg
    have hmeasurable : IsMeasurable g := runFrom_measurable zeroPosition_hasAxes g hg
    exact ⟨hmeasurable.exists_length, fun arc => segmentLength_of_arc hmeasurable,
      fun rapidRate => (segmentTime_estimates hmeasurable rapidRate).division_iff⟩
  · intro settings s
    rw [load_stopped_iff, not_hasSoundRates_iff, toolpath_jobOf]
  · rw [← success_eq_false_iff, success_acceptAll]
    exact Bool.noConfusion

/-- An arc that starts at its centre has the length of its chord, and the program that goes at
a vanishing rate cannot be loaded. -/
theorem estimates_stopped_by_vanishing_rates_at_work :
    (∃ g ∈ (run {} (readText "G2 X1 F60").1.commands).toolpath,
      ∃ arc, Arc.ofSegment? g = some arc ∧ arc.IsUnresolved ∧
        (segmentLength g).1 = .ok (distance g.start g.finish)) ∧
    (∃ g ∈ (run {} (readText vanishingProgram).1.commands).toolpath,
      ∃ rate ∈ rates (some Settings.standard.rapidFeedrate) g, vanishes rate = true) ∧
    ∃ fault, (Session.load {} .standard vanishingProgram).answer = .error fault := by
  have hany : ((run {} (readText "G2 X1 F60").1.commands).toolpath.any fun g =>
      (Arc.ofSegment? g).any fun arc => arc.IsUnresolved) = true := by decide +kernel
  obtain ⟨g, hg, hof⟩ := List.any_eq_true.mp hany
  obtain ⟨arc, harc, hunresolved⟩ := (Option.any_eq_true _ _).mp hof
  have hvanishes := (not_hasSoundRates_iff .standard _).mp jobOf_vanishingProgram.2.1
  rw [toolpath_jobOf] at hvanishes
  obtain ⟨hsegments, _, _⟩ := estimates_stopped_by_vanishing_rates "G2 X1 F60" acceptAll
  obtain ⟨_, hload, haccepts⟩ := estimates_stopped_by_vanishing_rates vanishingProgram acceptAll
  have hlength := ((hsegments g hg).2.1 arc harc).1 (of_decide_eq_true hunresolved)
  exact ⟨⟨g, hg, arc, harc, of_decide_eq_true hunresolved, hlength⟩, hvanishes,
    (hload .standard {}).mpr ⟨haccepts, hvanishes⟩⟩

end Machining.Playback
