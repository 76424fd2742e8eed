import Machining.Program.Reading
import Machining.Proofs.Execution.Emission
set_option autoImplicit false

/-!
# Continuity of the toolpath

A run moves the tool without jumps: it sets out from the position that it was given,
every segment starts where the one before it ends, and the last one ends at the
position that the run tracks.  No command list breaks the chain, whatever it mixes
and whichever of its commands fail.
-/

namespace Machining.Execution

open Machining.Program
open Machining.Toolpath

/-! ## Positions on the five axes -/

/-- The position has exactly the five axes, in any order. -/
def HasAxes (m : AddressMap) : Prop := m.addresses.Perm (Axis.all.map Axis.name)

instance (m : AddressMap) : Decidable (HasAxes m) :=
  inferInstanceAs (Decidable (List.Perm _ _))

theorem zeroPosition_hasAxes : HasAxes zeroPosition := List.Perm.refl _

/-- An address of a map has a number. -/
theorem exists_get?_of_mem_addresses {m : AddressMap} {address : String}
    (h : address ∈ m.addresses) : ∃ value, m.get? address = some value := by
  obtain ⟨entry, hentry, rfl⟩ := List.mem_map.mp h
  cases hvalue : m.get? entry.1 with
  | some value => exact ⟨value, rfl⟩
  | none =>
    exfalso
    have hnot := List.lookup_eq_none_iff.mp hvalue entry hentry
    simp at hnot

namespace HasAxes

variable {m : AddressMap}

theorem mem_addresses (h : HasAxes m) (axis : Axis) : axis.name ∈ m.addresses :=
  h.mem_iff.mpr (List.mem_map_of_mem (Axis.mem_all axis))

/-- Every axis can be looked up. -/
theorem exists_get (h : HasAxes m) (axis : Axis) :
    ∃ value, m.get axis.name = .ok value := by
  obtain ⟨value, hvalue⟩ := exists_get?_of_mem_addresses (h.mem_addresses axis)
  refine ⟨value, ?_⟩
  unfold AddressMap.get
  rw [hvalue]

/-- Moving an axis keeps the axes. -/
theorem set (h : HasAxes m) (axis : Axis) (value : Float) :
    HasAxes (m.set axis.name value) := by
  unfold HasAxes
  rw [AddressMap.addresses_set, if_pos (h.mem_addresses axis)]
  exact h

end HasAxes

namespace Modal

variable {s : Modal}

theorem exists_target (h : HasAxes s.position) (axis : Axis) (value : Float) :
    ∃ coordinate, s.target axis value = .ok coordinate := by
  unfold target
  split
  · exact ⟨value, rfl⟩
  · obtain ⟨current, hcurrent⟩ := h.exists_get axis
    rw [hcurrent]
    exact ⟨current + value, rfl⟩

theorem exists_moveAxes (h : HasAxes s.position) (params : AddressMap) :
    ∀ (axes : List Axis) (reached : AddressMap), HasAxes reached →
      ∃ finish, s.moveAxes params axes reached = .ok finish ∧ HasAxes finish := by
  intro axes
  induction axes with
  | nil => intro reached hreached; exact ⟨reached, rfl, hreached⟩
  | cons axis rest ih =>
    intro reached hreached
    unfold moveAxes
    split
    · exact ih reached hreached
    · rename_i value _
      obtain ⟨coordinate, hcoordinate⟩ := exists_target h axis value
      rw [hcoordinate]
      exact ih _ (hreached.set axis coordinate)

/-- From a position on the five axes every move arrives at one. -/
theorem exists_destination (h : HasAxes s.position) (params : AddressMap) :
    ∃ finish, s.destination params = .ok finish ∧ HasAxes finish :=
  exists_moveAxes h params Axis.all s.position h

end Modal

/-! ## One step -/

/-- The segments lead from the first position to the second without a jump. -/
def Leads : AddressMap → List Segment → AddressMap → Prop
  | p, [], q => q = p
  | p, g :: rest, q => g.start = p ∧ Leads g.finish rest q

/-- One more segment in front, if there is one, extends a path backwards. -/
theorem step_leads (count : Nat) (s : Modal) (c : Command) {rest : List Segment}
    {q : AddressMap} (h : Leads (step count s c).state.position rest q) :
    Leads s.position ((step count s c).segment?.toList ++ rest) q := by
  cases step_emission count s c with
  | silent segment directive position =>
    rw [segment, ← position]
    exact h
  | directive effect segment directive position =>
    rw [segment, ← position]
    exact h
  | move g segment directive m =>
    rw [segment]
    exact ⟨m.start, m.finish ▸ h⟩
  | cycle g segment directive m =>
    rw [segment]
    refine ⟨m.start, ?_⟩
    rw [m.finish, ← m.position]
    exact h

/-- What a step does to a position on the five axes. -/
theorem step_hasAxes (count : Nat) {s : Modal} (c : Command)
    (h : HasAxes s.position) :
    HasAxes (step count s c).state.position ∧
      ∀ g, (step count s c).segment? = some g →
        (HasAxes g.start ∧ HasAxes g.finish) ∧
          (g.kind = .drill → g.start = g.finish) := by
  cases step_emission count s c with
  | silent segment directive position =>
    refine ⟨position ▸ h, ?_⟩
    intro g hg
    rw [segment] at hg
    cases hg
  | directive effect segment directive position =>
    refine ⟨position ▸ h, ?_⟩
    intro g hg
    rw [segment] at hg
    cases hg
  | move g segment directive m =>
    obtain ⟨finish, hfinish, haxes⟩ := Modal.exists_destination h c.params
    have hg : g.finish = finish := Except.ok.inj (m.reached.symm.trans hfinish)
    have hend : HasAxes g.finish := hg ▸ haxes
    refine ⟨m.finish ▸ hend, ?_⟩
    intro g' hg'
    rw [segment] at hg'
    cases hg'
    exact ⟨⟨m.start ▸ h, hend⟩, fun hkind => absurd hkind m.kind⟩
  | cycle g segment directive m =>
    refine ⟨m.position ▸ h, ?_⟩
    intro g' hg'
    rw [segment] at hg'
    cases hg'
    exact ⟨⟨m.start ▸ h, m.finish ▸ h⟩, fun _ => m.start.trans m.finish.symm⟩

/-! ## Whole runs -/

theorem runFrom_leads : ∀ (commands : List Command) (count : Nat) (s : Modal),
    Leads s.position (runFrom count s commands).toolpath
      (runFrom count s commands).state.position := by
  intro commands
  induction commands with
  | nil => intro count s; rfl
  | cons c rest ih => intro count s; exact step_leads count s c (ih _ _)

theorem runFrom_hasAxes : ∀ (commands : List Command) (count : Nat) (s : Modal),
    HasAxes s.position →
      ∀ g ∈ (runFrom count s commands).toolpath,
        (HasAxes g.start ∧ HasAxes g.finish) ∧
          (g.kind = .drill → g.start = g.finish) := by
  intro commands
  induction commands with
  | nil => intro count s _ g hg; cases hg
  | cons c rest ih =>
    intro count s h g hg
    obtain ⟨hstate, hsegment⟩ := step_hasAxes count c h
    rcases List.mem_append.mp hg with hfirst | hlater
    · exact hsegment g (Option.mem_toList.mp hfirst)
    · exact ih _ _ hstate g hlater

/-! ## Reading a path by position -/

theorem Leads.head {p q : AddressMap} {g : Segment} :
    ∀ {segments : List Segment}, Leads p segments q → segments.head? = some g →
      g.start = p
  | [], _, hg => by cases hg
  | _ :: _, h, hg => by
    cases hg
    exact h.1

theorem Leads.link {p q : AddressMap} {earlier later : Segment} :
    ∀ {segments : List Segment} {i : Nat}, Leads p segments q →
      segments[i]? = some earlier → segments[i + 1]? = some later →
        later.start = earlier.finish := by
  intro segments
  induction segments generalizing p with
  | nil => intro i _ hearlier; cases hearlier
  | cons g rest ih =>
    intro i h hearlier hlater
    cases i with
    | zero =>
      cases hearlier
      exact Leads.head h.2 (by rw [List.head?_eq_getElem?]; exact hlater)
    | succ i => exact ih h.2 hearlier hlater

theorem Leads.last {p q : AddressMap} {g : Segment} :
    ∀ {segments : List Segment}, Leads p segments q → segments.getLast? = some g →
      g.finish = q := by
  intro segments
  induction segments generalizing p with
  | nil => intro _ hg; cases hg
  | cons g' rest ih =>
    intro h hg
    cases rest with
    | nil =>
      cases hg
      exact h.2.symm
    | cons next rest => exact ih h.2 (by rwa [List.getLast?_cons_cons] at hg)

/-- A run that moves the tool from a position without a jump, on the five axes
throughout. -/
structure Run.Continuous (origin : AddressMap) (r : Run) : Prop where
  /-- The first segment starts at the origin. -/
  departure : ∀ g, r.toolpath.head? = some g → g.start = origin
  /-- Every later segment starts where the one before it ends. -/
  link : ∀ i earlier later, r.toolpath[i]? = some earlier →
    r.toolpath[i + 1]? = some later → later.start = earlier.finish
  /-- The last segment ends at the tracked position. -/
  arrival : ∀ g, r.toolpath.getLast? = some g → g.finish = r.state.position
  /-- Without segments the tracked position is the origin. -/
  rest : r.toolpath = [] → r.state.position = origin
  axes : ∀ g ∈ r.toolpath, HasAxes g.start ∧ HasAxes g.finish
  /-- Drilling does not move the tracked position. -/
  drill : ∀ g ∈ r.toolpath, g.kind = .drill → g.start = g.finish

/-- Every run from a position on the five axes is continuous. -/
theorem run_continuous (s : Modal) (commands : List Command)
    (h : HasAxes s.position) : (run s commands).Continuous s.position := by
  have hleads := runFrom_leads commands 0 s
  have haxes := runFrom_hasAxes commands 0 s h
  exact
    { departure := fun _ hg => hleads.head hg
      link := fun _ _ _ hearlier hlater => hleads.link hearlier hlater
      arrival := fun _ hg => hleads.last hg
      rest := by
        intro hnil
        have hnil' : (runFrom 0 s commands).toolpath = [] := hnil
        rw [hnil'] at hleads
        exact hleads
      axes := fun g hg => (haxes g hg).1
      drill := fun g hg => (haxes g hg).2 }

/-- The program of all kinds of segments, with a cycle that fails and an origin
given in another order of the axes. -/
theorem run_continuous_mixed_program :
    let s : Modal :=
      { position := ⟨[("b", 0.5), ("z", 20.0), ("a", -0.0), ("x", 1.0), ("y", 2.0)]⟩
        positioning := 91 }
    let commands := (readText
      "X1 B2\nG81 Z-1 S5\nG2 X4 I2\nG92 X0\nG90 G18\nG82 X9 Z-2 R3\nM3 S10\nF50\nG1 Y7").1.commands
    HasAxes s.position ∧ (run s commands).issues.length = 1 ∧
      (run s commands).toolpath.length = 5 ∧ (run s commands).Continuous s.position := by
  refine ⟨by decide, by decide +kernel, by decide +kernel, ?_⟩
  exact run_continuous _ _ (by decide)

end Machining.Execution
