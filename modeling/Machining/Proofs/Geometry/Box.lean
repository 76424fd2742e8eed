import Machining.Geometry.Extent
import Machining.Proofs.Geometry.Estimate
import Machining.Proofs.Number.Extremes
set_option autoImplicit false

/-!
# The box of a toolpath

The box is found from points, two for each segment.  Seen along one axis, it has the
extremes of the coordinates that the segments name there: of their ends, or of the hole
and the two heights of a drilling cycle.  It follows that neither the order of the
segments matters nor how the toolpath is cut into parts.
-/

namespace Machining.Geometry

open Machining.Execution
open Machining.Number
open Machining.Toolpath

/-! ## Steps along a list -/

section

variable {α β γ : Type}

theorem ok_of_bind {x : Except Fault α} {f : α → Except Fault β} {b : β}
    (h : x >>= f = .ok b) : ∃ a, x = .ok a ∧ f a = .ok b := by
  cases x with
  | error fault => cases h
  | ok a => exact ⟨a, rfl, h⟩

theorem mapM_eq_ok_iff {f : α → Except Fault β} {row : List α} {values : List β} :
    row.mapM f = .ok values ↔ row.map f = values.map .ok := by
  induction row generalizing values with
  | nil => cases values <;> simp [pure, Except.pure]
  | cons a rest ih =>
    rw [List.mapM_cons]
    cases hfirst : f a with
    | error fault => cases values <;> simp [bind, Except.bind, hfirst]
    | ok b =>
      cases hrest : rest.mapM f with
      | error fault =>
        cases values <;> simp [bind, Except.bind, hfirst, ← ih, hrest]
      | ok bs =>
        cases values <;> simp [bind, Except.bind, pure, Except.pure, hfirst, ← ih, hrest]

/-- Steps that all succeed succeed one after the other. -/
theorem exists_mapM {f : α → Except Fault β} {row : List α} (h : ∀ a ∈ row, ∃ b, f a = .ok b) :
    ∃ values, row.mapM f = .ok values := by
  induction row with
  | nil => exact ⟨[], rfl⟩
  | cons a rest ih =>
    obtain ⟨b, hb⟩ := h a List.mem_cons_self
    obtain ⟨bs, hbs⟩ := ih fun a' ha' => h a' (List.mem_cons_of_mem _ ha')
    refine ⟨b :: bs, ?_⟩
    rw [mapM_eq_ok_iff] at hbs ⊢
    rw [List.map_cons, List.map_cons, hb, hbs]

section

variable {f : α → Except Fault β} {row : List α} {values : List β}

theorem exists_of_mem_values (h : row.mapM f = .ok values) {b : β} (hb : b ∈ values) :
    ∃ a ∈ row, f a = .ok b := by
  have hmem : Except.ok b ∈ row.map f := by
    rw [mapM_eq_ok_iff.mp h]
    exact List.mem_map_of_mem hb
  exact List.mem_map.mp hmem

theorem exists_value_of_mem (h : row.mapM f = .ok values) {a : α} (ha : a ∈ row) :
    ∃ b ∈ values, f a = .ok b := by
  have hmem : f a ∈ row.map f := List.mem_map_of_mem ha
  rw [mapM_eq_ok_iff.mp h] at hmem
  obtain ⟨b, hb, heq⟩ := List.mem_map.mp hmem
  exact ⟨b, hb, heq.symm⟩

end

theorem mapM_flatten (f : α → Except Fault β) (parts : List (List α)) :
    parts.flatten.mapM f = (parts.mapM (List.mapM f)).map List.flatten := by
  induction parts with
  | nil => rfl
  | cons part rest ih =>
    rw [List.flatten_cons, List.mapM_append, List.mapM_cons, ih]
    cases part.mapM f with
    | error fault => rfl
    | ok values => cases rest.mapM (List.mapM f) <;> rfl

theorem mapM_map_after (f : α → Except Fault β) (g : β → γ) (row : List α) :
    (row.mapM fun a => (f a).map g) = (row.mapM f).map (List.map g) := by
  induction row with
  | nil => rfl
  | cons a rest ih =>
    rw [List.mapM_cons, List.mapM_cons, ih]
    cases f a with
    | error fault => rfl
    | ok b => cases rest.mapM f <;> rfl

end

/-! ## Boxes -/

theorem mem_linear_iff {axis : Axis} :
    axis ∈ Axis.linear ↔ axis = .x ∨ axis = .y ∨ axis = .z := by
  cases axis <;> decide

namespace Extent

/-- A bound of the box along an axis. -/
def bound (e : Extent) : Extreme → Axis → Float
  | .least, axis => e.low.get axis
  | .greatest, axis => e.high.get axis

/-- The smallest box around two boxes. -/
def join (e e' : Extent) : Extent :=
  ⟨⟨lesser e.low.x e'.low.x, lesser e.low.y e'.low.y, lesser e.low.z e'.low.z⟩,
    ⟨greater e.high.x e'.high.x, greater e.high.y e'.high.y, greater e.high.z e'.high.z⟩⟩

/-- The smallest box around some boxes; without boxes it is the origin. -/
def around : List Extent → Extent
  | [] => ofPoint ⟨0.0, 0.0, 0.0⟩
  | e :: rest => rest.foldl join e

theorem bound_join {axis : Axis} (h : axis ∈ Axis.linear) (e e' : Extent) (side : Extreme) :
    (e.join e').bound side axis = side.pick (e.bound side axis) (e'.bound side axis) := by
  rcases mem_linear_iff.mp h with rfl | rfl | rfl <;> cases side <;> rfl

/-- Boxes are the same if their bounds along the linear axes are. -/
theorem ext_bound {e e' : Extent}
    (h : ∀ axis ∈ Axis.linear, ∀ side, e.bound side axis = e'.bound side axis) : e = e' := by
  obtain ⟨⟨x, y, z⟩, ⟨u, v, w⟩⟩ := e
  obtain ⟨⟨x', y', z'⟩, ⟨u', v', w'⟩⟩ := e'
  have hx : x = x' := h .x (by decide) .least
  have hy : y = y' := h .y (by decide) .least
  have hz : z = z' := h .z (by decide) .least
  have hu : u = u' := h .x (by decide) .greatest
  have hv : v = v' := h .y (by decide) .greatest
  have hw : w = w' := h .z (by decide) .greatest
  subst hx hy hz hu hv hw
  rfl

theorem join_assoc (e e' e'' : Extent) : (e.join e').join e'' = e.join (e'.join e'') := by
  apply ext_bound
  intro axis haxis side
  rw [bound_join haxis, bound_join haxis, bound_join haxis, bound_join haxis,
    Extreme.pick_assoc]

instance : Std.Associative join := ⟨join_assoc⟩

/-- Boxes are put together in any grouping. -/
theorem foldl_join_flatten {parts : List (List Extent)} (h : ∀ part ∈ parts, part ≠ [])
    (first : Extent) :
    parts.flatten.foldl join first = (parts.map around).foldl join first := by
  induction parts generalizing first with
  | nil => rfl
  | cons part rest ih =>
    have hrest : ∀ part' ∈ rest, part' ≠ [] :=
      fun part' hpart => h part' (List.mem_cons_of_mem _ hpart)
    cases part with
    | nil => exact absurd rfl (h [] List.mem_cons_self)
    | cons e es =>
      rw [List.flatten_cons, List.foldl_append, List.foldl_cons, List.foldl_assoc, ih hrest]
      rfl

theorem around_flatten {parts : List (List Extent)} (h : ∀ part ∈ parts, part ≠ []) :
    around parts.flatten = around (parts.map around) := by
  cases parts with
  | nil => rfl
  | cons part rest =>
    have hrest : ∀ part' ∈ rest, part' ≠ [] :=
      fun part' hpart => h part' (List.mem_cons_of_mem _ hpart)
    cases part with
    | nil => exact absurd rfl (h [] List.mem_cons_self)
    | cons e es => exact (List.foldl_append ..).trans (foldl_join_flatten hrest _)

/-- The box of points is that around their boxes. -/
theorem ofPoints_eq_around (points : List Point) :
    ofPoints points = around (points.map ofPoint) := by
  cases points with
  | nil => rfl
  | cons p rest =>
    rw [List.map_cons, around, List.foldl_map]
    rfl

theorem bound_foldl_join {axis : Axis} (h : axis ∈ Axis.linear) (side : Extreme)
    (row : List Extent) (first : Extent) :
    (row.foldl join first).bound side axis =
      (row.map fun e => e.bound side axis).foldl side.pick (first.bound side axis) := by
  induction row generalizing first with
  | nil => rfl
  | cons e rest ih => rw [List.foldl_cons, ih, bound_join h, List.map_cons, List.foldl_cons]

/-- Along an axis, the box of points has the extremes of their coordinates. -/
theorem bound_ofPoints {axis : Axis} (h : axis ∈ Axis.linear) (side : Extreme) (p : Point)
    (rest : List Point) :
    (ofPoints (p :: rest)).bound side axis =
      (rest.map fun q => q.get axis).foldl side.pick (p.get axis) := by
  rw [ofPoints_eq_around, List.map_cons, around, bound_foldl_join h, List.map_map]
  cases side <;> rfl

end Extent

/-! ## Coordinates of a segment -/

/-- The coordinates along a linear axis that a segment names: of its two ends, or for a
drilling cycle those of the hole, whose heights are the depth and the retract height. -/
def coordinatesOf (g : Segment) (axis : Axis) : List Float :=
  match g.shape with
  | .drill _ hole depth retract =>
    if axis = .z then [depth, retract] else (hole.get? axis.name).toList
  | _ => (g.start.get? axis.name).toList ++ (g.finish.get? axis.name).toList

section

variable {g : Segment} {axis : Axis}

theorem coordinatesOf_cycle {number : Int} {hole : AddressMap} {depth retract : Float}
    (h : g.shape = .drill number hole depth retract) :
    coordinatesOf g axis =
      if axis = .z then [depth, retract] else (hole.get? axis.name).toList := by
  unfold coordinatesOf
  rw [h]

theorem coordinatesOf_path
    (h : ∀ number hole depth retract, g.shape ≠ .drill number hole depth retract) :
    coordinatesOf g axis =
      (g.start.get? axis.name).toList ++ (g.finish.get? axis.name).toList := by
  unfold coordinatesOf
  split
  · rename_i hshape
    exact absurd hshape (h _ _ _ _)
  · rfl

end

theorem get?_of_pointOf {m : AddressMap} {p : Point} (h : pointOf m = .ok p) {axis : Axis}
    (haxis : axis ∈ Axis.linear) : m.get? axis.name = some (p.get axis) := by
  obtain ⟨x, hx, h⟩ := ok_of_bind h
  obtain ⟨y, hy, h⟩ := ok_of_bind h
  obtain ⟨z, hz, h⟩ := ok_of_bind h
  cases h
  rcases mem_linear_iff.mp haxis with rfl | rfl | rfl
  · exact AddressMap.get_eq_ok_iff.mp hx
  · exact AddressMap.get_eq_ok_iff.mp hy
  · exact AddressMap.get_eq_ok_iff.mp hz

theorem get_of_holePoint {hole : AddressMap} {height : Float} {p : Point}
    (h : holePoint hole height = .ok p) :
    hole.get? "x" = some p.x ∧ hole.get? "y" = some p.y ∧ p.z = height := by
  obtain ⟨x, hx, h⟩ := ok_of_bind h
  obtain ⟨y, hy, h⟩ := ok_of_bind h
  cases h
  exact ⟨AddressMap.get_eq_ok_iff.mp hx, AddressMap.get_eq_ok_iff.mp hy, rfl⟩

/-- The two points of a segment have its coordinates, and no others. -/
theorem mem_coordinatesOf_iff {g : Segment} {points : List Point}
    (h : extremePoints g = .ok points) {axis : Axis} (haxis : axis ∈ Axis.linear) {v : Float} :
    v ∈ coordinatesOf g axis ↔ ∃ p ∈ points, p.get axis = v := by
  unfold extremePoints at h
  split at h
  · rename_i number hole depth retract hshape
    obtain ⟨bottom, hbottom, h⟩ := ok_of_bind h
    obtain ⟨top, htop, h⟩ := ok_of_bind h
    cases h
    obtain ⟨hx, hy, hz⟩ := get_of_holePoint hbottom
    obtain ⟨hx', hy', hz'⟩ := get_of_holePoint htop
    rw [coordinatesOf_cycle hshape]
    rcases mem_linear_iff.mp haxis with rfl | rfl | rfl
    · have heq : top.x = bottom.x := Option.some.inj (hx'.symm.trans hx)
      simp [Axis.name, hx, Point.get, heq, eq_comm]
    · have heq : top.y = bottom.y := Option.some.inj (hy'.symm.trans hy)
      simp [Axis.name, hy, Point.get, heq, eq_comm]
    · simp [Point.get, hz, hz', eq_comm]
  · rename_i hshape
    obtain ⟨start, hstart, h⟩ := ok_of_bind h
    obtain ⟨finish, hfinish, h⟩ := ok_of_bind h
    cases h
    have hstart := get?_of_pointOf hstart haxis
    have hfinish := get?_of_pointOf hfinish haxis
    rw [coordinatesOf_path hshape]
    simp [hstart, hfinish, eq_comm]

theorem ne_nil_of_extremePoints {g : Segment} {points : List Point}
    (h : extremePoints g = .ok points) : points ≠ [] := by
  unfold extremePoints at h
  split at h
  all_goals
    obtain ⟨_, _, h⟩ := ok_of_bind h
    obtain ⟨_, _, h⟩ := ok_of_bind h
    cases h
    exact List.cons_ne_nil _ _

theorem exists_pointOf {m : AddressMap} (h : HasAxes m) : ∃ p, pointOf m = .ok p := by
  obtain ⟨x, hx⟩ := h.exists_get .x
  obtain ⟨y, hy⟩ := h.exists_get .y
  obtain ⟨z, hz⟩ := h.exists_get .z
  refine ⟨⟨x, y, z⟩, ?_⟩
  simp only [Axis.name] at hx hy hz
  unfold pointOf
  rw [hx, hy, hz]
  rfl

/-- A measurable segment has its two points. -/
theorem IsMeasurable.exists_extremePoints {g : Segment} (h : IsMeasurable g) :
    ∃ points, extremePoints g = .ok points := by
  unfold extremePoints
  split
  · rename_i number hole depth retract hshape
    obtain ⟨⟨x, hx⟩, ⟨y, hy⟩⟩ := h.hole_of_shape hshape
    unfold holePoint
    rw [hx, hy]
    exact ⟨_, rfl⟩
  · obtain ⟨start, hstart⟩ := exists_pointOf h.start
    obtain ⟨finish, hfinish⟩ := exists_pointOf h.finish
    rw [hstart, hfinish]
    exact ⟨_, rfl⟩

/-! ## The box of a toolpath -/

namespace Extent

variable {toolpath : List Segment} {e : Extent}

theorem exists_points (h : ofToolpath toolpath = .ok e) :
    ∃ points, toolpath.mapM extremePoints = .ok points ∧ e = ofPoints points.flatten := by
  unfold ofToolpath at h
  cases hpoints : toolpath.mapM extremePoints with
  | error fault =>
    rw [hpoints] at h
    cases h
  | ok points =>
    rw [hpoints] at h
    cases h
    exact ⟨points, rfl, rfl⟩

theorem points_ne_nil {points : List (List Point)}
    (h : toolpath.mapM extremePoints = .ok points) (hsome : toolpath ≠ []) :
    points.flatten ≠ [] := by
  intro hnil
  obtain ⟨g, rest, rfl⟩ := List.exists_cons_of_ne_nil hsome
  obtain ⟨ps, hps, hgp⟩ := exists_value_of_mem h List.mem_cons_self
  exact ne_nil_of_extremePoints hgp (List.flatten_eq_nil_iff.mp hnil ps hps)

/-- There is a box if every segment can be measured. -/
theorem exists_ofToolpath (h : ∀ g ∈ toolpath, IsMeasurable g) :
    ∃ e, ofToolpath toolpath = .ok e := by
  obtain ⟨points, hpoints⟩ := exists_mapM fun g hg => (h g hg).exists_extremePoints
  unfold ofToolpath
  rw [hpoints]
  exact ⟨_, rfl⟩

/-- Along an axis, the bounds of the box are the extremes of a row of numbers, which are
the coordinates of the segments. -/
theorem exists_row (h : ofToolpath toolpath = .ok e) (hsome : toolpath ≠ []) {axis : Axis}
    (haxis : axis ∈ Axis.linear) :
    ∃ first row, (∀ side : Extreme, e.bound side axis = row.foldl side.pick first) ∧
      ∀ v, v ∈ first :: row ↔ ∃ g ∈ toolpath, v ∈ coordinatesOf g axis := by
  obtain ⟨points, hpoints, rfl⟩ := exists_points h
  have hmem : ∀ v, v ∈ points.flatten.map (fun p => p.get axis) ↔
      ∃ g ∈ toolpath, v ∈ coordinatesOf g axis := by
    intro v
    constructor
    · intro hv
      obtain ⟨p, hp, rfl⟩ := List.mem_map.mp hv
      obtain ⟨ps, hps, hp⟩ := List.mem_flatten.mp hp
      obtain ⟨g, hg, hgp⟩ := exists_of_mem_values hpoints hps
      exact ⟨g, hg, (mem_coordinatesOf_iff hgp haxis).mpr ⟨p, hp, rfl⟩⟩
    · rintro ⟨g, hg, hv⟩
      obtain ⟨ps, hps, hgp⟩ := exists_value_of_mem hpoints hg
      obtain ⟨p, hp, rfl⟩ := (mem_coordinatesOf_iff hgp haxis).mp hv
      exact List.mem_map.mpr ⟨p, List.mem_flatten.mpr ⟨ps, hps, hp⟩, rfl⟩
  obtain ⟨p, rest, hflat⟩ := List.exists_cons_of_ne_nil (points_ne_nil hpoints hsome)
  rw [hflat] at hmem ⊢
  exact ⟨p.get axis, rest.map fun q : Point => q.get axis,
    fun side => bound_ofPoints haxis side p rest, hmem⟩

section

variable {axis : Axis}

/-- Every bound is a coordinate of some segment. -/
theorem bound_mem (h : ofToolpath toolpath = .ok e) (hsome : toolpath ≠ [])
    (haxis : axis ∈ Axis.linear) (side : Extreme) :
    ∃ g ∈ toolpath, e.bound side axis ∈ coordinatesOf g axis := by
  obtain ⟨first, row, hbound, hmem⟩ := exists_row h hsome haxis
  rw [hbound, ← hmem]
  exact Extreme.foldl_pick_mem side first row

/-- The coordinates of all segments are within the bounds, if they are numbers. -/
theorem bound_bounds (h : ofToolpath toolpath = .ok e) (haxis : axis ∈ Axis.linear)
    (hnumbers : ∀ g ∈ toolpath, ∀ v ∈ coordinatesOf g axis, v.isNaN = false)
    {g : Segment} (hg : g ∈ toolpath) {v : Float} (hv : v ∈ coordinatesOf g axis)
    (side : Extreme) : side.Bounds (e.bound side axis) v := by
  obtain ⟨first, row, hbound, hmem⟩ := exists_row h (List.ne_nil_of_mem hg) haxis
  have hrow : ∀ v ∈ first :: row, v.isNaN = false := by
    intro v hv
    obtain ⟨g', hg', hv'⟩ := (hmem v).mp hv
    exact hnumbers g' hg' v hv'
  rw [hbound]
  exact Extreme.foldl_pick_bounds side hrow v ((hmem v).mpr ⟨g, hg, hv⟩)

end

/-- The bounds along the linear axes are the same as numbers. -/
def SameBounds (e e' : Extent) : Prop :=
  ∀ axis ∈ Axis.linear, SameNumber (e.low.get axis) (e'.low.get axis) ∧
    SameNumber (e.high.get axis) (e'.high.get axis)

theorem sameBounds_iff {e e' : Extent} :
    e.SameBounds e' ↔ ∀ axis ∈ Axis.linear, ∀ side,
      SameNumber (e.bound side axis) (e'.bound side axis) := by
  constructor
  · intro h axis haxis side
    cases side with
    | least => exact (h axis haxis).1
    | greatest => exact (h axis haxis).2
  · intro h axis haxis
    exact ⟨h axis haxis .least, h axis haxis .greatest⟩

/-- Toolpaths of the same segments have the same box, in whatever order and however often
the segments come. -/
theorem ofToolpath_congr {toolpath' : List Segment} (h : ofToolpath toolpath = .ok e)
    (hsame : ∀ g, g ∈ toolpath ↔ g ∈ toolpath') :
    ∃ e', ofToolpath toolpath' = .ok e' ∧ e.SameBounds e' := by
  obtain ⟨e', he'⟩ : ∃ e', ofToolpath toolpath' = .ok e' := by
    obtain ⟨points, hpoints, _⟩ := exists_points h
    obtain ⟨points', hpoints'⟩ := exists_mapM fun g (hg : g ∈ toolpath') =>
      (exists_value_of_mem hpoints ((hsame g).mpr hg)).imp fun _ => And.right
    unfold ofToolpath
    rw [hpoints']
    exact ⟨_, rfl⟩
  refine ⟨e', he', sameBounds_iff.mpr ?_⟩
  intro axis haxis side
  cases toolpath with
  | nil =>
    have hnil : toolpath' = [] := List.eq_nil_iff_forall_not_mem.mpr
      fun g hg => List.not_mem_nil ((hsame g).mpr hg)
    subst hnil
    cases h.symm.trans he'
    exact sameNumber_refl _
  | cons g rest =>
    have hsome' : toolpath' ≠ [] := List.ne_nil_of_mem ((hsame g).mp List.mem_cons_self)
    obtain ⟨first, row, hbound, hmem⟩ := exists_row h (List.cons_ne_nil _ _) haxis
    obtain ⟨first', row', hbound', hmem'⟩ := exists_row he' hsome' haxis
    rw [hbound, hbound']
    apply Extreme.foldl_pick_sameNumber
    intro v
    rw [hmem, hmem']
    simp only [hsame]

/-- The box of a concatenation is that around the boxes of its parts. -/
theorem ofToolpath_flatten (parts : List (List Segment)) :
    ofToolpath parts.flatten =
      ((parts.filter fun part => !part.isEmpty).mapM ofToolpath).map around := by
  rw [← List.flatten_filter_not_isEmpty]
  have hsome : ∀ part ∈ parts.filter fun part => !part.isEmpty, part ≠ [] := by
    intro part hpart hnil
    rw [List.mem_filter, hnil] at hpart
    cases hpart.2
  generalize parts.filter (fun part => !part.isEmpty) = parts at hsome
  have hboxes : parts.mapM ofToolpath =
      (parts.mapM (List.mapM extremePoints)).map (List.map fun ps => ofPoints ps.flatten) :=
    mapM_map_after ..
  rw [hboxes, ofToolpath, mapM_flatten]
  cases hpoints : parts.mapM (List.mapM extremePoints) with
  | error fault => rfl
  | ok points =>
    have hboxed : ∀ part ∈ points.map fun ps => ps.flatten.map ofPoint, part ≠ [] := by
      intro part hpart hnil
      obtain ⟨ps, hps, rfl⟩ := List.mem_map.mp hpart
      obtain ⟨part, hpart, hpoints⟩ := exists_of_mem_values hpoints hps
      exact points_ne_nil hpoints (hsome part hpart) (List.map_eq_nil_iff.mp hnil)
    show Except.ok (ofPoints points.flatten.flatten) =
      Except.ok (around (points.map fun ps => ofPoints ps.flatten))
    have haround := around_flatten hboxed
    rw [List.map_map] at haround
    simp only [ofPoints_eq_around]
    rw [List.flatten_flatten, List.map_flatten, List.map_map]
    exact congrArg Except.ok haround

end Extent

end Machining.Geometry
