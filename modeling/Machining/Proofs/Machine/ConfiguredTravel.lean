import Machining.Proofs.Machine.Account
import Machining.Proofs.Text.Splitting
set_option autoImplicit false

/-!
# Configured travel

The travel of the machine may be given by a text of numbers between commas.  Whatever the
text is, it never keeps the settings from being read.  Ten numbers give the travel of the
five axes, two for each in either order, and any other text leaves the travel that no one
has set.  The exception is "not a number", which is written as a number is and stands in no
order: it is taken for one of the ten, and as the first of two it leaves an axis on which no
answer of the machine is a coordinate.
-/

namespace Machining

open Machining.Machine
open Machining.Text

/-! ## The range between two numbers -/

/-- The range goes from the lesser of two numbers to the greater. -/
structure Machine.Range.Joins (r : Range) (p q : Float) : Prop where
  inOrder : r.low ≤ r.high
  ends : (r.low == p) = true ∧ (r.high == q) = true ∨ (r.low == q) = true ∧ (r.high == p) = true

namespace Settings

section

variable {p q : Float}

theorem rangeOf_joins (hp : p.isNaN = false) (hq : q.isNaN = false) :
    (rangeOf p q).Joins p q := by
  unfold rangeOf Number.keepUnlessLess Number.keepUnlessGreater
  have hpp := Number.beq_self_iff.mpr hp
  have hqq := Number.beq_self_iff.mpr hq
  by_cases hless : q < p
  · rw [if_pos hless, if_neg (Number.not_lt_of_le (Number.le_of_lt hless))]
    exact ⟨Number.le_of_lt hless, .inr ⟨hqq, hpp⟩⟩
  have hle : p ≤ q := Number.le_of_not_lt hq hp hless
  rw [if_neg hless]
  by_cases hgreater : p < q
  · rw [if_pos hgreater]
    exact ⟨hle, .inl ⟨hpp, hqq⟩⟩
  · rw [if_neg hgreater]
    have hsame := Number.beq_of_le_of_le hle (Number.le_of_not_lt hp hq hgreater)
    exact ⟨Number.le_refl hp, .inl ⟨hpp, hsame⟩⟩

/-- Where either is "not a number", the first of the two is both ends. -/
theorem rangeOf_of_isNaN (h : p.isNaN = true ∨ q.isNaN = true) : rangeOf p q = ⟨p, p⟩ := by
  unfold rangeOf Number.keepUnlessLess Number.keepUnlessGreater
  rw [if_neg (Number.not_lt_of_isNaN h.symm), if_neg (Number.not_lt_of_isNaN h)]

/-- The ends are in order unless the first of the two is "not a number". -/
theorem rangeOf_inOrder_iff : (rangeOf p q).low ≤ (rangeOf p q).high ↔ p.isNaN = false := by
  cases hp : p.isNaN with
  | true =>
    rw [rangeOf_of_isNaN (.inl hp)]
    refine iff_of_false (fun hle => ?_) Bool.noConfusion
    exact Bool.false_ne_true ((Number.isNaN_of_le hle).1.symm.trans hp)
  | false =>
    refine iff_of_true ?_ rfl
    cases hq : q.isNaN with
    | true =>
      rw [rangeOf_of_isNaN (.inr hq)]
      exact Number.le_refl hp
    | false => exact (rangeOf_joins hp hq).inOrder

end

/-! ## The numbers of a text -/

/-- The text is made of fields between commas, one for each number, and a field is a text of
its number, with white space around it or not. -/
def Lists (s : String) (numbers : List Float) : Prop :=
  ∃ fields : List (List Char), fields ≠ [] ∧ (∀ field ∈ fields, ',' ∉ field) ∧
    s.toList = [','].intercalate fields ∧
    fields.map (fun field => readFloat? (String.ofList (trim field))) = numbers.map some

theorem mapM_eq_some_iff {α β : Type} {f : α → Option β} {row : List α} {values : List β} :
    row.mapM f = some values ↔ row.map f = values.map some := by
  induction row generalizing values with
  | nil => cases values <;> simp
  | cons a rest ih =>
    rw [List.mapM_cons]
    cases hfirst : f a with
    | none => cases values <;> simp [hfirst]
    | some b =>
      cases hrest : rest.mapM f with
      | none => cases values <;> simp [hfirst, ← ih, hrest]
      | some bs => cases values <;> simp [hfirst, ← ih, hrest]

/-- The text is read as the numbers that it lists. -/
theorem commaNumbers?_eq_some_iff {s : String} {numbers : List Float} :
    commaNumbers? s = some numbers ↔ Lists s numbers := by
  unfold commaNumbers?
  rw [mapM_eq_some_iff]
  constructor
  · intro h
    rw [splitCommas_eq_splitOn] at h
    exact ⟨s.toList.splitOn ',', List.splitOn_ne_nil ',' s.toList,
      notMem_of_mem_splitOn ',' s.toList, (List.intercalate_splitOn ',').symm, h⟩
  · rintro ⟨fields, hsome, hfields, htext, hnumbers⟩
    rw [htext, splitCommas_eq_splitOn, List.splitOn_intercalate ',' hfields hsome]
    exact hnumbers

/-! ## Ten numbers -/

/-- Pairs of numbers in a row, in the order of the axes. -/
def inRow (pairs : PerAxis (Float × Float)) : List Float :=
  Axis.all.flatMap fun axis => [(pairs.get axis).1, (pairs.get axis).2]

/-- The range of every axis between the two numbers of its pair. -/
def between (pairs : PerAxis (Float × Float)) : TravelLimits :=
  .ofFn fun axis => rangeOf (pairs.get axis).1 (pairs.get axis).2

/-- Neither number of the pair is "not a number". -/
def AreNumbers (pair : Float × Float) : Prop := pair.1.isNaN = false ∧ pair.2.isNaN = false

instance (pair : Float × Float) : Decidable (AreNumbers pair) :=
  inferInstanceAs (Decidable (_ ∧ _))

theorem travelOfNumbers?_eq_some_iff {numbers : List Float} {limits : TravelLimits} :
    travelOfNumbers? numbers = some limits ↔
      ∃ pairs, numbers = inRow pairs ∧ limits = between pairs := by
  constructor
  · intro h
    unfold travelOfNumbers? at h
    split at h
    · rename_i x0 x1 y0 y1 z0 z1 a0 a1 b0 b1
      exact ⟨⟨(x0, x1), (y0, y1), (z0, z1), (a0, a1), (b0, b1)⟩, rfl, (Option.some.inj h).symm⟩
    · cases h
  · rintro ⟨pairs, rfl, rfl⟩
    rfl

theorem inRow_injective {pairs pairs' : PerAxis (Float × Float)} (h : inRow pairs = inRow pairs') :
    pairs = pairs' := by
  obtain ⟨⟨_, _⟩, ⟨_, _⟩, ⟨_, _⟩, ⟨_, _⟩, ⟨_, _⟩⟩ := pairs
  obtain ⟨⟨_, _⟩, ⟨_, _⟩, ⟨_, _⟩, ⟨_, _⟩, ⟨_, _⟩⟩ := pairs'
  simp only [inRow, Axis.all, PerAxis.get, List.flatMap_cons, List.flatMap_nil] at h
  simp only [List.cons_append, List.nil_append, List.cons.injEq, and_true] at h
  grind

theorem between_joins {pairs : PerAxis (Float × Float)} {axis : Axis}
    (h : AreNumbers (pairs.get axis)) :
    ((between pairs).get axis).Joins (pairs.get axis).1 (pairs.get axis).2 := by
  rw [between, PerAxis.get_ofFn]
  exact rangeOf_joins h.1 h.2

/-- On an axis with "not a number" the range is a single point, which no default is. -/
theorem between_ne_default {pairs : PerAxis (Float × Float)} {axis : Axis}
    (h : ¬ AreNumbers (pairs.get axis)) : between pairs ≠ defaultTravel := by
  have hpoint : rangeOf (pairs.get axis).1 (pairs.get axis).2 =
      ⟨(pairs.get axis).1, (pairs.get axis).1⟩ := by
    apply rangeOf_of_isNaN
    rwa [AreNumbers, not_and_or, Bool.not_eq_false, Bool.not_eq_false] at h
  intro hdefault
  have hends : (defaultTravel.get axis).low = (defaultTravel.get axis).high := by
    rw [← hdefault, between, PerAxis.get_ofFn, hpoint]
  revert hends
  cases axis <;> decide

/-! ## The travel of a text -/

/-- A text that lists ten numbers gives the ranges between them. -/
theorem travelOf_of_lists {s : String} {pairs : PerAxis (Float × Float)}
    (h : Lists s (inRow pairs)) : travelOf (some s) = (between pairs, []) := by
  have hread := commaNumbers?_eq_some_iff.mpr h
  have hsome : s.isEmpty = false := by
    rw [Bool.eq_false_iff]
    intro hempty
    rw [String.isEmpty_iff.mp hempty, show commaNumbers? "" = none by decide +kernel] at hread
    cases hread
  have hpairs : travelOfNumbers? (inRow pairs) = some (between pairs) :=
    travelOfNumbers?_eq_some_iff.mpr ⟨pairs, rfl, rfl⟩
  simp only [travelOf, hsome, hread, hpairs, Bool.false_eq_true, if_false]

/-- Any other text leaves the travel that no one has set. -/
theorem travelOf_of_not_lists {s : String} (h : ¬ ∃ pairs, Lists s (inRow pairs)) :
    (travelOf (some s)).1 = defaultTravel := by
  unfold travelOf
  simp only
  split
  · rfl
  split
  · rfl
  · rename_i numbers hread
    split
    · rename_i limits hlimits
      obtain ⟨pairs, rfl, _⟩ := travelOfNumbers?_eq_some_iff.mp hlimits
      exact absurd ⟨pairs, commaNumbers?_eq_some_iff.mp hread⟩ h
    · rfl

/-- The text does not keep the settings from being read, and changes the travel only. -/
theorem ofEnvironment_travelLimits (e : Environment) (s : String) :
    ofEnvironment { e with travelLimits := some s } =
      (ofEnvironment { e with travelLimits := none }).map fun read =>
        ({ read.1 with travel := (travelOf (some s)).1 }, (travelOf (some s)).2) := by
  unfold ofEnvironment
  cases floatSetting e.largeCoordinate 1000.0 with
  | error fault => rfl
  | ok large =>
    cases floatSetting e.rapidFeedrate 5000.0 with
    | error fault => rfl
    | ok rapid => cases intSetting e.arcSegments 64 <;> rfl

theorem defaultTravel_inOrder : defaultTravel.InOrder := by
  intro axis
  cases axis <;> decide

/-! ## Answers of the machine -/

/-- The machine answers the request with a coordinate within the travel of the axis. -/
def AnswersWithin (m : Simulation) (r : MoveRequest) (axis : Axis) : Prop :=
  ∃ value, (m.moveNamed r.name r.target r.rapid).2.1 = .ok value ∧
    (m.limits.get axis).low ≤ value ∧ value ≤ (m.limits.get axis).high

/-- A machine answers moves to numbers within limits that are in order, and no others. -/
theorem answersWithin_iff {m : Simulation} {r : MoveRequest} {axis : Axis}
    (hnames : r.names axis = true) (htarget : r.target.isNaN = false) :
    AnswersWithin m r axis ↔ (m.limits.get axis).low ≤ (m.limits.get axis).high := by
  constructor
  · rintro ⟨value, _, hlow, hhigh⟩
    exact Number.le_trans hlow hhigh
  · intro hle
    obtain ⟨hlow, hhigh⟩ := Number.isNaN_of_le hle
    exact ⟨_, (m.moveNamed_of_names hnames).1, Number.clip_mem hlow hhigh hle htarget⟩

/-- What is promised of the limits that a text gives. -/
structure IsUsable (s : String) (limits : TravelLimits) : Prop where
  inOrder : limits.InOrder
  /-- Ten numbers give the travel of the axes, two for each in either order. -/
  given : ∀ pairs, Lists s (inRow pairs) → (∀ axis, AreNumbers (pairs.get axis)) →
    ∀ axis, (limits.get axis).Joins (pairs.get axis).1 (pairs.get axis).2
  /-- Any other text leaves the travel that no one has set. -/
  otherwise : (¬ ∃ pairs, Lists s (inRow pairs) ∧ ∀ axis, AreNumbers (pairs.get axis)) →
    limits = defaultTravel
  answers : ∀ (m : Simulation) (r : MoveRequest) (axis : Axis), m.limits = limits →
    r.names axis = true → r.target.isNaN = false → AnswersWithin m r axis

/-- The pairs that a text lists are the only ones. -/
theorem pairs_unique {s : String} {pairs pairs' : PerAxis (Float × Float)}
    (h : Lists s (inRow pairs)) (h' : Lists s (inRow pairs')) : pairs = pairs' := by
  rw [← commaNumbers?_eq_some_iff] at h h'
  exact inRow_injective (Option.some.inj (h.symm.trans h'))

/-- The limits of an axis are in order unless the text lists ten numbers and the first of the
axis is "not a number". -/
theorem travelOf_inOrder_iff (s : String) (axis : Axis) :
    let range := (travelOf (some s)).1.get axis
    range.low ≤ range.high ↔ ∀ pairs, Lists s (inRow pairs) → (pairs.get axis).1.isNaN = false := by
  intro range
  unfold range
  by_cases hten : ∃ pairs, Lists s (inRow pairs)
  · obtain ⟨pairs, hlists⟩ := hten
    rw [travelOf_of_lists hlists, between, PerAxis.get_ofFn, rangeOf_inOrder_iff]
    refine ⟨?_, fun h => h pairs hlists⟩
    intro hfirst pairs' hlists'
    exact pairs_unique hlists hlists' ▸ hfirst
  · rw [travelOf_of_not_lists hten]
    exact iff_of_true (defaultTravel_inOrder axis) fun pairs hlists => absurd ⟨pairs, hlists⟩ hten

/-- The promise is kept by every text but those that list ten numbers with "not a number"
among them. -/
theorem isUsable_travelOf_iff (s : String) :
    IsUsable s (travelOf (some s)).1 ↔
      ∀ pairs, Lists s (inRow pairs) → ∀ axis, AreNumbers (pairs.get axis) := by
  constructor
  · intro h pairs hlists axis
    apply Decidable.byContradiction
    intro hnot
    have hdefault : (travelOf (some s)).1 = defaultTravel := by
      apply h.otherwise
      rintro ⟨pairs', hlists', hnumbers⟩
      exact hnot (pairs_unique hlists hlists' ▸ hnumbers axis)
    rw [travelOf_of_lists hlists] at hdefault
    exact between_ne_default hnot hdefault
  · intro h
    have hordered : (travelOf (some s)).1.InOrder := fun axis =>
      (travelOf_inOrder_iff s axis).mpr fun pairs hlists => (h pairs hlists axis).1
    constructor
    · exact hordered
    · intro pairs hlists hnumbers axis
      rw [travelOf_of_lists hlists]
      exact between_joins (hnumbers axis)
    · intro hnone
      apply travelOf_of_not_lists
      rintro ⟨pairs, hlists⟩
      exact hnone ⟨pairs, hlists, h pairs hlists⟩
    · intro m r axis hlimits hnames htarget
      rw [answersWithin_iff hnames htarget, hlimits]
      exact hordered axis

/-- Whatever text gives the travel, the settings are read as they are without it, with that
travel in its place.  The travel keeps its promise unless the text lists ten numbers with
"not a number" among them.  An axis for which that is the first of the two has limits that
are in no order, and just there a machine with this travel answers no move with a coordinate
within it. -/
theorem configured_travel_usable_iff (e : Environment) (s : String) :
    let limits := (travelOf (some s)).1
    ofEnvironment { e with travelLimits := some s } =
      (ofEnvironment { e with travelLimits := none }).map (fun read =>
        ({ read.1 with travel := limits }, (travelOf (some s)).2)) ∧
    (IsUsable s limits ↔
      ∀ pairs, Lists s (inRow pairs) → ∀ axis, AreNumbers (pairs.get axis)) ∧
    ∀ axis, ((limits.get axis).low ≤ (limits.get axis).high ↔
        ∀ pairs, Lists s (inRow pairs) → (pairs.get axis).1.isNaN = false) ∧
      ∀ (m : Simulation) (r : MoveRequest), m.limits = limits → r.names axis = true →
        r.target.isNaN = false →
        (AnswersWithin m r axis ↔ (limits.get axis).low ≤ (limits.get axis).high) := by
  intro limits
  refine ⟨ofEnvironment_travelLimits e s, isUsable_travelOf_iff s, ?_⟩
  intro axis
  refine ⟨travelOf_inOrder_iff s axis, ?_⟩
  intro m r hlimits hnames htarget
  rw [answersWithin_iff hnames htarget, hlimits]

/-- A text of ten fields that begins with "not a number" is read without a warning, and a new
machine then answers a move of `x` to zero with "not a number". -/
theorem travel_beginning_with_not_a_number :
    let s := "nan,1,-2,2,-3,3,-4,4,-5,5"
    let limits := (travelOf (some s)).1
    (travelOf (some s)).2 = [] ∧ ¬ IsUsable s limits ∧
      ¬ limits.x.low ≤ limits.x.high ∧ limits ≠ defaultTravel ∧
      (Simulation.moveNamed { limits := limits } "x" 0.0 false).2.1 = .ok (0.0 / 0.0) := by
  intro s limits
  have hread : travelOf (some s) =
      ({ x := ⟨0.0 / 0.0, 0.0 / 0.0⟩, y := ⟨-2.0, 2.0⟩, z := ⟨-3.0, 3.0⟩, a := ⟨-4.0, 4.0⟩,
         b := ⟨-5.0, 5.0⟩ }, []) := by decide +kernel
  have hlimits : limits = _ := congrArg Prod.fst hread
  have hcrossed : ¬ limits.x.low ≤ limits.x.high := by
    rw [hlimits]
    decide
  refine ⟨congrArg Prod.snd hread, fun h => hcrossed (h.inOrder .x), hcrossed, ?_, ?_⟩
  · rw [hlimits]
    decide
  · rw [hlimits]
    decide +kernel

end Settings

end Machining
