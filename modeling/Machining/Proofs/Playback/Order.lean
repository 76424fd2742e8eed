import Machining.Playback.Plan
import Machining.Proofs.Execution.Composition
import Machining.Proofs.Program.LineOrder
set_option autoImplicit false

/-!
# Order of playback

Playback takes the segments in order and puts in front of each the directives
anchored to it.  Execution recorded segments and directives apart, each in the order
of the commands.  This module shows that playback puts the two back together as the
commands had them: the anchors lose nothing, repeat nothing and move no directive
past a segment.
-/

namespace Machining.Playback

open Machining.Execution
open Machining.Machine
open Machining.Program
open Machining.Toolpath

/-- One element of a program in the order of playback. -/
inductive Item where
  | directive (a : Directive)
  | segment (index : Nat) (g : Segment)
  deriving DecidableEq, Repr, Inhabited

namespace Item

/-- The program line of an item. -/
def line : Item → Int
  | directive a => a.line
  | segment _ g => g.line

/-- The directive of an item. -/
def directive? : Item → Option Directive
  | directive a => some a
  | segment _ _ => none

/-- The segment of an item. -/
def segment? : Item → Option Segment
  | directive _ => none
  | segment _ g => some g

end Item

/-! ## Grouping by anchors -/

namespace Schedule

/-- The directives anchored to an index, as items. -/
def itemsAt (p : Schedule) (index : Nat) : List Item :=
  (p.directivesAt index).map .directive

/-- The segments from an index on, each with its directives in front, and the
directives anchored past the last one at the end. -/
def itemsFrom (p : Schedule) : Nat → List Segment → List Item
  | i, [] => p.itemsAt i
  | i, g :: rest => p.itemsAt i ++ .segment i g :: p.itemsFrom (i + 1) rest

/-- The segments from an index on, each with its directives in front, and no directives
after the last one. -/
def itemsAhead (p : Schedule) : Nat → List Segment → List Item
  | _, [] => []
  | i, g :: rest => p.itemsAt i ++ .segment i g :: p.itemsAhead (i + 1) rest

theorem itemsFrom_eq_append (p : Schedule) : ∀ (segments : List Segment) (i : Nat),
    p.itemsFrom i segments = p.itemsAhead i segments ++ p.itemsAt (i + segments.length) := by
  intro segments
  induction segments with
  | nil => intro i; simp [itemsFrom, itemsAhead]
  | cons g rest ih =>
    intro i
    simp [itemsFrom, itemsAhead, ih, Nat.add_assoc, Nat.add_comm 1]

theorem itemsAhead_append (p : Schedule) (later : List Segment) :
    ∀ (earlier : List Segment) (i : Nat),
      p.itemsAhead i (earlier ++ later) =
        p.itemsAhead i earlier ++ p.itemsAhead (i + earlier.length) later := by
  intro earlier
  induction earlier with
  | nil => intro i; rfl
  | cons g rest ih =>
    intro i
    simp [itemsAhead, ih, Nat.add_assoc, Nat.add_comm 1]

variable {a : Directive} {directives later : List Directive} {n : Nat}

theorem itemsAt_cons_of_eq {i : Nat} (h : a.before = i) :
    itemsAt ⟨a :: directives, n⟩ i = .directive a :: itemsAt ⟨directives, n⟩ i := by
  unfold itemsAt directivesAt
  rw [List.filter_cons_of_pos (by simpa using h), List.map_cons]

theorem itemsAt_cons_of_ne {i : Nat} (h : a.before ≠ i) :
    itemsAt ⟨a :: directives, n⟩ i = itemsAt ⟨directives, n⟩ i := by
  unfold itemsAt directivesAt
  rw [List.filter_cons_of_neg (by simpa using h)]

theorem itemsAt_eq_nil {i : Nat} (h : ∀ a ∈ directives, a.before ≠ i) :
    itemsAt ⟨directives, n⟩ i = [] := by
  unfold itemsAt directivesAt
  rw [List.filter_eq_nil_iff.mpr, List.map_nil]
  intro a ha
  simpa using h a ha

theorem itemsAt_append {i : Nat} :
    itemsAt ⟨directives ++ later, n⟩ i =
      itemsAt ⟨directives, n⟩ i ++ itemsAt ⟨later, n⟩ i := by
  simp [itemsAt, directivesAt]

/-- Directives anchored behind some segments do not come up among them. -/
theorem itemsAhead_append_directives : ∀ (segments : List Segment) (i : Nat),
    (∀ a ∈ later, ((i + segments.length : Nat) : Int) ≤ a.before) →
      itemsAhead ⟨directives ++ later, n⟩ i segments =
        itemsAhead ⟨directives, n⟩ i segments := by
  intro segments
  induction segments with
  | nil => intro i _; rfl
  | cons g rest ih =>
    intro i h
    have hlater : itemsAt ⟨later, n⟩ i = [] := by
      apply itemsAt_eq_nil
      intro a ha
      have hbefore := h a ha
      rw [List.length_cons] at hbefore
      omega
    have hrest : ∀ a ∈ later, ((i + 1 + rest.length : Nat) : Int) ≤ a.before := by
      intro a ha
      have hbefore := h a ha
      rw [List.length_cons] at hbefore
      omega
    rw [itemsAhead, itemsAhead, itemsAt_append, hlater, List.append_nil,
      ih (i + 1) hrest]

/-- A directive anchored before the first index does not come up. -/
theorem itemsFrom_cons_of_lt : ∀ (segments : List Segment) (i : Nat), a.before < i →
    itemsFrom ⟨a :: directives, n⟩ i segments =
      itemsFrom ⟨directives, n⟩ i segments := by
  intro segments
  induction segments with
  | nil => intro i h; exact itemsAt_cons_of_ne (by omega)
  | cons g rest ih =>
    intro i h
    unfold itemsFrom
    rw [itemsAt_cons_of_ne (by omega), ih (i + 1) (by omega)]

/-- A directive anchored to the first index comes first. -/
theorem itemsFrom_cons_of_eq (segments : List Segment) {i : Nat} (h : a.before = i) :
    itemsFrom ⟨a :: directives, n⟩ i segments =
      .directive a :: itemsFrom ⟨directives, n⟩ i segments := by
  cases segments with
  | nil => exact itemsAt_cons_of_eq h
  | cons g rest =>
    unfold itemsFrom
    rw [itemsAt_cons_of_eq h, itemsFrom_cons_of_lt rest (i + 1) (by omega),
      List.cons_append]

/-- Where all directives are anchored later, the segment comes first. -/
theorem itemsFrom_segment {i : Nat} {g : Segment} {segments : List Segment}
    (h : ∀ a ∈ directives, ((i + 1 : Nat) : Int) ≤ a.before) :
    itemsFrom ⟨directives, n⟩ i (g :: segments) =
      .segment i g :: itemsFrom ⟨directives, n⟩ (i + 1) segments := by
  have hnone : itemsAt ⟨directives, n⟩ i = [] := by
    apply itemsAt_eq_nil
    intro a ha
    have hbefore := h a ha
    omega
  rw [itemsFrom, hnone, List.nil_append]

end Schedule

/-! ## What the commands emit, in their order -/

/-- What one step emits when `count` segments precede it. -/
def emittedBy (count : Nat) (r : Step) : List Item :=
  r.directive?.toList.map .directive ++ r.segment?.toList.map (.segment count)

/-- What commands emit, command by command, when `count` segments precede them. -/
def emitted : Nat → Modal → List Command → List Item
  | _, _, [] => []
  | count, s, c :: rest =>
    let first := step count s c
    emittedBy count first ++
      emitted (count + first.segment?.toList.length) first.state rest

/-- No directive is anchored before the segments that precede its command. -/
theorem count_le_before : ∀ (commands : List Command) (count : Nat) (s : Modal),
    ∀ a ∈ (runFrom count s commands).directives, (count : Int) ≤ a.before := by
  intro commands
  induction commands with
  | nil => intro count s a ha; cases ha
  | cons c rest ih =>
    intro count s a ha
    rcases List.mem_append.mp ha with hfirst | hlater
    · have hbefore := (step_emission count s c).anchored (Option.mem_toList.mp hfirst)
      omega
    · have hbefore := ih _ _ a hlater
      omega

/-- No directive is anchored behind the end of the toolpath. -/
theorem before_le_count : ∀ (commands : List Command) (count : Nat) (s : Modal),
    ∀ a ∈ (runFrom count s commands).directives,
      a.before ≤ ((count + (runFrom count s commands).toolpath.length : Nat) : Int) := by
  intro commands
  induction commands with
  | nil => intro count s a ha; cases ha
  | cons c rest ih =>
    intro count s a ha
    have hlength : (runFrom count s (c :: rest)).toolpath.length =
        (step count s c).segment?.toList.length + (runFrom
          (count + (step count s c).segment?.toList.length)
          (step count s c).state rest).toolpath.length :=
      List.length_append
    rw [hlength]
    rcases List.mem_append.mp ha with hfirst | hlater
    · have hbefore := (step_emission count s c).anchored (Option.mem_toList.mp hfirst)
      omega
    · have hbefore := ih _ _ a hlater
      omega

/-- Grouping by anchors gives the order of the commands. -/
theorem itemsFrom_runFrom (n : Nat) :
    ∀ (commands : List Command) (count : Nat) (s : Modal),
      Schedule.itemsFrom ⟨(runFrom count s commands).directives, n⟩ count
        (runFrom count s commands).toolpath = emitted count s commands := by
  intro commands
  induction commands with
  | nil => intro count s; rfl
  | cons c rest ih =>
    intro count s
    simp only [runFrom, emitted, emittedBy]
    -- The command's own directive is anchored here, those after a segment are not.
    cases step_emission count s c with
    | silent segment directive position =>
      rw [segment, directive]
      exact ih count _
    | directive effect segment directive position =>
      rw [segment, directive]
      exact (Schedule.itemsFrom_cons_of_eq _ rfl).trans (congrArg _ (ih count _))
    | move g segment directive m =>
      rw [segment, directive]
      exact (Schedule.itemsFrom_segment (count_le_before rest (count + 1) _)).trans
        (congrArg _ (ih (count + 1) _))
    | cycle g segment directive m =>
      rw [segment, directive]
      exact (Schedule.itemsFrom_segment (count_le_before rest (count + 1) _)).trans
        (congrArg _ (ih (count + 1) _))

/-! ## Parts of a program -/

/-- What a program in two parts emits is what the first part emits, and then what the
second one does. -/
theorem emitted_append (later : List Command) :
    ∀ (earlier : List Command) (count : Nat) (s : Modal),
      emitted count s (earlier ++ later) =
        emitted count s earlier ++
          emitted (count + (runFrom count s earlier).toolpath.length)
            (runFrom count s earlier).state later := by
  intro earlier
  induction earlier with
  | nil => intro count s; rfl
  | cons c rest ih =>
    intro count s
    simp only [List.cons_append, emitted, runFrom, ih, List.length_append,
      List.append_assoc, Nat.add_assoc]

/-- A command that gives a segment leaves no directive at the end of the toolpath. -/
theorem before_lt_count {earlier : List Command} {c : Command} {count : Nat} {s : Modal}
    {g : Segment}
    (hg : (step (count + (runFrom count s earlier).toolpath.length)
      (runFrom count s earlier).state c).segment? = some g) :
    ∀ a ∈ (runFrom count s (earlier ++ [c])).directives,
      a.before <
        ((count + (runFrom count s (earlier ++ [c])).toolpath.length : Nat) : Int) := by
  intro a ha
  simp only [runFrom_append, runFrom, hg, List.append_nil, List.length_append,
    Option.toList_some, List.length_singleton, List.mem_append, Option.mem_toList] at ha ⊢
  rcases ha with hearlier | hlast
  · have hbefore := before_le_count earlier count s a hearlier
    omega
  · have hbefore := (step_emission _ _ c).anchored hlast
    omega

/-- Playing the segments of a first part that ends with one plays what this part emits,
whatever follows it in the program. -/
theorem itemsAhead_runFrom (n : Nat) {earlier later : List Command} {c : Command}
    {count : Nat} {s : Modal} {g : Segment}
    (hg : (step (count + (runFrom count s earlier).toolpath.length)
      (runFrom count s earlier).state c).segment? = some g) :
    Schedule.itemsAhead ⟨(runFrom count s (earlier ++ c :: later)).directives, n⟩ count
        (runFrom count s (earlier ++ [c])).toolpath =
      emitted count s (earlier ++ [c]) := by
  have hend := before_lt_count hg
  have hpart := itemsFrom_runFrom n (earlier ++ [c]) count s
  rw [Schedule.itemsFrom_eq_append, Schedule.itemsAt_eq_nil, List.append_nil] at hpart
  · rw [← hpart, List.append_cons earlier c later, runFrom_append]
    exact Schedule.itemsAhead_append_directives _ _ (count_le_before later _ _)
  · intro a ha
    have hbefore := hend a ha
    omega

/-! ## Nothing lost, nothing repeated -/

theorem filterMap_directive?_emittedBy (count : Nat) (r : Step) :
    (emittedBy count r).filterMap Item.directive? = r.directive?.toList := by
  unfold emittedBy
  cases r.directive? <;> cases r.segment? <;> rfl

theorem filterMap_segment?_emittedBy (count : Nat) (r : Step) :
    (emittedBy count r).filterMap Item.segment? = r.segment?.toList := by
  unfold emittedBy
  cases r.directive? <;> cases r.segment? <;> rfl

/-- The directives among the emitted items are the recorded ones, in recorded order. -/
theorem filterMap_directive?_emitted :
    ∀ (commands : List Command) (count : Nat) (s : Modal),
      (emitted count s commands).filterMap Item.directive? =
        (runFrom count s commands).directives := by
  intro commands
  induction commands with
  | nil => intro count s; rfl
  | cons c rest ih =>
    intro count s
    simp only [emitted, runFrom]
    rw [List.filterMap_append, filterMap_directive?_emittedBy, ih]

/-- The segments among the emitted items are the toolpath. -/
theorem filterMap_segment?_emitted :
    ∀ (commands : List Command) (count : Nat) (s : Modal),
      (emitted count s commands).filterMap Item.segment? =
        (runFrom count s commands).toolpath := by
  intro commands
  induction commands with
  | nil => intro count s; rfl
  | cons c rest ih =>
    intro count s
    simp only [emitted, runFrom]
    rw [List.filterMap_append, filterMap_segment?_emittedBy, ih]

/-! ## Lines -/

/-- A step emits at most one item, and that carries the line of its command. -/
theorem lines_emittedBy_sublist (count : Nat) (s : Modal) (c : Command) :
    ((emittedBy count (step count s c)).map Item.line).Sublist [c.line] := by
  unfold emittedBy
  cases step_emission count s c with
  | silent segment directive position =>
    rw [segment, directive]
    exact List.nil_sublist _
  | directive effect segment directive position =>
    rw [segment, directive]
    exact List.Sublist.refl _
  | move g segment directive m =>
    rw [segment, directive, ← m.line]
    exact List.Sublist.refl _
  | cycle g segment directive m =>
    rw [segment, directive, ← m.line]
    exact List.Sublist.refl _

theorem lines_emitted_sublist : ∀ (commands : List Command) (count : Nat) (s : Modal),
    ((emitted count s commands).map Item.line).Sublist (commands.map (·.line)) := by
  intro commands
  induction commands with
  | nil => intro count s; exact List.Sublist.slnil
  | cons c rest ih =>
    intro count s
    simp only [emitted, List.map_append, List.map_cons]
    exact (lines_emittedBy_sublist count s c).append (ih _ _)

/-- What a program emits comes in the order of its lines, at most one item a line. -/
theorem lines_emitted_increasing (text : String) (check : LineCheck) (s : Modal) :
    ((emitted 0 s (readText text check).1.commands).map Item.line).Pairwise (· < ·) :=
  (readText_lines_increasing text check).sublist (lines_emitted_sublist _ 0 s)

end Machining.Playback
