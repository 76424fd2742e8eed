import Machining.Program.Reading
set_option autoImplicit false

/-!
# Order of the lines

Reading gives the commands of a program in the order of its lines.  Every command
carries the number of its line, and a line gives at most one command, so the numbers
of the commands strictly increase.
-/

namespace Machining.Program

/-- The command of a line carries the number that the line was read with. -/
theorem Command.line_of_ofLine {line : List Char} {number : Int} {source : String}
    {c : Command}
    (h : (Command.ofLine line number source).1 = some c) : c.line = number := by
  unfold Command.ofLine at h
  split at h
  · cases h
  · cases h
    rfl

theorem line_of_readLine {check : LineCheck} {number : Nat} {raw : List Char}
    {c : Command}
    (h : (readLine check number raw).command? = some c) : c.line = number := by
  unfold readLine at h
  split at h
  · cases h
  · split at h
    · cases h
    · exact Command.line_of_ofLine h

/-- The lines of a text with their numbers. -/
def numberedLines (text : String) : List (List Char × Nat) := (splitLines text.toList).zipIdx 1

theorem commands_readText (text : String) (check : LineCheck) :
    (readText text check).1.commands =
      (numberedLines text).filterMap fun p => (readLine check p.2 p.1).command? :=
  List.filterMap_map

section

variable {α β κ : Type} {f : α × Nat → Option β} (key : Nat → κ) {number : β → κ}

/-- What numbered elements give has their numbers, in their order. -/
theorem map_number_sublist (h : ∀ p y, f p = some y → number y = key p.2) :
    ∀ numbered : List (α × Nat),
      ((numbered.filterMap f).map number).Sublist (numbered.map fun p => key p.2) := by
  intro numbered
  induction numbered with
  | nil => exact List.Sublist.slnil
  | cons p rest ih =>
    rw [List.map_cons, List.filterMap_cons]
    cases hy : f p with
    | none => exact ih.cons _
    | some y =>
      rw [List.map_cons, h p y hy]
      exact ih.cons_cons _

/-- What is given with certain numbers is given by the elements with these numbers. -/
theorem filter_filterMap_number (h : ∀ p y, f p = some y → number y = key p.2)
    (q : κ → Bool) : ∀ numbered : List (α × Nat),
      (numbered.filterMap f).filter (fun y => q (number y)) =
        (numbered.filter fun p => q (key p.2)).filterMap f := by
  intro numbered
  induction numbered with
  | nil => rfl
  | cons p rest ih =>
    rw [List.filterMap_cons, List.filter_cons]
    cases hy : f p with
    | none =>
      dsimp only
      rw [ih]
      split
      · rw [List.filterMap_cons, hy]
      · rfl
    | some y =>
      dsimp only
      rw [List.filter_cons, h p y hy, ih]
      split
      · rw [List.filterMap_cons, hy]
      · rfl

end

/-- The numbers of the lines count from one. -/
theorem numberedLines_numbers (text : String) :
    (numberedLines text).map Prod.snd = List.range' 1 (splitLines text.toList).length :=
  List.zipIdx_map_snd 1 (splitLines text.toList)

/-- The line numbers of the commands of a program strictly increase. -/
theorem readText_lines_increasing (text : String) (check : LineCheck) :
    ((readText text check).1.commands.map (·.line)).Pairwise (· < ·) := by
  have hnumbers : ((numberedLines text).map fun p => (p.2 : Int)).Pairwise (· < ·) := by
    have hrange : ((numberedLines text).map Prod.snd).Pairwise (· < ·) := by
      rw [numberedLines_numbers]
      exact List.pairwise_lt_range'
    rw [List.pairwise_map] at hrange ⊢
    exact hrange.imp Int.ofNat_lt.mpr
  rw [commands_readText]
  exact hnumbers.sublist (map_number_sublist Nat.cast (fun _ _ => line_of_readLine) _)

end Machining.Program
