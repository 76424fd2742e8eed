import Machining.Program.Line
import Machining.Settings
set_option autoImplicit false

/-!
# Split texts

The lines of a text and the fields of a list are what one character separates.  None of them
has that character, and with the character between them they make up the text again.
-/

namespace Machining.Text

/-- A separator is in none of the parts that it separates. -/
theorem notMem_of_mem_splitOn {α : Type} [BEq α] [LawfulBEq α] (separator : α) (xs : List α) :
    ∀ part ∈ xs.splitOn separator, separator ∉ part := by
  induction xs with
  | nil => exact List.forall_mem_singleton.mpr List.not_mem_nil
  | cons x rest ih =>
    rw [List.splitOn_cons_eq_if_modifyHead]
    by_cases hx : (x == separator) = true
    · rw [if_pos hx]
      exact List.forall_mem_cons.mpr ⟨List.not_mem_nil, ih⟩
    · obtain ⟨part, parts, hsplit⟩ :=
        List.exists_cons_of_ne_nil (List.splitOn_ne_nil separator rest)
      rw [hsplit, List.forall_mem_cons] at ih
      have hne : separator ≠ x := fun heq => hx (beq_iff_eq.mpr heq.symm)
      rw [if_neg hx, hsplit, List.modifyHead_cons]
      exact List.forall_mem_cons.mpr ⟨List.not_mem_cons_of_ne_of_not_mem hne ih.1, ih.2⟩

/-- Splitting character by character, each behind the separator in a new part. -/
theorem eq_splitOn {split : List Char → List (List Char)} {separator : Char}
    (hnil : split [] = [[]])
    (hcons : ∀ c rest, split (c :: rest) =
      if c = separator then [] :: split rest
      else match split rest with
        | part :: parts => (c :: part) :: parts
        | [] => [[c]])
    (cs : List Char) : split cs = cs.splitOn separator := by
  induction cs with
  | nil => exact hnil
  | cons c rest ih =>
    obtain ⟨part, parts, hsplit⟩ :=
      List.exists_cons_of_ne_nil (List.splitOn_ne_nil separator rest)
    rw [hcons, ih, List.splitOn_cons_eq_if_modifyHead, hsplit]
    by_cases hc : c = separator
    · rw [if_pos hc, if_pos (beq_iff_eq.mpr hc)]
    · rw [if_neg hc, if_neg fun heq => hc (beq_iff_eq.mp heq)]
      rfl

/-- The lines of a text are what its line feeds separate. -/
theorem splitLines_eq_splitOn (cs : List Char) : Program.splitLines cs = cs.splitOn '\n' :=
  eq_splitOn rfl (fun _ _ => rfl) cs

/-- The fields of a list are what its commas separate. -/
theorem splitCommas_eq_splitOn (cs : List Char) : Settings.splitCommas cs = cs.splitOn ',' :=
  eq_splitOn rfl (fun _ _ => rfl) cs

end Machining.Text
