import Machining.Proofs.Number.Definedness
import Machining.Proofs.Playback.Loading
import Machining.Proofs.Program.Gathering
import Machining.Proofs.Program.LineLocality
set_option autoImplicit false

/-!
# No text is rejected for what it says

A load can be rejected, and reading a line word by word can fail at every word.  But every
numeral that a word can have is a number text, and a function that is superseded has a
code, so no line fails for what it says.  What is left is the caller's own check: a load is
rejected just if the check refuses a line that has content.
-/

namespace Machining.Program

/-! ## Refused lines -/

/-- The check refuses a line of the text that has content. -/
def Refuses (check : LineCheck) (text : String) : Prop :=
  ∃ (n : Nat) (raw : List Char) (reason : String), (splitLines text.toList)[n]? = some raw ∧
    lineContent raw ≠ [] ∧ check (n + 1) = some reason

/-- A line gives an issue just if it has content and the check refuses it. -/
theorem isSome_issue_readLine_iff (check : LineCheck) (number : Nat) (raw : List Char) :
    (readLine check number raw).issue?.isSome = true ↔
      lineContent raw ≠ [] ∧ ∃ reason, check number = some reason := by
  cases hcheck : check number with
  | none =>
    have hissue : (readLine check number raw).issue? = none := by
      unfold readLine
      rw [hcheck]
      split <;> rfl
    simp [hissue]
  | some reason =>
    rw [(readLine_of_refused raw hcheck).2]
    by_cases hempty : lineContent raw = []
    · simp [hempty]
    · simp [hempty]

/-- Reading succeeds unless the check refuses a line that has content. -/
theorem success_eq_false_iff (text : String) (check : LineCheck) :
    (readText text check).1.success = false ↔ Refuses check text := by
  have hempty : (readText text check).1.success = false ↔
      ∃ p ∈ numberedLines text, (readLine check p.2 p.1).issue?.isSome = true := by
    unfold Reading.success
    rw [issues_readText, List.isEmpty_eq_false_iff, Ne, List.filterMap_eq_nil_iff]
    simp [Option.isSome_iff_ne_none]
  rw [hempty]
  constructor
  · rintro ⟨⟨raw, number⟩, hline, hissue⟩
    obtain ⟨hcontent, reason, hreason⟩ := (isSome_issue_readLine_iff check number raw).mp hissue
    obtain ⟨hfirst, hraw⟩ := List.mk_mem_zipIdx_iff_le_and_getElem?_sub.mp hline
    refine ⟨number - 1, raw, reason, hraw, hcontent, ?_⟩
    rw [Nat.sub_add_cancel hfirst]
    exact hreason
  · rintro ⟨n, raw, reason, hraw, hcontent, hreason⟩
    have hline : (raw, n + 1) ∈ numberedLines text :=
      List.mk_mem_zipIdx_iff_le_and_getElem?_sub.mpr ⟨Nat.le_add_left 1 n, hraw⟩
    have hissue := (isSome_issue_readLine_iff check (n + 1) raw).mpr ⟨hcontent, reason, hreason⟩
    exact ⟨(raw, n + 1), hline, hissue⟩

theorem success_acceptAll (text : String) : (readText text acceptAll).1.success = true := by
  rw [← Bool.not_eq_false, success_eq_false_iff]
  rintro ⟨_, _, _, _, _, hreason⟩
  cases hreason

end Machining.Program

namespace Machining.Playback

open Machining.Program

section

variable (settings : Settings) (s : Session) (text : String) (check : LineCheck)

theorem load_rejected_iff :
    (∃ issues, (s.load settings text check).answer = .ok (.rejected issues)) ↔
      Refuses check text := by
  rw [← success_eq_false_iff]
  cases load_loads settings s text check with
  | rejected refused answer => simp [answer, refused]
  | accepted durations read sound times answer => simp [answer, read]
  | failed read unsound answer => simp [answer, read]

/-- No text is rejected for what it says: read word by word, with conversions that may
fail, every text is read as it is read in one go, and without a check no line gives an
issue; every numeral of a word is converted, to a number or an infinity; and a load is
rejected just if the check refuses a line that has content. -/
theorem rejected_by_check_alone :
    readTextByWords text check = readText text check ∧
    (readTextByWords text acceptAll).1.success = true ∧
    (∀ cs : List Char, Numeral.IsText cs →
      ∃ x, readFloat? (String.ofList cs) = some x ∧ x.isNaN = false) ∧
    ((∃ issues, (s.load settings text check).answer = .ok (.rejected issues)) ↔
      Refuses check text) := by
  refine ⟨readTextByWords_eq text check, ?_, ?_, load_rejected_iff settings s text check⟩
  · rw [readTextByWords_eq]
    exact success_acceptAll text
  · intro cs hcs
    obtain ⟨n, hwritten, rfl⟩ := hcs.exists_isWritten
    exact ⟨n.value, hwritten.readFloat?, n.isNaN_value⟩

end

/-- A numeral of four hundred Arabic digits is converted, and a check that refuses the
second line of a text has the text rejected. -/
theorem rejected_by_check_alone_in_two_lines :
    (∃ x, readFloat? (String.ofList ('-' :: List.replicate 400 '٣')) = some x ∧
      x.isNaN = false) ∧
    ∃ issues, (Session.load {} Settings.standard (String.ofList ['%', '\n', 'G', '0'])
      fun number => if number = 2 then some "refused" else none).answer =
        .ok (.rejected issues) := by
  have htext : Numeral.IsText ('-' :: List.replicate 400 '٣') := by
    refine ⟨['-'], [], [], List.replicate 400 '٣', .inr (.inr rfl), ?_, .inl rfl, ?_, ?_, rfl⟩
    · intro c hc
      cases hc
    · intro c hc
      rw [List.eq_of_mem_replicate hc]
      decide
    · exact List.cons_ne_nil _ _
  have hrefuses : Refuses (fun number => if number = 2 then some "refused" else none)
      (String.ofList ['%', '\n', 'G', '0']) := by
    refine ⟨1, ['G', '0'], "refused", ?_, by decide, rfl⟩
    rw [String.toList_ofList]
    decide
  obtain ⟨_, _, hnumeral, hload⟩ := rejected_by_check_alone Settings.standard {}
    (String.ofList ['%', '\n', 'G', '0'])
    fun number => if number = 2 then some "refused" else none
  exact ⟨hnumeral _ htext, hload.mpr hrefuses⟩

end Machining.Playback
