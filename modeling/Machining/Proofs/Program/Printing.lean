import Machining.Proofs.Number.WholeText
import Machining.Proofs.Program.WordGrammar
set_option autoImplicit false

/-!
# Printed commands

A command is printed as its function, or the name of a line without one, and its parameters,
each behind a blank.  Where all its numbers are whole and short they are printed in full, and
reading the print finds the same words again.  The letters of the name are no words, because
no number follows any of them.  So a command that was read from a line is read again from its
print.
-/

namespace Machining

/-! ## Maps in their order -/

namespace AddressMap

variable {m : AddressMap} {address other : String} {entries : List (String × Float)}

theorem mem_addresses_set (value : Float) :
    other ∈ (m.set address value).addresses ↔ other ∈ m.addresses ∨ other = address := by
  rw [addresses_set]
  split
  · rename_i hmem
    exact (or_iff_left_of_imp fun h => h ▸ hmem).symm
  · rw [List.mem_append, List.mem_singleton]

theorem nodup_addresses_set (h : m.addresses.Nodup) (value : Float) :
    (m.set address value).addresses.Nodup := by
  rw [addresses_set]
  split
  · exact h
  · rename_i hnew
    exact List.nodup_append_comm.mp (List.nodup_cons.mpr ⟨hnew, h⟩)

/-- Setting entries adds their addresses. -/
theorem mem_addresses_setAll :
    other ∈ (m.setAll entries).addresses ↔
      other ∈ m.addresses ∨ other ∈ entries.map Prod.fst := by
  induction entries generalizing m with
  | nil => exact (or_iff_left List.not_mem_nil).symm
  | cons entry rest ih =>
    refine (ih (m := m.set entry.1 entry.2)).trans ?_
    rw [mem_addresses_set, or_assoc, List.map_cons, List.mem_cons]

/-- Setting entries keeps the addresses different. -/
theorem nodup_addresses_setAll (h : m.addresses.Nodup) : (m.setAll entries).addresses.Nodup := by
  induction entries generalizing m with
  | nil => exact h
  | cons entry rest ih => exact ih (nodup_addresses_set h entry.2)

theorem setIn_of_notMem (value : Float) (h : address ∉ entries.map Prod.fst) :
    setIn address value entries = entries ++ [(address, value)] := by
  induction entries with
  | nil => rfl
  | cons entry rest ih =>
    rw [List.map_cons, List.mem_cons, not_or] at h
    rw [setIn, if_neg (Ne.symm h.1), ih h.2]
    rfl

/-- Entries whose addresses are new and different are added as they stand. -/
theorem setAll_of_nodup (h : (m.addresses ++ entries.map Prod.fst).Nodup) :
    m.setAll entries = ⟨m.entries ++ entries⟩ := by
  induction entries generalizing m with
  | nil =>
    rw [List.append_nil]
    rfl
  | cons entry rest ih =>
    obtain ⟨address, value⟩ := entry
    have hnew : address ∉ m.addresses := by
      intro hmem
      exact (List.nodup_append.mp h).2.2 address hmem address List.mem_cons_self rfl
    have hset : m.set address value = ⟨m.entries ++ [(address, value)]⟩ :=
      congrArg AddressMap.mk (setIn_of_notMem value hnew)
    show (m.set address value).setAll rest = _
    rw [hset, ih]
    · rw [List.append_assoc]
      rfl
    · simpa [addresses] using h

end AddressMap

namespace Program

open Machining.Text

/-! ## Reading a printed number -/

/-- The double is a whole number of at most ten digits. -/
def IsShortWhole (x : Float) : Prop := ∃ i ∈ wholeNumber? x, i.natAbs < 10 ^ 10

instance (x : Float) : Decidable (IsShortWhole x) :=
  inferInstanceAs (Decidable (∃ i ∈ wholeNumber? x, i.natAbs < 10 ^ 10))

/-- Nothing stands behind a printed word, or the blank in front of the next one. -/
def IsApart (tail : List Char) : Prop := ∀ c, tail.head? = some c → c = ' '

section

variable {x : Float} {letter : Char} {tail : List Char}

/-- A letter in front of a printed number is a word with the number. -/
theorem exists_words_general (hletter : letter.isUpper = true) (hx : IsShortWhole x)
    (htail : IsApart tail) :
    ∃ w : Word, words (letter :: ((Number.general 10 x).toList ++ tail)) = w :: words tail ∧
      w.letter = letter ∧ w.value = x := by
  obtain ⟨i, hi, hdigits⟩ := hx
  have hfits : i.natAbs < 2 ^ 53 := by omega
  obtain ⟨s, hwhole⟩ := Number.isWhole_of_wholeNumber? hi hfits
  have hends : ∀ c, tail.head? = some c → isDigit c = false ∧ c ≠ '.' := by
    intro c hc
    rw [htail c hc]
    decide
  obtain ⟨numeral, hscan, hvalue⟩ := hwhole.scan_general hdigits hfits (by decide) hends
  exact ⟨⟨letter, numeral⟩, words_cons_of_scan hletter hscan, rfl, hvalue⟩

/-- The name of a line without a function has no words. -/
theorem words_modal (htail : IsApart tail) :
    words (CommandKind.modal.name.toList ++ tail) = words tail := by
  have hend : Numeral.scan tail = none := by
    cases tail with
    | nil => rfl
    | cons c rest =>
      rw [htail c rfl]
      exact Numeral.scan_eq_none (by decide) (by decide) (by decide) rest
  have hletter : ∀ first second : Char, first.isUpper = true → isDigit second = false →
      (second ≠ '+' ∧ second ≠ '-') ∧ second ≠ '.' → ∀ rest,
      words (first :: second :: rest) = words (second :: rest) :=
    fun first second hfirst hdigit hother rest => words_cons_of_no_scan hfirst
      (Numeral.scan_eq_none hdigit hother.1 hother.2 rest)
  -- Each letter begins no word, because of what comes next: a letter, a blank or nothing.
  show words ('M' :: 'O' :: 'D' :: 'A' :: 'L' :: tail) = _
  rw [hletter 'M' 'O' rfl (by decide) (by decide), hletter 'O' 'D' rfl (by decide) (by decide),
    hletter 'D' 'A' rfl (by decide) (by decide), hletter 'A' 'L' rfl (by decide) (by decide),
    words_cons_of_no_scan rfl hend]

end

/-! ## Reading printed parameters -/

/-- The letter of a parameter, not of a function. -/
def IsParameterLetter (letter : Char) : Prop :=
  letter.isUpper = true ∧ letter ≠ 'G' ∧ letter ≠ 'M' ∧ letter ≠ 'T'

theorem ofWord?_of_isParameterLetter {w : Word} (h : IsParameterLetter w.letter) :
    Head.ofWord? w = none := by
  rw [Head.ofWord?_eq_none]
  rintro (hg | hm | ht)
  · exact h.2.1 hg
  · exact h.2.2.1 hm
  · exact h.2.2.2 ht

/-- Parameters as they are printed, each behind a blank. -/
def entriesText (entries : List (String × Float)) : List Char :=
  entries.flatMap fun p => ' ' :: (p.1.toList ++ (Number.general 10 p.2).toList)

theorem isApart_entriesText (entries : List (String × Float)) :
    IsApart (entriesText entries) := by
  intro c hc
  cases entries with
  | nil => cases hc
  | cons entry rest =>
    cases hc
    rfl

/-- The words of printed parameters are the parameters, in their order. -/
theorem words_entriesText {entries : List (String × Float)}
    (hletters : ∀ p ∈ entries, ∃ letter, p.1 = letter.toString ∧ IsParameterLetter letter)
    (hnumbers : ∀ p ∈ entries, IsShortWhole p.2) :
    (words (entriesText entries)).map (fun w => (w.letter.toString, w.value)) = entries ∧
      ∀ w ∈ words (entriesText entries), Head.ofWord? w = none := by
  induction entries with
  | nil =>
    have hnone : words (entriesText []) = [] := by
      show words [] = []
      rw [words]
    rw [hnone]
    exact ⟨rfl, fun w hw => absurd hw List.not_mem_nil⟩
  | cons entry rest ih =>
    obtain ⟨address, value⟩ := entry
    obtain ⟨hfirst, hletters'⟩ := List.forall_mem_cons.mp hletters
    obtain ⟨hnumber, hnumbers'⟩ := List.forall_mem_cons.mp hnumbers
    obtain ⟨letter, rfl, hparameter⟩ :
      ∃ letter : Char, address = letter.toString ∧ IsParameterLetter letter := hfirst
    obtain ⟨hrest, hparameters⟩ := ih hletters' hnumbers'
    obtain ⟨w, hword, hletter, hvalue⟩ :=
      exists_words_general hparameter.1 hnumber (isApart_entriesText rest)
    have htext : entriesText ((letter.toString, value) :: rest) =
        ' ' :: letter :: ((Number.general 10 value).toList ++ entriesText rest) := by
      have hone : letter.toString.toList = [letter] := String.toList_singleton letter
      show ' ' :: (letter.toString.toList ++ (Number.general 10 value).toList) ++
        entriesText rest = _
      rw [hone, List.cons_append, List.append_assoc]
      rfl
    have hwords : words (entriesText ((letter.toString, value) :: rest)) =
        w :: words (entriesText rest) := by
      rw [htext, words_cons_of_not_upper (by decide), hword]
    rw [hwords, List.map_cons, hrest, hletter, hvalue]
    refine ⟨rfl, List.forall_mem_cons.mpr ⟨?_, hparameters⟩⟩
    exact ofWord?_of_isParameterLetter (hletter ▸ hparameter)

namespace Head

theorem eq_modal_of_code? {head : Head} (h : head.code? = none) : head = .modal := by
  cases head with
  | modal => rfl
  | _ => cases h

/-- A function is named by one letter, and a word with it gives the function. -/
theorem exists_letter {head : Head} {code : Float} (h : head.code? = some code) :
    ∃ letter : Char, letter.isUpper = true ∧ head.kind.name = letter.toString ∧
      ∀ w : Word, w.letter = letter → w.value = code → ofWord? w = some head := by
  cases head with
  | g _ =>
    cases h
    exact ⟨'G', rfl, rfl, fun w hletter hvalue => by simp [ofWord?, hletter, hvalue]⟩
  | m _ =>
    cases h
    exact ⟨'M', rfl, rfl, fun w hletter hvalue => by simp [ofWord?, hletter, hvalue]⟩
  | t _ =>
    cases h
    exact ⟨'T', rfl, rfl, fun w hletter hvalue => by simp [ofWord?, hletter, hvalue]⟩
  | modal => cases h

end Head

namespace Command

/-! ## The command of printed words -/

section

variable {found : List Word} (hparameters : ∀ w ∈ found, Head.ofWord? w = none)
include hparameters

theorem filterMap_ofWord?_of_parameters : found.filterMap Head.ofWord? = [] :=
  List.filterMap_eq_nil_iff.mpr hparameters

theorem filter_ofWord?_of_parameters :
    (found.filter fun w => (Head.ofWord? w).isNone) = found := by
  rw [List.filter_eq_self]
  intro w hw
  rw [hparameters w hw]
  rfl

/-- Parameters alone are the command of a line without a function. -/
theorem ofWords_of_parameters (line : Int) (source : String) :
    ofWords found line source =
      { head := .modal
        params := AddressMap.ofList (found.map fun w => (w.letter.toString, w.value))
        line := line
        source := source } := by
  unfold ofWords
  rw [filterMap_ofWord?_of_parameters hparameters, filter_ofWord?_of_parameters hparameters]
  rfl

/-- A function in front of parameters is the head of their command. -/
theorem ofWords_cons_of_parameters {w : Word} {head : Head} (hw : Head.ofWord? w = some head)
    (line : Int) (source : String) :
    ofWords (w :: found) line source =
      { head := head
        params := AddressMap.ofList (found.map fun w => (w.letter.toString, w.value))
        line := line
        source := source } := by
  unfold ofWords
  rw [List.filterMap_cons_some hw, filterMap_ofWord?_of_parameters hparameters,
    List.filter_cons_of_neg (by simp [hw]), filter_ofWord?_of_parameters hparameters]
  rfl

/-- A single function supersedes none. -/
theorem supersededHeads_cons_of_parameters (w : Word) (line : Int) :
    supersededHeads (w :: found) line = [] := by
  have hheads : (found.filterMap fun w => (Head.ofWord? w).map fun head => (head, w)) = [] := by
    rw [List.filterMap_eq_nil_iff]
    intro w hw
    rw [hparameters w hw]
    rfl
  unfold supersededHeads
  rw [List.filterMap_cons, hheads]
  cases Head.ofWord? w <;> rfl

end

/-! ## Commands that are read -/

/-- A command as reading makes it: its parameters have different letters, none that of a
function, and without a function there is a parameter. -/
structure IsRead (c : Command) : Prop where
  distinct : c.params.addresses.Nodup
  letters : ∀ address ∈ c.params.addresses,
    ∃ letter, address = letter.toString ∧ IsParameterLetter letter
  parameter : c.head = .modal → c.params.entries ≠ []

theorem isParameterLetter_of_mem_words {line : List Char} {w : Word} (hw : w ∈ words line)
    (hparameter : Head.ofWord? w = none) : IsParameterLetter w.letter := by
  obtain ⟨i, hholds⟩ := exists_holdsWord hw
  have hcapital := isUpper_iff.mpr hholds.capital
  rw [Head.ofWord?_eq_none, Word.IsHead, not_or, not_or] at hparameter
  exact ⟨hcapital, hparameter⟩

/-- Without a function on the line, all its words are parameters. -/
theorem parameters_of_modal {found : List Word} {line : Int} {source : String}
    (h : (ofWords found line source).head = .modal) : ∀ w ∈ found, Head.ofWord? w = none := by
  rw [← List.filterMap_eq_nil_iff, ← List.getLast?_eq_none_iff]
  cases hlast : (found.filterMap Head.ofWord?).getLast? with
  | none => rfl
  | some head =>
    have hmodal : head = .modal := by
      unfold ofWords at h
      rw [hlast] at h
      exact h
    obtain ⟨w, _, hw⟩ := List.mem_filterMap.mp (List.mem_of_getLast? hlast)
    have hcode := Head.code?_of_ofWord? hw
    rw [hmodal] at hcode
    cases hcode

theorem isRead_ofLine {line : List Char} {number : Int} {source : String} {c : Command}
    (h : (ofLine line number source).1 = some c) : c.IsRead := by
  unfold ofLine at h
  split at h
  · cases h
  rename_i hsome
  cases h
  constructor
  · exact AddressMap.nodup_addresses_setAll List.nodup_nil
  · intro address haddress
    have hgiven := (AddressMap.mem_addresses_setAll.mp haddress).resolve_left List.not_mem_nil
    rw [List.map_map, List.mem_map] at hgiven
    obtain ⟨w, hw, rfl⟩ := hgiven
    obtain ⟨hw, hparameter⟩ := List.mem_filter.mp hw
    exact ⟨w.letter, rfl,
      isParameterLetter_of_mem_words hw (Option.isNone_iff_eq_none.mp hparameter)⟩
  · intro hmodal hnone
    have hparameters := parameters_of_modal hmodal
    obtain ⟨w, hw⟩ := List.exists_mem_of_ne_nil _ hsome
    rw [ofWords_of_parameters hparameters] at hnone
    have hmem : w.letter.toString ∈ (AddressMap.ofList ((words line).map fun w =>
        (w.letter.toString, w.value))).addresses := by
      refine AddressMap.mem_addresses_setAll.mpr (.inr ?_)
      rw [List.map_map]
      exact List.mem_map_of_mem (f := fun w : Word => w.letter.toString) hw
    rw [AddressMap.addresses, hnone] at hmem
    cases hmem

/-! ## Reading a print -/

/-- Code and parameters are whole numbers of at most ten digits. -/
structure HasShortNumbers (c : Command) : Prop where
  code : ∀ code, c.head.code? = some code → IsShortWhole code
  params : ∀ p ∈ c.params.entries, IsShortWhole p.2

theorem toList_text (c : Command) :
    c.text.toList = c.head.text.toList ++ entriesText c.params.entries := by
  unfold text entriesText
  rw [String.toList_append, String.toList_join, List.flatMap_map]
  simp only [String.toList_append]
  rfl

/-- A function is the first word of its print. -/
theorem words_text_of_code {c : Command} {code : Float} (hcode : c.head.code? = some code)
    (hnumbers : c.HasShortNumbers) :
    ∃ w, words c.text.toList = w :: words (entriesText c.params.entries) ∧
      Head.ofWord? w = some c.head := by
  obtain ⟨letter, hupper, hname, hgives⟩ := Head.exists_letter hcode
  obtain ⟨w, hwords, hletter, hvalue⟩ := exists_words_general hupper
    (hnumbers.code code hcode) (isApart_entriesText c.params.entries)
  refine ⟨w, ?_, hgives w hletter hvalue⟩
  have hone : letter.toString.toList = [letter] := String.toList_singleton letter
  rw [toList_text, Head.text, hcode]
  simp only [String.toList_append, hname, hone, List.append_assoc]
  exact hwords

/-- Without a function the words of the print are the parameters. -/
theorem words_text_of_modal {c : Command} (hmodal : c.head = .modal) :
    words c.text.toList = words (entriesText c.params.entries) := by
  rw [toList_text, hmodal]
  exact words_modal (isApart_entriesText c.params.entries)

end Command

/-- A command that is read from a line, with whole numbers of at most ten digits, is read
again from its print, with the same head and the same parameters in the same order, and
nothing is reported.  The print of a command without a function begins with the name of
such lines. -/
theorem ofLine_reads_print_again {line : List Char} {number : Int} {source : String} {c : Command}
    (hread : (Command.ofLine line number source).1 = some c) (hnumbers : c.HasShortNumbers)
    (number' : Int) (source' : String) :
    Command.ofLine c.text.toList number' source' =
      (some { c with
        line := number'
        source := if source'.isEmpty then c.text else source' }, []) ∧
    (c.head = .modal → "MODAL".toList <+: c.text.toList) := by
  have hc := Command.isRead_ofLine hread
  have hletters : ∀ p ∈ c.params.entries,
      ∃ letter, p.1 = letter.toString ∧ IsParameterLetter letter :=
    fun p hp => hc.letters p.1 (List.mem_map_of_mem hp)
  obtain ⟨hentries, hparameters⟩ := words_entriesText hletters hnumbers.params
  have hparams : AddressMap.ofList ((words (entriesText c.params.entries)).map fun w =>
      (w.letter.toString, w.value)) = c.params := by
    rw [hentries]
    exact AddressMap.setAll_of_nodup (m := ⟨[]⟩) hc.distinct
  constructor
  · unfold Command.ofLine
    cases hcode : c.head.code? with
    | some code =>
      obtain ⟨w, hwords, hhead⟩ := Command.words_text_of_code hcode hnumbers
      rw [hwords]
      simp only [String.ofList_toList]
      rw [Command.ofWords_cons_of_parameters hparameters hhead,
        Command.supersededHeads_cons_of_parameters hparameters, hparams]
    | none =>
      have hmodal := Head.eq_modal_of_code? hcode
      rw [Command.words_text_of_modal hmodal]
      obtain ⟨w, rest, hsplit⟩ : ∃ w rest, words (entriesText c.params.entries) = w :: rest := by
        apply List.exists_cons_of_ne_nil
        intro hnone
        rw [hnone] at hentries
        exact hc.parameter hmodal hentries.symm
      rw [hsplit] at hparameters hparams ⊢
      simp only [String.ofList_toList]
      rw [Command.ofWords_of_parameters hparameters, hparams,
        Command.supersededHeads_cons_of_parameters (List.forall_mem_cons.mp hparameters).2, hmodal]
  · intro hmodal
    rw [Command.toList_text, hmodal]
    exact List.prefix_append _ _

/-- A line without a function is printed under its name, with the zero still negative; from a
line with two functions the later one is printed, with the longest number that is short. -/
theorem ofLine_reads_print_again_negative_zero :
    let parameters : Command :=
      { head := .modal
        params := ⟨[("Y", -0.0), ("X", 10.0)]⟩
        line := 3
        source := "Y-.0 X+10.0" }
    let motion : Command :=
      { head := .g 1.0
        params := ⟨[("X", -9999999999.0)]⟩
        line := 4
        source := "M5 X1 G01.0 X-9999999999" }
    (Command.ofLine "Y-.0 X+10.0".toList 3 "").1 = some parameters ∧
      Command.ofLine "MODAL Y-0 X10".toList 1 "" =
        (some { parameters with line := 1, source := "MODAL Y-0 X10" }, []) ∧
      (Command.ofLine "M5 X1 G01.0 X-9999999999".toList 4 "").1 = some motion ∧
      Command.ofLine "G1 X-9999999999".toList 2 "" =
        (some { motion with line := 2, source := "G1 X-9999999999" }, []) := by
  intro parameters motion
  have hparameters : (Command.ofLine "Y-.0 X+10.0".toList 3 "").1 = some parameters := by
    decide +kernel
  have hmotion : (Command.ofLine "M5 X1 G01.0 X-9999999999".toList 4 "").1 = some motion := by
    decide +kernel
  have hzero : parameters.HasShortNumbers := ⟨nofun, by decide +kernel⟩
  have hlong : motion.HasShortNumbers := by
    refine ⟨?_, by decide +kernel⟩
    rintro code hcode
    cases hcode
    decide +kernel
  have htext : parameters.text = "MODAL Y-0 X10" := by decide +kernel
  have htext' : motion.text = "G1 X-9999999999" := by decide +kernel
  have hagain := (ofLine_reads_print_again hparameters hzero 1 "").1
  have hagain' := (ofLine_reads_print_again hmotion hlong 2 "").1
  rw [htext] at hagain
  rw [htext'] at hagain'
  exact ⟨hparameters, hagain, hmotion, hagain'⟩

end Program

end Machining
