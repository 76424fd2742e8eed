import Machining.Proofs.Program.LineLocality
import Machining.Proofs.Text.Splitting
import Mathlib.Data.List.Forall2
import Mathlib.Data.List.TakeWhile
import Mathlib.Logic.Relation
set_option autoImplicit false

/-!
# Edits that do not count

A line may be edited without any change to what counts of it: a comment may be put in at
any place that is not inside another comment, a remark behind it, a carriage return at its
end, and its letters may be written in either case.  A text whose lines are edited so, each
as often as one likes, gives the same commands; only the source texts that they carry for
messages differ.
-/

namespace Machining.Text

/-! ## White space at the end -/

/-- White space at the end is trimmed. -/
theorem trim_append_blank (cs : List Char) {b : Char} (hb : isBlank b = true) :
    trim (cs ++ [b]) = trim cs := by
  unfold trim
  rw [List.dropWhile_append]
  by_cases hall : (cs.dropWhile isBlank).isEmpty = true
  · rw [if_pos hall, List.dropWhile_cons_of_pos hb, List.isEmpty_iff.mp hall]
    rfl
  · rw [if_neg hall, List.reverse_append]
    exact congrArg List.reverse (List.dropWhile_cons_of_pos hb)

/-! ## Capitals of the ASCII letters -/

section

variable {c : Char}

theorem isLower_iff : c.isLower = true ↔ 97 ≤ c.toNat ∧ c.toNat ≤ 122 := by
  constructor
  · intro h
    obtain ⟨hlow, hhigh⟩ := Bool.and_eq_true_iff.mp h
    exact ⟨of_decide_eq_true hlow, of_decide_eq_true hhigh⟩
  · rintro ⟨hlow, hhigh⟩
    exact Bool.and_eq_true_iff.mpr ⟨decide_eq_true hlow, decide_eq_true hhigh⟩

theorem isUpper_iff_toNat : c.isUpper = true ↔ 65 ≤ c.toNat ∧ c.toNat ≤ 90 :=
  decide_eq_true_iff

theorem isAlpha_of_isLower (h : c.isLower = true) : c.isAlpha = true :=
  Bool.or_eq_true_iff.mpr (.inr h)

theorem isAlpha_of_isUpper (h : c.isUpper = true) : c.isAlpha = true :=
  Bool.or_eq_true_iff.mpr (.inl h)

theorem toUpper_of_not_isLower (h : ¬ c.isLower = true) : c.toUpper = c := by
  unfold Char.toUpper
  exact dif_neg fun hrange => h (isLower_iff.mpr hrange)

/-- The capital of a small letter lies 32 code points before it. -/
theorem toNat_toUpper_of_isLower (h : c.isLower = true) : c.toUpper.toNat + 32 = c.toNat := by
  have hrange := isLower_iff.mp h
  have hval : c.toUpper.val = c.val + ('A'.val - 'a'.val) := by
    have hsmall : 'a'.val ≤ c.val ∧ c.val ≤ 'z'.val := hrange
    unfold Char.toUpper
    rw [dif_pos hsmall]
  have hstep : ('A'.val - 'a'.val).toNat = 4294967296 - 32 := by decide
  rw [← Char.toNat_val, hval, UInt32.toNat_add, hstep, Char.toNat_val]
  omega

/-- A character that is no letter is the capital of itself alone. -/
theorem toUpper_eq_iff {d : Char} (hd : d.isAlpha = false) : c.toUpper = d ↔ c = d := by
  by_cases hlower : c.isLower = true
  · have hrange := isLower_iff.mp hlower
    have hnumber := toNat_toUpper_of_isLower hlower
    constructor
    · rintro rfl
      have hupper : c.toUpper.isUpper = true := isUpper_iff_toNat.mpr (by omega)
      cases hd.symm.trans (isAlpha_of_isUpper hupper)
    · rintro rfl
      cases hd.symm.trans (isAlpha_of_isLower hlower)
  · rw [toUpper_of_not_isLower hlower]

/-- Among the letters there is no white space. -/
theorem isBlank_of_between (hlow : 65 ≤ c.toNat) (hhigh : c.toNat ≤ 122) :
    isBlank c = false := by
  have hapart : ∀ r ∈ blankRanges, r.2 < 65 ∨ 122 < r.1 := by decide
  rw [Bool.eq_false_iff]
  intro hblank
  obtain ⟨r, hr, hrange⟩ := List.any_eq_true.mp hblank
  simp only [Bool.and_eq_true, decide_eq_true_eq] at hrange
  rcases hapart r hr with hbelow | habove
  · omega
  · omega

theorem isBlank_toUpper : isBlank c.toUpper = isBlank c := by
  by_cases hlower : c.isLower = true
  · have hrange := isLower_iff.mp hlower
    have hnumber := toNat_toUpper_of_isLower hlower
    rw [isBlank_of_between (by omega) (by omega), isBlank_of_between (by omega) (by omega)]
  · rw [toUpper_of_not_isLower hlower]

theorem upperChar_toUpper : upperChar c.toUpper = upperChar c := by
  by_cases hlower : c.isLower = true
  · have hrange := isLower_iff.mp hlower
    have hnumber := toNat_toUpper_of_isLower hlower
    have hcapital : ¬ c.toUpper.isLower = true := by
      rw [isLower_iff]
      omega
    unfold upperChar
    rw [if_pos (by omega), if_pos (by omega), toUpper_of_not_isLower hcapital]
  · rw [toUpper_of_not_isLower hlower]

end

theorem upper_map_toUpper (cs : List Char) : upper (cs.map Char.toUpper) = upper cs := by
  unfold upper
  rw [List.flatMap_map]
  congr
  funext c
  exact upperChar_toUpper

theorem trim_map_toUpper (cs : List Char) :
    trim (cs.map Char.toUpper) = (trim cs).map Char.toUpper := by
  have hblank : isBlank ∘ Char.toUpper = isBlank := funext fun c => isBlank_toUpper
  unfold trim
  rw [List.dropWhile_map, hblank, ← List.map_reverse, List.dropWhile_map, hblank,
    ← List.map_reverse]

end Machining.Text

namespace Machining.Program

open Machining.Text

/-! ## Comments -/

/-- No comment of the line is left open: no opening parenthesis stays when the comments are
removed. -/
def ClosesComments (line : List Char) : Prop := '(' ∉ dropParentheses none line

instance (line : List Char) : Decidable (ClosesComments line) :=
  inferInstanceAs (Decidable ('(' ∉ _))

/-- Behind a part that leaves no comment open, comments are removed as at the beginning of a
line. -/
theorem dropParentheses_append (behind : List Char) :
    ∀ (held? : Option (List Char)) (line : List Char), (∀ held, held? = some held → '(' ∈ held) →
      '(' ∉ dropParentheses held? line →
      dropParentheses held? (line ++ behind) =
        dropParentheses held? line ++ dropParentheses none behind := by
  intro held? line hheld hclosed
  fun_induction dropParentheses held? line with
  | case1 => rfl
  | case2 held =>
    have hopen := hheld held rfl
    exact absurd (List.mem_reverse.mpr hopen) hclosed
  | case3 rest ih =>
    have hnext := ih (fun held h => by cases h; exact List.mem_singleton_self _) hclosed
    rw [List.cons_append, dropParentheses, if_pos rfl]
    exact hnext
  | case4 c rest hc ih =>
    have hnext := ih (fun held h => by cases h) (List.not_mem_of_not_mem_cons hclosed)
    rw [List.cons_append, dropParentheses, if_neg hc, hnext]
    rfl
  | case5 held rest ih =>
    have hnext := ih (fun held h => by cases h) hclosed
    rw [List.cons_append, dropParentheses, if_pos rfl]
    exact hnext
  | case6 held rest _ ih =>
    -- a line feed gives an open comment back, with its parenthesis
    have hopen := hheld held rfl
    exact absurd (List.mem_append_left _ (List.mem_reverse.mpr hopen)) hclosed
  | case7 held c rest hclose hfeed ih =>
    have hopen : '(' ∈ c :: held := List.mem_cons_of_mem c (hheld held rfl)
    have hnext := ih (fun held' h => by cases h; exact hopen) hclosed
    rw [List.cons_append, dropParentheses, if_neg hclose, if_neg hfeed]
    exact hnext

theorem ClosesComments.dropParentheses_append {line : List Char} (h : ClosesComments line)
    (behind : List Char) :
    dropParentheses none (line ++ behind) =
      dropParentheses none line ++ dropParentheses none behind :=
  Program.dropParentheses_append behind none line (fun _ hheld => by cases hheld) h

/-- A comment that is open is removed up to its end. -/
theorem dropParentheses_inside (behind : List Char) :
    ∀ (comment held : List Char), ')' ∉ comment → '\n' ∉ comment →
      dropParentheses (some held) (comment ++ ')' :: behind) = dropParentheses none behind := by
  intro comment
  induction comment with
  | nil =>
    intro held _ _
    rw [List.nil_append, dropParentheses, if_pos rfl]
  | cons c rest ih =>
    intro held hclose hfeed
    rw [List.cons_append, dropParentheses, if_neg (List.ne_of_not_mem_cons hclose).symm,
      if_neg (List.ne_of_not_mem_cons hfeed).symm]
    exact ih _ (List.not_mem_of_not_mem_cons hclose) (List.not_mem_of_not_mem_cons hfeed)

/-- A whole comment is removed wherever no other is open. -/
theorem dropParentheses_comment {before comment : List Char} (after : List Char)
    (hclosed : ClosesComments before) (hclose : ')' ∉ comment) (hfeed : '\n' ∉ comment) :
    dropParentheses none (before ++ '(' :: (comment ++ ')' :: after)) =
      dropParentheses none (before ++ after) := by
  rw [hclosed.dropParentheses_append, hclosed.dropParentheses_append, dropParentheses,
    if_pos rfl, dropParentheses_inside after comment _ hclose hfeed]

/-- A carriage return stays behind what the line gives without it. -/
theorem dropParentheses_append_return (held? : Option (List Char)) (line : List Char) :
    dropParentheses held? (line ++ ['\r']) = dropParentheses held? line ++ ['\r'] := by
  fun_induction dropParentheses held? line with
  | case1 => rfl
  | case2 held => simp [dropParentheses]
  | case3 rest ih => simp [dropParentheses, ih]
  | case4 c rest hc ih => simp [dropParentheses, hc, ih]
  | case5 held rest ih => simp [dropParentheses, ih]
  | case6 held rest _ ih => simp [dropParentheses, ih]
  | case7 held c rest hclose hfeed ih => simp [dropParentheses, hclose, hfeed, ih]

/-- Removing comments takes no regard of the case of letters. -/
theorem dropParentheses_map_toUpper (held? : Option (List Char)) (line : List Char) :
    dropParentheses (held?.map (List.map Char.toUpper)) (line.map Char.toUpper) =
      (dropParentheses held? line).map Char.toUpper := by
  have hopen : ∀ c : Char, c.toUpper = '(' ↔ c = '(' := fun c => toUpper_eq_iff (by decide)
  have hclose : ∀ c : Char, c.toUpper = ')' ↔ c = ')' := fun c => toUpper_eq_iff (by decide)
  have hfeed : ∀ c : Char, c.toUpper = '\n' ↔ c = '\n' := fun c => toUpper_eq_iff (by decide)
  fun_induction dropParentheses held? line with
  | case1 => rfl
  | case2 held => simp [dropParentheses]
  | case3 rest ih => simpa [dropParentheses, hopen] using ih
  | case4 c rest hc ih => simpa [dropParentheses, hopen, hc] using ih
  | case5 held rest ih => simpa [dropParentheses, hclose] using ih
  | case6 held rest _ ih => simpa [dropParentheses, hclose, hfeed] using ih
  | case7 held c rest hc hf ih => simpa [dropParentheses, hclose, hfeed, hc, hf] using ih

/-- What is left of a line was in it, or in the comment that is open at its beginning. -/
theorem mem_of_mem_dropParentheses {d : Char} (held? : Option (List Char)) (line : List Char)
    (h : d ∈ dropParentheses held? line) : d ∈ held?.getD [] ∨ d ∈ line := by
  fun_induction dropParentheses held? line with
  | case1 => cases h
  | case2 held => exact .inl (List.mem_reverse.mp h)
  | case3 rest ih => simpa using ih h
  | case4 c rest hc ih =>
    rcases List.mem_cons.mp h with rfl | h
    · exact .inr List.mem_cons_self
    · exact .inr (List.mem_cons_of_mem _ (by simpa using ih h))
  | case5 held rest ih => exact .inr (List.mem_cons_of_mem _ (by simpa using ih h))
  | case6 held rest _ ih =>
    rcases List.mem_append.mp h with h | h
    · exact .inl (List.mem_reverse.mp h)
    · rcases List.mem_cons.mp h with rfl | h
      · exact .inr List.mem_cons_self
      · exact .inr (List.mem_cons_of_mem _ (by simpa using ih h))
  | case7 held c rest hclose hfeed ih =>
    have hnext := ih h
    simp only [Option.getD_some, List.mem_cons] at hnext ⊢
    rcases hnext with (rfl | hnext) | hnext
    · exact .inr (.inl rfl)
    · exact .inl hnext
    · exact .inr (.inr hnext)

/-! ## Remarks -/

/-- Of a single line everything before the first semicolon counts. -/
theorem dropRemark_of_newline_notMem {line : List Char} (h : '\n' ∉ line) :
    dropRemark line = line.takeWhile (· != ';') := by
  induction line with
  | nil => rfl
  | cons c rest ih =>
    have hrest := List.not_mem_of_not_mem_cons h
    unfold dropRemark
    by_cases hc : c = ';'
    · have hend : rest.dropWhile (· != '\n') = [] := by
        rw [List.dropWhile_eq_nil_iff]
        intro d hd
        simpa using fun heq : d = '\n' => hrest (heq ▸ hd)
      rw [if_pos hc, hend, List.takeWhile_cons_of_neg (by simpa using hc)]
      rfl
    · rw [if_neg hc, List.takeWhile_cons_of_pos (by simpa using hc), ih hrest]

/-- What counts of a single line. -/
theorem lineContent_of_newline_notMem {line : List Char} (h : '\n' ∉ line) :
    lineContent line =
      upper (trim ((dropParentheses none line).takeWhile (· != ';'))) := by
  unfold lineContent
  rw [dropRemark_of_newline_notMem]
  intro hfeed
  rcases mem_of_mem_dropParentheses none line hfeed with hheld | hline
  · cases hheld
  · exact h hline

/-! ## Edits of a line -/

/-- One edit of a line. -/
inductive Noise : List Char → List Char → Prop
  /-- A whole comment is put in where no other is open. -/
  | comment {before comment after : List Char} : ClosesComments before → ')' ∉ comment →
      '\n' ∉ comment → Noise (before ++ after) (before ++ '(' :: (comment ++ ')' :: after))
  /-- A remark is put behind a line that leaves no comment open. -/
  | remark {line remark : List Char} : ClosesComments line → '\n' ∉ remark →
      Noise line (line ++ ';' :: remark)
  /-- A carriage return is put at the end. -/
  | carriageReturn {line : List Char} : Noise line (line ++ ['\r'])
  /-- Letters are written in the other case. -/
  | letters {line line' : List Char} : line'.map Char.toUpper = line.map Char.toUpper →
      Noise line line'

theorem lineContent_comment {before comment : List Char} (after : List Char)
    (hclosed : ClosesComments before) (hclose : ')' ∉ comment) (hfeed : '\n' ∉ comment) :
    lineContent (before ++ '(' :: (comment ++ ')' :: after)) = lineContent (before ++ after) := by
  unfold lineContent
  rw [dropParentheses_comment after hclosed hclose hfeed]

theorem newline_notMem_append {a b : List Char} (ha : '\n' ∉ a) (hb : '\n' ∉ b) :
    '\n' ∉ a ++ b := by
  rw [List.mem_append]
  rintro (h | h)
  · exact ha h
  · exact hb h

theorem lineContent_remark {line remark : List Char} (hline : '\n' ∉ line)
    (hclosed : ClosesComments line) (hremark : '\n' ∉ remark) :
    lineContent (line ++ ';' :: remark) = lineContent line := by
  have hwhole : '\n' ∉ line ++ ';' :: remark :=
    newline_notMem_append hline (List.not_mem_cons_of_ne_of_not_mem (by decide) hremark)
  rw [lineContent_of_newline_notMem hwhole, lineContent_of_newline_notMem hline,
    hclosed.dropParentheses_append, dropParentheses, if_neg (by decide)]
  congr 2
  rw [List.takeWhile_append]
  split
  · rename_i hall
    rw [List.takeWhile_cons_of_neg (by decide), List.append_nil]
    exact ((List.takeWhile_prefix _).eq_of_length hall).symm
  · rfl

theorem lineContent_append_return {line : List Char} (hline : '\n' ∉ line) :
    lineContent (line ++ ['\r']) = lineContent line := by
  have hwhole : '\n' ∉ line ++ ['\r'] := newline_notMem_append hline (by decide)
  rw [lineContent_of_newline_notMem hwhole, lineContent_of_newline_notMem hline,
    dropParentheses_append_return, List.takeWhile_append]
  split
  · rename_i hall
    have hreturn : ['\r'].takeWhile (· != ';') = ['\r'] := by decide
    rw [hreturn, trim_append_blank _ (by decide), (List.takeWhile_prefix _).eq_of_length hall]
  · rfl

theorem newline_notMem_map_toUpper {line : List Char} :
    '\n' ∉ line.map Char.toUpper ↔ '\n' ∉ line := by
  simp [List.mem_map, toUpper_eq_iff]

theorem lineContent_map_toUpper {line : List Char} (hline : '\n' ∉ line) :
    lineContent (line.map Char.toUpper) = lineContent line := by
  have hsemicolon : (fun c : Char => c != ';') ∘ Char.toUpper = fun c => c != ';' := by
    funext c
    simp [bne, toUpper_eq_iff]
  have hdrop := dropParentheses_map_toUpper none line
  rw [Option.map_none] at hdrop
  rw [lineContent_of_newline_notMem hline,
    lineContent_of_newline_notMem (newline_notMem_map_toUpper.mpr hline), hdrop,
    List.takeWhile_map, hsemicolon, trim_map_toUpper, upper_map_toUpper]

/-- An edit of a single line gives a single line and leaves what counts of it. -/
theorem Noise.keeps {line line' : List Char} (h : Noise line line') (hline : '\n' ∉ line) :
    '\n' ∉ line' ∧ lineContent line' = lineContent line := by
  cases h with
  | @comment before comment after hclosed hclose hfeed =>
    refine ⟨?_, lineContent_comment after hclosed hclose hfeed⟩
    simp only [List.mem_append, List.mem_cons, not_or] at hline ⊢
    exact ⟨hline.1, by decide, hfeed, by decide, hline.2⟩
  | remark hclosed hremark =>
    refine ⟨?_, lineContent_remark hline hclosed hremark⟩
    exact newline_notMem_append hline (List.not_mem_cons_of_ne_of_not_mem (by decide) hremark)
  | carriageReturn =>
    exact ⟨newline_notMem_append hline (by decide), lineContent_append_return hline⟩
  | letters hletters =>
    have hline' : '\n' ∉ line' := by
      rw [← newline_notMem_map_toUpper, hletters, newline_notMem_map_toUpper]
      exact hline
    refine ⟨hline', ?_⟩
    rw [← lineContent_map_toUpper hline', hletters, lineContent_map_toUpper hline]

/-- So do any number of edits, one after the other. -/
theorem keeps_of_noises {line line' : List Char} (h : Relation.ReflTransGen Noise line line')
    (hline : '\n' ∉ line) : '\n' ∉ line' ∧ lineContent line' = lineContent line := by
  induction h with
  | refl => exact ⟨hline, rfl⟩
  | tail _ hedit ih =>
    obtain ⟨hbetween, hsame⟩ := ih
    obtain ⟨hend, hcontent⟩ := hedit.keeps hbetween
    exact ⟨hend, hcontent.trans hsame⟩

/-- Lines that are edited stay single lines, and of each the same counts. -/
theorem keeps_of_edited {lines lines' : List (List Char)}
    (h : List.Forall₂ (Relation.ReflTransGen Noise) lines lines')
    (hlines : ∀ line ∈ lines, '\n' ∉ line) :
    (∀ line ∈ lines', '\n' ∉ line) ∧
      List.Forall₂ (fun line line' => lineContent line' = lineContent line) lines lines' := by
  induction h with
  | nil => exact ⟨hlines, .nil⟩
  | cons hedits _ ih =>
    obtain ⟨hline, hcontent⟩ := keeps_of_noises hedits (hlines _ List.mem_cons_self)
    obtain ⟨hrest, hcontents⟩ := ih fun line h => hlines line (List.mem_cons_of_mem _ h)
    exact ⟨List.forall_mem_cons.mpr ⟨hline, hrest⟩, .cons hcontent hcontents⟩

/-! ## Edits of a text -/

theorem newline_notMem_of_mem_splitLines {cs line : List Char} (h : line ∈ splitLines cs) :
    '\n' ∉ line := by
  rw [splitLines_eq_splitOn] at h
  exact notMem_of_mem_splitOn '\n' cs line h

/-- The text of some lines. -/
def joinLines (lines : List (List Char)) : String := String.ofList (['\n'].intercalate lines)

theorem splitLines_joinLines {lines : List (List Char)} (hsome : lines ≠ [])
    (hlines : ∀ line ∈ lines, '\n' ∉ line) : splitLines (joinLines lines).toList = lines := by
  rw [joinLines, String.toList_ofList, splitLines_eq_splitOn]
  exact List.splitOn_intercalate '\n' hlines hsome

/-- What a command asks for, and where: its kind, code, parameters and line number. -/
def Command.request (c : Command) : CommandKind × Option Float × AddressMap × Int :=
  (c.head.kind, c.head.code?, c.params, c.line)

theorem Command.request_ofLine (line : List Char) (number : Int) (source source' : String) :
    (Command.ofLine line number source).1.map Command.request =
      (Command.ofLine line number source').1.map Command.request := by
  unfold Command.ofLine
  split <;> rfl

/-- What the command of a line asks for depends on what counts of the line. -/
theorem request_readLine_congr (check : LineCheck) (number : Nat) {raw raw' : List Char}
    (h : lineContent raw' = lineContent raw) :
    (readLine check number raw').command?.map Command.request =
      (readLine check number raw).command?.map Command.request := by
  unfold readLine
  rw [h]
  split
  · rfl
  · split
    · rfl
    · exact Command.request_ofLine _ _ _ _

theorem requests_readText (text : String) (check : LineCheck) :
    (readText text check).1.commands.map Command.request =
      (numberedLines text).filterMap
        fun p => (readLine check p.2 p.1).command?.map Command.request := by
  rw [commands_readText, List.map_filterMap]

/-- Numbered lines of which the same counts give commands that ask for the same. -/
theorem requests_of_lineContents (check : LineCheck) {lines lines' : List (List Char)}
    (h : List.Forall₂ (fun line line' => lineContent line' = lineContent line) lines lines') :
    ∀ number : Nat,
      (lines'.zipIdx number).filterMap
          (fun p => (readLine check p.2 p.1).command?.map Command.request) =
        (lines.zipIdx number).filterMap
          fun p => (readLine check p.2 p.1).command?.map Command.request := by
  induction h with
  | nil => intro number; rfl
  | cons hline _ ih =>
    intro number
    rw [List.zipIdx_cons, List.zipIdx_cons, List.filterMap_cons, List.filterMap_cons,
      request_readLine_congr check number hline, ih (number + 1)]

/-- Edits do not count: each leaves what counts of a line, and a text whose lines are
edited gives commands of the same kinds, codes, parameters and line numbers. -/
theorem noise_is_invisible :
    (∀ line line' : List Char, '\n' ∉ line → Noise line line' →
      lineContent line' = lineContent line) ∧
    ∀ (text : String) (check : LineCheck) (lines : List (List Char)),
      List.Forall₂ (Relation.ReflTransGen Noise) (splitLines text.toList) lines →
        splitLines (joinLines lines).toList = lines ∧
        (readText (joinLines lines) check).1.commands.map Command.request =
          (readText text check).1.commands.map Command.request := by
  refine ⟨fun line line' hline h => (h.keeps hline).2, ?_⟩
  intro text check lines hedits
  obtain ⟨hlines, hcontents⟩ :=
    keeps_of_edited hedits fun line h => newline_notMem_of_mem_splitLines h
  have hsome : lines ≠ [] := by
    rintro rfl
    exact splitLines_ne_nil _ (List.forall₂_nil_right_iff.mp hedits)
  have hsplit := splitLines_joinLines hsome hlines
  refine ⟨hsplit, ?_⟩
  rw [requests_readText, requests_readText, numberedLines, numberedLines, hsplit]
  exact requests_of_lineContents check hcontents 1

/-- A comment with a semicolon is put into a word, the word is written small, and a remark
with an open parenthesis and a carriage return are put behind the other line. -/
theorem noise_is_invisible_in_two_lines :
    lineContent ['X', '(', ';', ')', '1'] = lineContent ['X', '1'] ∧
    (readText (joinLines [['x', '(', ';', ')', '1'], ['M', '2', ';', '(', '\r']])).1.commands.map
        Command.request =
      (readText (joinLines [['X', '1'], ['M', '2']])).1.commands.map Command.request := by
  have hcomment : Noise ['X', '1'] ['X', '(', ';', ')', '1'] :=
    @Noise.comment ['X'] [';'] ['1'] (by decide) (by decide) (by decide)
  have hletters : Noise ['X', '(', ';', ')', '1'] ['x', '(', ';', ')', '1'] :=
    .letters (by decide)
  have hremark : Noise ['M', '2'] ['M', '2', ';', '('] :=
    @Noise.remark ['M', '2'] ['('] (by decide) (by decide)
  have hreturn : Noise ['M', '2', ';', '('] ['M', '2', ';', '(', '\r'] := .carriageReturn
  have hsplit : splitLines (joinLines [['X', '1'], ['M', '2']]).toList = [['X', '1'], ['M', '2']] :=
    splitLines_joinLines (by decide) (by decide)
  refine ⟨noise_is_invisible.1 ['X', '1'] _ (by decide) hcomment, ?_⟩
  refine (noise_is_invisible.2 (joinLines [['X', '1'], ['M', '2']]) acceptAll _ ?_).2
  rw [hsplit]
  exact .cons (.tail (.single hcomment) hletters) (.cons (.tail (.single hremark) hreturn) .nil)

/-- Inside an open comment another comment may not be put: it would end the open one. -/
example : ¬ ClosesComments ['X', '(', '1'] ∧
    lineContent ['X', '(', '1', '(', ')'] ≠ lineContent ['X', '(', '1'] := by decide

end Machining.Program
