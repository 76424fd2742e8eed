import Machining.Proofs.Program.LineOrder
set_option autoImplicit false

/-!
# Lines are read one by one

What a line gives depends on that line, on its number and on whether the check refuses it,
and on nothing else of the text.  So a text in two parts is read part by part, with the
numbers of the second part counted on; and a line that is refused gives its issue and
leaves what the other lines give as it is.
-/

namespace Machining.Program

open Machining.Text

/-! ## Lines counted on -/

/-- The command, a number of lines later. -/
def Command.shift (n : Nat) (c : Command) : Command := { c with line := c.line + n }

/-- The issue, a number of lines later. -/
def LineIssue.shift (n : Nat) (i : LineIssue) : LineIssue := { i with line := i.line + n }

/-- The check as it meets the lines that follow a number of others. -/
def checkAfter (n : Nat) (check : LineCheck) : LineCheck := fun number => check (number + n)

/-- A text with a line feed inside has the lines before it and the lines after it. -/
theorem splitLines_append (later : List Char) : ∀ earlier : List Char,
    splitLines (earlier ++ '\n' :: later) = splitLines earlier ++ splitLines later := by
  intro earlier
  induction earlier with
  | nil => rfl
  | cons c rest ih =>
    rw [List.cons_append]
    generalize splitLines later = behind at ih ⊢
    unfold splitLines
    split
    · rw [ih, List.cons_append]
    · rw [ih]
      cases hrest : splitLines rest with
      | nil => exact absurd hrest (splitLines_ne_nil rest)
      | cons line lines => rfl

theorem Command.ofLine_shift (n : Nat) (line : List Char) (number : Int) (source : String) :
    (Command.ofLine line (number + n) source).1 =
      (Command.ofLine line number source).1.map (Command.shift n) := by
  unfold Command.ofLine
  split <;> rfl

section

variable (n number : Nat) (check : LineCheck) (raw : List Char)

theorem readLine_command_shift :
    (readLine check (number + n) raw).command? =
      (readLine (checkAfter n check) number raw).command?.map (Command.shift n) := by
  unfold readLine checkAfter
  split
  · rfl
  · split
    · rfl
    · exact Command.ofLine_shift n _ number _

theorem readLine_issue_shift :
    (readLine check (number + n) raw).issue? =
      (readLine (checkAfter n check) number raw).issue?.map (LineIssue.shift n) := by
  unfold readLine checkAfter
  split
  · rfl
  · split <;> rfl

end

/-! ## What the lines of a text give -/

theorem issues_readText (text : String) (check : LineCheck) :
    (readText text check).1.issues =
      (numberedLines text).filterMap fun p => (readLine check p.2 p.1).issue? :=
  List.filterMap_map

theorem lineCount_readText (text : String) (check : LineCheck) :
    (readText text check).1.lineCount = (splitLines text.toList).length := by
  simp [readText, readLines]

theorem splitLines_toList_append (earlier later : String) :
    splitLines (earlier ++ "\n" ++ later).toList =
      splitLines earlier.toList ++ splitLines later.toList := by
  have hnewline : "\n".toList = ['\n'] := by decide
  rw [String.toList_append, String.toList_append, hnewline, List.append_assoc]
  exact splitLines_append _ _

/-- The lines of a text in two parts: those of the first part, and those of the second
with their numbers counted on. -/
theorem numberedLines_append (earlier later : String) :
    numberedLines (earlier ++ "\n" ++ later) =
      numberedLines earlier ++
        (numberedLines later).map fun p => (p.1, p.2 + (splitLines earlier.toList).length) := by
  unfold numberedLines
  rw [splitLines_toList_append, List.zipIdx_append, Nat.add_comm 1,
    ← List.map_snd_add_zipIdx_eq_zipIdx]
  rfl

section

variable {check check' : LineCheck} {number : Nat} {raw : List Char}

/-- An issue has the number of its line, which gives no command. -/
theorem issue_of_readLine {e : LineIssue} (h : (readLine check number raw).issue? = some e) :
    e.line = number ∧ (readLine check number raw).command? = none := by
  unfold readLine at h ⊢
  split at h
  · cases h
  · split at h
    · cases h
      exact ⟨rfl, rfl⟩
    · cases h

/-- A refused line gives an issue if it has content, and no command. -/
theorem readLine_of_refused (raw : List Char) {reason : String}
    (h : check number = some reason) :
    (readLine check number raw).command? = none ∧
      (readLine check number raw).issue? =
        if lineContent raw = [] then none else some ⟨number, reason, String.ofList raw⟩ := by
  unfold readLine
  split
  · rename_i hempty
    exact ⟨rfl, (if_pos hempty).symm⟩
  · rename_i hcontent
    rw [h, if_neg hcontent]
    exact ⟨rfl, rfl⟩

/-- Of the check only its verdict on the line counts. -/
theorem readLine_congr (h : check' number = check number) :
    readLine check' number raw = readLine check number raw := by
  unfold readLine
  rw [h]

end

/-- What elements with a property give depends on what is given for these only. -/
theorem filterMap_filter_congr {α β : Type} {f g : α → Option β} {q : α → Bool}
    (h : ∀ x, q x = true → f x = g x) (xs : List α) :
    (xs.filter q).filterMap f = (xs.filter q).filterMap g := by
  rw [List.filterMap_filter, List.filterMap_filter]
  congr
  funext x
  by_cases hx : q x = true
  · rw [if_pos hx, if_pos hx, h x hx]
  · rw [if_neg hx, if_neg hx]

/-- Of numbered elements, the one with a number. -/
theorem filter_zipIdx {α : Type} : ∀ (xs : List α) (k n : Nat) {x : α}, xs[n]? = some x →
    (xs.zipIdx k).filter (fun p => p.2 = k + n) = [(x, k + n)] := by
  intro xs
  induction xs with
  | nil => intro k n x h; cases h
  | cons y rest ih =>
    intro k n x h
    rw [List.zipIdx_cons]
    cases n with
    | zero =>
      cases h
      have hrest : (rest.zipIdx (k + 1)).filter (fun p => p.2 = k + 0) = [] := by
        rw [List.filter_eq_nil_iff]
        rintro ⟨z, i⟩ hmem
        have hlow := (List.mem_zipIdx hmem).1
        simp only [decide_eq_true_eq]
        omega
      rw [List.filter_cons_of_pos (by simp), hrest]
      rfl
    | succ n =>
      have hnext : k + (n + 1) = k + 1 + n := by omega
      rw [hnext, List.filter_cons_of_neg (by simp; omega)]
      exact ih (k + 1) n h

/-- The line at a position has the next number, alone among the numbered lines. -/
theorem filter_numberedLines {text : String} {n : Nat} {raw : List Char}
    (h : (splitLines text.toList)[n]? = some raw) :
    (numberedLines text).filter (fun p => p.2 = n + 1) = [(raw, n + 1)] := by
  rw [Nat.add_comm n 1]
  exact filter_zipIdx _ 1 n h

/-- Two numbered lines with the same number are one. -/
theorem eq_of_mem_numberedLines {text : String} {p q : List Char × Nat}
    (hp : p ∈ numberedLines text) (hq : q ∈ numberedLines text) (h : p.2 = q.2) : p = q := by
  have hp' := (List.mk_mem_zipIdx_iff_le_and_getElem?_sub.mp hp).2
  have hq' := (List.mk_mem_zipIdx_iff_le_and_getElem?_sub.mp hq).2
  rw [h] at hp'
  exact Prod.ext (Option.some.inj (hp'.symm.trans hq')) h

/-! ## Lines and their numbers -/

/-- A text is read line by line: what its lines give is numbered by them, and what a
refused line gives does not bear on the others. -/
structure IsReadByLines (text : String) (check : LineCheck) (r : Reading) : Prop where
  commandNumbers : (r.commands.map (·.line)).Pairwise (· < ·)
  issueNumbers : (r.issues.map (·.line)).Pairwise (· < ·)
  commandsWithin : ∀ c ∈ r.commands, 1 ≤ c.line ∧ c.line ≤ r.lineCount
  issuesWithin : ∀ e ∈ r.issues, 1 ≤ e.line ∧ e.line ≤ r.lineCount
  /-- No line gives both a command and an issue. -/
  exclusive : ∀ c ∈ r.commands, ∀ e ∈ r.issues, c.line ≠ e.line
  /-- A refused line gives no command, and one issue with the line as it was written if
  there is content in it. -/
  refused : ∀ (n : Nat) raw reason, (splitLines text.toList)[n]? = some raw →
    check (n + 1) = some reason →
      r.commands.filter (fun c => c.line = ((n + 1 : Nat) : Int)) = [] ∧
      r.issues.filter (fun e => e.line = n + 1) =
        if lineContent raw = [] then [] else [⟨n + 1, reason, String.ofList raw⟩]
  /-- Whether a line is refused does not bear on what the other lines give. -/
  others : ∀ (n : Nat) (check' : LineCheck), (∀ m, m ≠ n → check' m = check m) →
    (readText text check').1.commands.filter (fun c => c.line ≠ (n : Int)) =
        r.commands.filter (fun c => c.line ≠ (n : Int)) ∧
      (readText text check').1.issues.filter (fun e => e.line ≠ n) =
        r.issues.filter (fun e => e.line ≠ n)

section

variable (text : String) (check : LineCheck)

theorem mem_commands_readText {c : Command} :
    c ∈ (readText text check).1.commands ↔
      ∃ p ∈ numberedLines text, (readLine check p.2 p.1).command? = some c := by
  rw [commands_readText, List.mem_filterMap]

theorem mem_issues_readText {e : LineIssue} :
    e ∈ (readText text check).1.issues ↔
      ∃ p ∈ numberedLines text, (readLine check p.2 p.1).issue? = some e := by
  rw [issues_readText, List.mem_filterMap]

/-- The numbers of the lines run from one to their count. -/
theorem number_of_mem_numberedLines {p : List Char × Nat} (h : p ∈ numberedLines text) :
    1 ≤ p.2 ∧ p.2 ≤ (readText text check).1.lineCount := by
  have hnumber : p.2 ∈ (numberedLines text).map Prod.snd := List.mem_map_of_mem h
  rw [numberedLines_numbers, List.mem_range'_1] at hnumber
  rw [lineCount_readText]
  omega

/-- What the lines give, restricted to certain numbers, is what the lines with these
numbers give. -/
theorem filter_commands_readText (q : Int → Bool) :
    (readText text check).1.commands.filter (fun c => q c.line) =
      ((numberedLines text).filter fun p => q p.2).filterMap
        fun p => (readLine check p.2 p.1).command? := by
  rw [commands_readText]
  exact filter_filterMap_number Nat.cast (fun _ _ => line_of_readLine) q _

theorem filter_issues_readText (q : Nat → Bool) :
    (readText text check).1.issues.filter (fun e => q e.line) =
      ((numberedLines text).filter fun p => q p.2).filterMap
        fun p => (readLine check p.2 p.1).issue? := by
  rw [issues_readText]
  exact filter_filterMap_number id (fun _ _ h => (issue_of_readLine h).1) q _

theorem readText_isReadByLines : IsReadByLines text check (readText text check).1 where
  commandNumbers := readText_lines_increasing text check
  issueNumbers := by
    have hrange : ((numberedLines text).map Prod.snd).Pairwise (· < ·) := by
      rw [numberedLines_numbers]
      exact List.pairwise_lt_range'
    rw [issues_readText]
    exact hrange.sublist
      (map_number_sublist id (fun _ _ h => (issue_of_readLine h).1) _)
  commandsWithin := by
    intro c hc
    obtain ⟨p, hp, hgiven⟩ := (mem_commands_readText text check).mp hc
    have hnumber := number_of_mem_numberedLines text check hp
    rw [line_of_readLine hgiven]
    omega
  issuesWithin := by
    intro e he
    obtain ⟨p, hp, hgiven⟩ := (mem_issues_readText text check).mp he
    rw [(issue_of_readLine hgiven).1]
    exact number_of_mem_numberedLines text check hp
  exclusive := by
    intro c hc e he hsame
    obtain ⟨p, hp, hcommand⟩ := (mem_commands_readText text check).mp hc
    obtain ⟨p', hp', hissue⟩ := (mem_issues_readText text check).mp he
    obtain ⟨hnumber, hsilent⟩ := issue_of_readLine hissue
    have hp : p = p' := by
      apply eq_of_mem_numberedLines hp hp'
      have hline := line_of_readLine hcommand
      omega
    rw [hp, hsilent] at hcommand
    cases hcommand
  refused := by
    intro n raw reason hraw hreason
    obtain ⟨hcommand, hissue⟩ := readLine_of_refused raw hreason
    have hline := filter_numberedLines hraw
    constructor
    · have hfilter := filter_commands_readText text check (fun k => k = ((n + 1 : Nat) : Int))
      simp only [Int.ofNat_inj] at hfilter
      rw [hfilter, hline, List.filterMap_cons, hcommand]
      rfl
    · have hfilter := filter_issues_readText text check (fun k => k = n + 1)
      rw [hfilter, hline, List.filterMap_cons, hissue]
      by_cases hempty : lineContent raw = []
      · rw [if_pos hempty, if_pos hempty]
        rfl
      · rw [if_neg hempty, if_neg hempty]
        rfl
  others := by
    intro n check' hcheck
    have hsame : ∀ p : List Char × Nat, p.2 ≠ n →
        readLine check' p.2 p.1 = readLine check p.2 p.1 :=
      fun p hp => readLine_congr (hcheck p.2 hp)
    constructor
    · have hfilter := fun check => filter_commands_readText text check (fun k => k ≠ (n : Int))
      rw [hfilter, hfilter]
      apply filterMap_filter_congr
      intro p hp
      rw [hsame p (fun h => by simp [h] at hp)]
    · have hfilter := fun check => filter_issues_readText text check (fun k => k ≠ n)
      rw [hfilter, hfilter]
      apply filterMap_filter_congr
      intro p hp
      rw [hsame p (by simpa using hp)]

end

/-- A text in two parts gives what the first part gives and then what the second part gives,
counted on by the lines of the first; so does the check.  Within a text the numbers of
commands and of issues increase from one to the count of lines, no line gives both, and a
refused line gives one issue if it has content and bears on no other line. -/
theorem readText_reads_by_lines (text : String) (check : LineCheck) :
    let first := (readText text check).1
    IsReadByLines text check first ∧
    ∀ later : String,
      let second := (readText later (checkAfter first.lineCount check)).1
      let whole := (readText (text ++ "\n" ++ later) check).1
      whole.commands = first.commands ++ second.commands.map (Command.shift first.lineCount) ∧
      whole.issues = first.issues ++ second.issues.map (LineIssue.shift first.lineCount) ∧
      whole.lineCount = first.lineCount + second.lineCount := by
  intro first
  refine ⟨readText_isReadByLines text check, ?_⟩
  intro later second whole
  have hcount : first.lineCount = (splitLines text.toList).length :=
    lineCount_readText text check
  refine ⟨?_, ?_, ?_⟩
  · simp only [whole, first, second, commands_readText, numberedLines_append,
      List.filterMap_append, List.filterMap_map, List.map_filterMap, ← hcount]
    congr 1
    congr 1
    funext p
    exact readLine_command_shift _ _ _ _
  · simp only [whole, first, second, issues_readText, numberedLines_append,
      List.filterMap_append, List.filterMap_map, List.map_filterMap, ← hcount]
    congr 1
    congr 1
    funext p
    exact readLine_issue_shift _ _ _ _
  · simp only [whole, first, second, lineCount_readText, splitLines_toList_append,
      List.length_append]

end Machining.Program
