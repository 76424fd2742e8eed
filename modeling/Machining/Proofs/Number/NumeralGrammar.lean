import Machining.Number.Numeral
set_option autoImplicit false

/-!
# The grammar of numerals

A numeral has at most one sign and then either digits alone, or a point with digits behind
it and perhaps before it.  A text may begin with several numerals, one in front of the
other; scanning takes the longest of them, and it finds one wherever there is any.
-/

namespace Machining

open Machining.Text

/-- At most one sign. -/
def IsSign (cs : List Char) : Prop := cs = [] ∨ cs = ['+'] ∨ cs = ['-']

/-- A row of decimal digits. -/
def AllDigits (cs : List Char) : Prop := ∀ c ∈ cs, isDigit c = true

theorem allDigits_takeWhile (cs : List Char) : AllDigits (cs.takeWhile isDigit) :=
  List.all_eq_true.mp List.all_takeWhile

theorem isSign_splitSign (cs : List Char) : IsSign (splitSign cs).2.1 := by
  unfold splitSign
  split
  · exact .inr (.inr rfl)
  · exact .inr (.inl rfl)
  · exact .inl rfl

/-- A sign in front of a text without one is split off as it stands. -/
theorem splitSign_isSign_append {sign body : List Char} (hsign : IsSign sign)
    (hbody : ∀ c, body.head? = some c → c ≠ '+' ∧ c ≠ '-') :
    (splitSign (sign ++ body)).2 = (sign, body) := by
  rcases hsign with rfl | rfl | rfl
  · unfold splitSign
    split
    · exact absurd rfl (hbody '-' (congrArg List.head? ‹_›)).2
    · exact absurd rfl (hbody '+' (congrArg List.head? ‹_›)).1
    · rfl
  · rfl
  · rfl

/-- A digit is no sign. -/
theorem ne_sign_of_isDigit {c : Char} (h : isDigit c = true) : c ≠ '+' ∧ c ≠ '-' := by
  constructor
  · rintro rfl
    exact absurd h (by decide)
  · rintro rfl
    exact absurd h (by decide)

namespace Numeral

/-- The numerals of the grammar. -/
inductive IsWritten : Numeral → Prop where
  /-- A sign or none, and digits. -/
  | whole {sign digits : List Char} (hsign : IsSign sign) (hdigits : AllDigits digits)
      (hsome : digits ≠ []) : IsWritten ⟨sign, digits, none⟩
  /-- A sign or none, digits or none, a point, and digits. -/
  | decimal {sign digits fraction : List Char} (hsign : IsSign sign)
      (hdigits : AllDigits digits) (hfraction : AllDigits fraction)
      (hsome : fraction ≠ []) : IsWritten ⟨sign, digits, some fraction⟩

/-- The numeral stands at the front of the text, and no longer one does. -/
structure IsLongest (cs : List Char) (n : Numeral) : Prop where
  written : n.IsWritten
  front : n.text <+: cs
  longest : ∀ m : Numeral, m.IsWritten → m.text <+: cs → m.text.length ≤ n.text.length

/-! ## What scanning finds -/

/-- Scanning finds numerals of the grammar only. -/
theorem isWritten_of_scan {cs rest : List Char} {n : Numeral}
    (h : scan cs = some (n, rest)) : n.IsWritten := by
  have hsign := isSign_splitSign cs
  have hdigits := allDigits_takeWhile (splitSign cs).2.2
  simp only [scan] at h
  split at h
  · split at h
    · split at h
      · cases h
      · rename_i hsome
        cases h
        exact .whole hsign hdigits (by simpa using hsome)
    · rename_i hsome
      cases h
      exact .decimal hsign hdigits (allDigits_takeWhile _) (by simpa using hsome)
  · split at h
    · cases h
    · rename_i hsome
      cases h
      exact .whole hsign hdigits (by simpa using hsome)

section

variable {sign digits fraction : List Char} (tail : List Char)

/-- Digits with a sign or none in front, split into their parts. -/
theorem splitSign_digits (hsign : IsSign sign) (hdigits : AllDigits digits)
    (hsome : digits ≠ []) : (splitSign (sign ++ (digits ++ tail))).2 = (sign, digits ++ tail) := by
  apply splitSign_isSign_append hsign
  intro c hc
  obtain ⟨first, rest, rfl⟩ := List.exists_cons_of_ne_nil hsome
  cases hc
  exact ne_sign_of_isDigit (hdigits c List.mem_cons_self)

/-- A point, with digits or none in front of it, split from its sign. -/
theorem splitSign_decimal (hsign : IsSign sign) (hdigits : AllDigits digits) :
    (splitSign (sign ++ (digits ++ '.' :: tail))).2 = (sign, digits ++ '.' :: tail) := by
  cases digits with
  | nil =>
    apply splitSign_isSign_append hsign
    intro c hc
    cases hc
    decide
  | cons first rest =>
    exact splitSign_digits ('.' :: tail) hsign hdigits (List.cons_ne_nil first rest)

/-- A numeral with a point is taken with all digits that follow it. -/
theorem scan_decimal (hsign : IsSign sign) (hdigits : AllDigits digits)
    (hsome : fraction ≠ []) (hfraction : AllDigits fraction) :
    scan (sign ++ (digits ++ '.' :: (fraction ++ tail))) =
      some (⟨sign, digits, some (fraction ++ tail.takeWhile isDigit)⟩,
        tail.dropWhile isDigit) := by
  have hsplit := splitSign_decimal (fraction ++ tail) hsign hdigits
  have hwhole : (digits ++ '.' :: (fraction ++ tail)).takeWhile isDigit = digits := by
    rw [List.takeWhile_append_of_pos hdigits]
    exact List.append_nil digits
  have hpoint : (digits ++ '.' :: (fraction ++ tail)).dropWhile isDigit =
      '.' :: (fraction ++ tail) := by
    rw [List.dropWhile_append_of_pos hdigits]
    rfl
  simp only [scan, hsplit, hwhole, hpoint, List.takeWhile_append_of_pos hfraction,
    List.dropWhile_append_of_pos hfraction]
  rw [if_neg (by simp [hsome])]

/-- Digits are taken with all digits that follow them, and with a fraction behind these. -/
theorem scan_whole (hsign : IsSign sign) (hdigits : AllDigits digits) (hsome : digits ≠ []) :
    ∃ fraction rest,
      scan (sign ++ (digits ++ tail)) =
        some (⟨sign, digits ++ tail.takeWhile isDigit, fraction⟩, rest) ∧
      (tail = [] → fraction = none ∧ rest = []) := by
  have hsplit := splitSign_digits tail hsign hdigits hsome
  have hplain : (digits ++ tail.takeWhile isDigit).isEmpty = false := by simp [hsome]
  simp only [scan, hsplit, List.takeWhile_append_of_pos hdigits,
    List.dropWhile_append_of_pos hdigits, hplain, Bool.false_eq_true, if_false]
  split
  · rename_i behind hpoint
    have htail : tail ≠ [] := by
      rintro rfl
      cases hpoint
    split
    · exact ⟨_, _, rfl, fun h => absurd h htail⟩
    · exact ⟨_, _, rfl, fun h => absurd h htail⟩
  · refine ⟨_, _, rfl, ?_⟩
    rintro rfl
    exact ⟨rfl, rfl⟩

/-- Digits are taken as a numeral if neither a digit nor a point follows them. -/
theorem scan_whole_apart (hsign : IsSign sign) (hdigits : AllDigits digits)
    (hsome : digits ≠ [])
    (htail : ∀ c, tail.head? = some c → isDigit c = false ∧ c ≠ '.') :
    scan (sign ++ (digits ++ tail)) = some (⟨sign, digits, none⟩, tail) := by
  have hsplit := splitSign_digits tail hsign hdigits hsome
  have htake : tail.takeWhile isDigit = [] := by
    cases tail with
    | nil => rfl
    | cons c rest => exact List.takeWhile_cons_of_neg (by simp [(htail c rfl).1])
  have hdrop : tail.dropWhile isDigit = tail := by
    cases tail with
    | nil => rfl
    | cons c rest => exact List.dropWhile_cons_of_neg (by simp [(htail c rfl).1])
  simp only [scan, hsplit, List.takeWhile_append_of_pos hdigits,
    List.dropWhile_append_of_pos hdigits, htake, hdrop, List.append_nil]
  split
  · exact absurd rfl (htail '.' rfl).2
  · rw [if_neg (by simpa using hsome)]

end

/-- A numeral begins with a digit, a sign or a point. -/
theorem scan_eq_none {c : Char} (hdigit : isDigit c = false) (hsign : c ≠ '+' ∧ c ≠ '-')
    (hpoint : c ≠ '.') (rest : List Char) : scan (c :: rest) = none := by
  have hsplit : (splitSign (c :: rest)).2 = ([], c :: rest) := by
    apply splitSign_isSign_append (.inl rfl)
    intro first hfirst
    cases hfirst
    exact hsign
  simp only [scan, hsplit, List.takeWhile_cons_of_neg (Bool.eq_false_iff.mp hdigit),
    List.dropWhile_cons_of_neg (Bool.eq_false_iff.mp hdigit)]
  split
  · rename_i hfirst
    exact absurd (List.cons.inj hfirst).1 hpoint
  · rfl

/-- Scanning a text with a numeral at its front finds one that is no shorter. -/
theorem exists_scan {m : Numeral} (h : m.IsWritten) (tail : List Char) :
    ∃ n rest, scan (m.text ++ tail) = some (n, rest) ∧ m.text.length ≤ n.text.length := by
  cases h with
  | @whole sign digits hsign hdigits hsome =>
    obtain ⟨fraction, rest, hscan, _⟩ := scan_whole tail hsign hdigits hsome
    refine ⟨⟨sign, digits ++ tail.takeWhile isDigit, fraction⟩, rest, ?_, ?_⟩
    · simpa [text] using hscan
    · simp only [text, List.length_append, List.length_nil]
      omega
  | @decimal sign digits fraction hsign hdigits hfraction hsome =>
    have hscan := scan_decimal tail hsign hdigits hsome hfraction
    refine ⟨⟨sign, digits, some (fraction ++ tail.takeWhile isDigit)⟩,
      tail.dropWhile isDigit, ?_, ?_⟩
    · simpa [text] using hscan
    · simp only [text, List.length_append, List.length_cons]
      omega

/-- Scanning a numeral alone gives that numeral. -/
theorem scan_text {m : Numeral} (h : m.IsWritten) : scan m.text = some (m, []) := by
  cases h with
  | @whole sign digits hsign hdigits hsome =>
    obtain ⟨fraction, rest, hscan, halone⟩ := scan_whole [] hsign hdigits hsome
    obtain ⟨rfl, rfl⟩ := halone rfl
    simpa [text] using hscan
  | @decimal sign digits fraction hsign hdigits hfraction hsome =>
    have hscan := scan_decimal [] hsign hdigits hsome hfraction
    simpa [text] using hscan

/-- A numeral is known by its characters. -/
theorem IsWritten.eq_of_text {m n : Numeral} (hm : m.IsWritten) (hn : n.IsWritten)
    (h : m.text = n.text) : m = n := by
  have hscan := scan_text hm
  rw [h, scan_text hn] at hscan
  cases hscan
  rfl

/-! ## The longest numeral -/

/-- Scanning finds the longest numeral. -/
theorem isLongest_of_scan {cs rest : List Char} {n : Numeral}
    (h : scan cs = some (n, rest)) : n.IsLongest cs where
  written := isWritten_of_scan h
  front := ⟨rest, text_append_of_scan h⟩
  longest := by
    rintro m hm ⟨tail, rfl⟩
    obtain ⟨n', rest', hscan, hle⟩ := exists_scan hm tail
    cases h.symm.trans hscan
    exact hle

/-- Where scanning finds nothing, there is no numeral. -/
theorem not_isLongest_of_scan {cs : List Char} (h : scan cs = none) (n : Numeral) :
    ¬ n.IsLongest cs := by
  rintro ⟨hwritten, ⟨tail, rfl⟩, _⟩
  obtain ⟨n', rest', hscan, _⟩ := exists_scan hwritten tail
  cases h.symm.trans hscan

/-- A text has one longest numeral at most. -/
theorem IsLongest.unique {cs : List Char} {m n : Numeral} (hm : m.IsLongest cs)
    (hn : n.IsLongest cs) : m = n := by
  have hlength : m.text.length = n.text.length :=
    Nat.le_antisymm (hn.longest m hm.written hm.front) (hm.longest n hn.written hn.front)
  have hfront : m.text <+: n.text :=
    List.prefix_of_prefix_length_le hm.front hn.front (Nat.le_of_eq hlength)
  exact hm.written.eq_of_text hn.written (hfront.eq_of_length hlength)

end Numeral

end Machining
