import Machining.Proofs.Number.NumeralGrammar
set_option autoImplicit false

/-!
# Numerals are texts of numbers

The grammar of numerals in program words and the grammar of number texts were made apart:
one asks for decimal digits of any script, the other also admits blanks, underscores,
exponents and names.  Every numeral of the first is a number text of the second, and it
has the same number in both.  The proof goes by the numeral in ASCII digits, which the
second grammar reads in place of the written one.
-/

namespace Machining

open Machining.Text

/-! ## Digits of any script -/

theorem exists_zeroDigit {c : Char} (h : isDigit c = true) :
    ∃ z ∈ zeroDigits, z ≤ c.toNat ∧ c.toNat < z + 10 := by
  obtain ⟨value, hvalue⟩ := Option.isSome_iff_exists.mp h
  obtain ⟨z, hmem, hz⟩ := List.exists_of_findSome?_eq_some hvalue
  split at hz
  · rename_i hrange
    exact ⟨z, hmem, hrange⟩
  · cases hz

/-- No run of digits touches a run of blanks. -/
theorem zeroDigits_apart_blankRanges :
    ∀ z ∈ zeroDigits, ∀ r ∈ blankRanges, z + 9 < r.1 ∨ r.2 < z := by
  decide

theorem isNumberBlank_of_isDigit {c : Char} (h : isDigit c = true) :
    isNumberBlank c = false := by
  obtain ⟨z, hz, hlow, hhigh⟩ := exists_zeroDigit h
  rw [Bool.eq_false_iff]
  intro hblank
  obtain ⟨r, hr, hrange⟩ := List.any_eq_true.mp (Bool.and_eq_true_iff.mp hblank).1
  simp only [Bool.and_eq_true, decide_eq_true_eq] at hrange
  rcases zeroDigits_apart_blankRanges z hz r hr with habove | hbelow
  · omega
  · omega

/-- The ASCII digit of the same value; other characters stay. -/
def plainDigit (c : Char) : Char :=
  match digitValue? c with
  | some value => Nat.digitChar value
  | none => c

/-- An ASCII digit is a digit. -/
theorem isDigit_of_plain {c : Char} (h : c.isDigit = true) : isDigit c = true := by
  rw [Char.isDigit, Bool.and_eq_true_iff, decide_eq_true_iff, decide_eq_true_iff] at h
  have hlow : 0x30 ≤ c.toNat := h.1
  have hhigh : c.toNat ≤ 0x39 := h.2
  unfold isDigit digitValue? zeroDigits
  rw [List.findSome?_cons, if_pos ⟨hlow, by omega⟩]
  rfl

theorem digitChar_of_lt_ten : ∀ value < 10,
    (Nat.digitChar value).isDigit = true ∧
      digitValue? (Nat.digitChar value) = some value := by
  decide

section

variable {c : Char}

theorem digitValue?_plainDigit (c : Char) : digitValue? (plainDigit c) = digitValue? c := by
  unfold plainDigit
  split
  · rename_i value hvalue
    rw [hvalue]
    exact (digitChar_of_lt_ten value (digitValue?_lt hvalue)).2
  · rfl

theorem isDigit_plainDigit (h : isDigit c = true) : (plainDigit c).isDigit = true := by
  obtain ⟨value, hvalue⟩ := Option.isSome_iff_exists.mp h
  unfold plainDigit
  rw [hvalue]
  exact (digitChar_of_lt_ten value (digitValue?_lt hvalue)).1

/-- The number of a row of digits does not depend on their script. -/
theorem digitsValue_map_plainDigit (digits : List Char) :
    digitsValue (digits.map plainDigit) = digitsValue digits := by
  unfold digitsValue
  rw [List.foldl_map]
  simp only [digitValue?_plainDigit]

end

/-! ## Plain rows of digits -/

/-- A row of ASCII digits. -/
def AllPlain (cs : List Char) : Prop := ∀ c ∈ cs, c.isDigit = true

theorem AllDigits.map_plainDigit {digits : List Char} (h : AllDigits digits) :
    AllPlain (digits.map plainDigit) := by
  intro c hc
  obtain ⟨digit, hdigit, rfl⟩ := List.mem_map.mp hc
  exact isDigit_plainDigit (h digit hdigit)

section

variable {digits : List Char} (tail : List Char)

theorem AllPlain.takeWhile_point (h : AllPlain digits) :
    (digits ++ '.' :: tail).takeWhile Char.isDigit = digits := by
  rw [List.takeWhile_append_of_pos h]
  exact List.append_nil digits

theorem AllPlain.dropWhile_point (h : AllPlain digits) :
    (digits ++ '.' :: tail).dropWhile Char.isDigit = '.' :: tail := by
  rw [List.dropWhile_append_of_pos h]
  rfl

theorem AllPlain.takeWhile_self (h : AllPlain digits) :
    digits.takeWhile Char.isDigit = digits := by
  simpa using @List.takeWhile_append_of_pos Char Char.isDigit digits [] h

theorem AllPlain.dropWhile_self (h : AllPlain digits) :
    digits.dropWhile Char.isDigit = [] := by
  simpa using @List.dropWhile_append_of_pos Char Char.isDigit digits [] h

end

section

variable {digits fraction : List Char} (negative : Bool)

theorem decimalPart_digits (hdigits : AllPlain digits) (hsome : digits ≠ []) :
    decimalPart negative digits = some (decimalFloat negative (digitsValue digits) 0) := by
  unfold decimalPart
  simp only [hdigits.takeWhile_self, hdigits.dropWhile_self]
  rw [if_neg (by simp [hsome])]
  simp

theorem decimalPart_point (hdigits : AllPlain digits) (hfraction : AllPlain fraction)
    (hsome : fraction ≠ []) :
    decimalPart negative (digits ++ '.' :: fraction) =
      some (decimalFloat negative (digitsValue (digits ++ fraction))
        (-(fraction.length : Int))) := by
  unfold decimalPart
  simp only [hdigits.takeWhile_point, hdigits.dropWhile_point, hfraction.takeWhile_self,
    hfraction.dropWhile_self]
  rw [if_neg (by simp [hsome])]
  simp

end

/-! ## Texts of a sign, digits and a point -/

/-- Digits of any script, and points. -/
def IsBody (cs : List Char) : Prop := ∀ c ∈ cs, isDigit c = true ∨ c = '.'

theorem IsSign.map_plainDigit {sign : List Char} (h : IsSign sign) :
    sign.map plainDigit = sign := by
  rcases h with rfl | rfl | rfl <;> decide

theorem dropWhile_eq_self {α : Type} {p : α → Bool} {xs : List α}
    (h : ∀ x ∈ xs, p x = false) : xs.dropWhile p = xs := by
  cases xs with
  | nil => rfl
  | cons x rest => rw [List.dropWhile_cons_of_neg (by simp [h x])]

/-- A text without blanks is taken as it stands, in ASCII digits. -/
theorem settingBody_ofList {cs : List Char} (h : ∀ c ∈ cs, isNumberBlank c = false) :
    settingBody (String.ofList cs) = cs.map plainDigit := by
  have hreverse : ∀ c ∈ cs.reverse, isNumberBlank c = false :=
    fun c hc => h c (List.mem_reverse.mp hc)
  unfold settingBody
  rw [String.toList_ofList, dropWhile_eq_self h, dropWhile_eq_self hreverse,
    List.reverse_reverse]
  rfl

theorem dropUnderscores_eq_some : ∀ (afterDigit : Bool) (cs : List Char), '_' ∉ cs →
    dropUnderscores afterDigit cs = some cs := by
  intro afterDigit cs
  induction cs generalizing afterDigit with
  | nil => intro _; rfl
  | cons c rest ih =>
    intro h
    have hc := List.ne_of_not_mem_cons h
    have hrest := List.not_mem_of_not_mem_cons h
    unfold dropUnderscores
    split
    case h_1 heq => cases heq
    case h_2 heq =>
      cases heq
      exact absurd rfl hc
    case h_3 heq =>
      cases heq
      exact absurd rfl hc
    case h_4 heq =>
      cases heq
      rw [ih _ hrest]
      rfl

/-- A sign is negative just if it is the minus sign. -/
theorem splitSign_eq (cs : List Char) :
    splitSign cs = (decide ((splitSign cs).2.1 = ['-']), (splitSign cs).2) := by
  unfold splitSign
  split <;> rfl

/-- A digit in small letters is that digit. -/
theorem toLower_of_isDigit {c : Char} (h : c.isDigit = true) : c.toLower = c := by
  unfold Char.toLower
  split
  · rename_i hupper
    have hle : 'A'.val ≤ '9'.val :=
      UInt32.le_trans hupper.1 (of_decide_eq_true (Bool.and_eq_true_iff.mp h).2)
    exact absurd hle (by decide)
  · rfl

namespace IsBody

variable {body : List Char}

theorem plain (h : IsBody body) : ∀ c ∈ body.map plainDigit, c.isDigit = true ∨ c = '.' := by
  intro c hc
  obtain ⟨b, hb, rfl⟩ := List.mem_map.mp hc
  rcases h b hb with hdigit | rfl
  · exact .inl (isDigit_plainDigit hdigit)
  · exact .inr (by decide)

/-- A text in which every character is a digit or a point names nothing. -/
theorem name_ne (h : IsBody body) {name : String} (hn : 'n' ∈ name.toList) :
    String.ofList ((body.map plainDigit).map Char.toLower) ≠ name := by
  rintro rfl
  rw [String.toList_ofList] at hn
  obtain ⟨c, hc, hlower⟩ := List.mem_map.mp hn
  rcases h.plain c hc with hdigit | rfl
  · rw [toLower_of_isDigit hdigit] at hlower
    rw [hlower] at hdigit
    exact absurd hdigit (by decide)
  · exact absurd hlower (by decide)

variable {sign : List Char}

theorem not_blank (hsign : IsSign sign) (h : IsBody body) :
    ∀ c ∈ sign ++ body, isNumberBlank c = false := by
  intro c hc
  rcases List.mem_append.mp hc with hc | hc
  · rcases hsign with rfl | rfl | rfl
    · cases hc
    · rw [List.mem_singleton.mp hc]
      decide
    · rw [List.mem_singleton.mp hc]
      decide
  · rcases h c hc with hdigit | rfl
    · exact isNumberBlank_of_isDigit hdigit
    · decide

theorem not_underscore (hsign : IsSign sign) (h : IsBody body) :
    '_' ∉ sign ++ body.map plainDigit := by
  intro hc
  rcases List.mem_append.mp hc with hc | hc
  · rcases hsign with rfl | rfl | rfl <;> exact absurd hc (by decide)
  · rcases h.plain _ hc with hdigit | heq
    · exact absurd hdigit (by decide)
    · exact absurd heq (by decide)

theorem split (hsign : IsSign sign) (h : IsBody body) :
    splitSign (sign ++ body.map plainDigit) =
      (decide (sign = ['-']), sign, body.map plainDigit) := by
  have hparts : (splitSign (sign ++ body.map plainDigit)).2 =
      (sign, body.map plainDigit) := by
    apply splitSign_isSign_append hsign
    intro c hc
    rcases h.plain c (List.mem_of_head? hc) with hdigit | rfl
    · constructor
      · rintro rfl
        exact absurd hdigit (by decide)
      · rintro rfl
        exact absurd hdigit (by decide)
    · decide
  rw [splitSign_eq, hparts]

/-- A sign or none with digits and points behind it is read as a decimal. -/
theorem readFloat? (hsign : IsSign sign) (h : IsBody body) :
    readFloat? (String.ofList (sign ++ body)) =
      decimalPart (sign = ['-']) (body.map plainDigit) := by
  unfold Machining.readFloat?
  rw [settingBody_ofList (not_blank hsign h), List.map_append, hsign.map_plainDigit,
    dropUnderscores_eq_some false _ (not_underscore hsign h)]
  simp only [Option.bind_eq_bind, Option.bind_some, split hsign h]
  split
  · rename_i heq
    exact absurd heq (h.name_ne (by decide))
  · rename_i heq
    exact absurd heq (h.name_ne (by decide))
  · rename_i heq
    exact absurd heq (h.name_ne (by decide))
  · rfl

end IsBody

/-! ## Numerals -/

namespace Numeral

variable {n : Numeral}

/-- Every numeral is the text of a number, and it has the same number as that text. -/
theorem IsWritten.readFloat? (h : n.IsWritten) :
    readFloat? (String.ofList n.text) = some n.value := by
  cases h with
  | @whole sign digits hsign hdigits hsome =>
    have hbody : IsBody digits := fun c hc => .inl (hdigits c hc)
    have htext : text ⟨sign, digits, none⟩ = sign ++ digits := List.append_nil _
    rw [htext, hbody.readFloat? hsign,
      decimalPart_digits _ hdigits.map_plainDigit (by simpa using hsome),
      digitsValue_map_plainDigit]
    simp [value]
  | @decimal sign digits fraction hsign hdigits hfraction hsome =>
    have hbody : IsBody (digits ++ '.' :: fraction) := by
      intro c hc
      rcases List.mem_append.mp hc with hc | hc
      · exact .inl (hdigits c hc)
      · rcases List.mem_cons.mp hc with rfl | hc
        · exact .inr rfl
        · exact .inl (hfraction c hc)
    have hpoint : plainDigit '.' = '.' := by decide
    have htext : text ⟨sign, digits, some fraction⟩ = sign ++ (digits ++ '.' :: fraction) :=
      List.append_assoc _ _ _
    rw [htext, hbody.readFloat? hsign, List.map_append, List.map_cons, hpoint,
      decimalPart_point _ hdigits.map_plainDigit hfraction.map_plainDigit
        (by simpa using hsome),
      ← List.map_append, digitsValue_map_plainDigit, List.length_map]
    simp [value]

/-- The texts of numerals by their parts: a sign or none, digits or none, a point or none,
and digits. -/
def IsText (cs : List Char) : Prop :=
  ∃ sign whole point digits : List Char, IsSign sign ∧ AllDigits whole ∧
    (point = [] ∨ point = ['.']) ∧ AllDigits digits ∧ digits ≠ [] ∧
    cs = sign ++ (whole ++ (point ++ digits))

/-- Such a text is that of a numeral. -/
theorem IsText.exists_isWritten {cs : List Char} (h : IsText cs) :
    ∃ n : Numeral, n.IsWritten ∧ n.text = cs := by
  obtain ⟨sign, whole, point, digits, hsign, hwhole, hpoint, hdigits, hsome, rfl⟩ := h
  rcases hpoint with rfl | rfl
  · -- without a point all digits are before it
    have hall : AllDigits (whole ++ digits) := by
      intro c hc
      rcases List.mem_append.mp hc with hc | hc
      · exact hwhole c hc
      · exact hdigits c hc
    exact ⟨_, .whole hsign hall (by simp [hsome]), List.append_nil _⟩
  · exact ⟨_, .decimal hsign hwhole hdigits hsome, List.append_assoc _ _ _⟩

end Numeral

end Machining
