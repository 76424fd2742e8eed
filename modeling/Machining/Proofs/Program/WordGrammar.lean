import Machining.Program.Command
import Machining.Proofs.Number.Conversion
set_option autoImplicit false

/-!
# The grammar of words

A word stands wherever a capital letter is followed by a numeral, and it has the longest
numeral that stands there.  This says which words a line has by its positions alone,
without reading it from left to right; reading finds just these words, and the command of
a line is read off them by position too.
-/

namespace Machining.Program

open Machining.Text

/-! ## Lists by position -/

/-- The list has one element for every position at which the relation holds, in the order
of the positions. -/
def Enumerates {α : Type} (P : Nat → α → Prop) (xs : List α) : Prop :=
  ∃ found : List (Nat × α), found.map Prod.snd = xs ∧
    (found.map Prod.fst).Pairwise (· < ·) ∧ ∀ i x, (i, x) ∈ found ↔ P i x

namespace Enumerates

variable {α : Type} {P Q : Nat → α → Prop} {x : α} {xs : List α}

theorem nil (h : ∀ i x, ¬ P i x) : Enumerates P [] :=
  ⟨[], rfl, .nil, fun i x => iff_of_false List.not_mem_nil (h i x)⟩

theorem congr (h : Enumerates P xs) (hiff : ∀ i x, Q i x ↔ P i x) : Enumerates Q xs := by
  obtain ⟨found, helements, hsorted, hfound⟩ := h
  exact ⟨found, helements, hsorted, fun i x => (hfound i x).trans (hiff i x).symm⟩

/-- An element at a position before all others comes first. -/
theorem cons {i : Nat} (h : Enumerates Q xs) (hlate : ∀ j y, Q j y → i < j)
    (hiff : ∀ j y, P j y ↔ (j = i ∧ y = x) ∨ Q j y) : Enumerates P (x :: xs) := by
  obtain ⟨found, rfl, hsorted, hfound⟩ := h
  refine ⟨(i, x) :: found, rfl, List.pairwise_cons.mpr ⟨?_, hsorted⟩, ?_⟩
  · intro j hj
    obtain ⟨⟨j', y⟩, hmem, rfl⟩ := List.mem_map.mp hj
    exact hlate j' y ((hfound j' y).mp hmem)
  · intro j y
    rw [List.mem_cons, Prod.mk.injEq, hfound, hiff]

/-- A position one later, seen from the position itself. -/
theorem exists_one_add {i : Nat} {p : Nat → Prop} : (∃ j, i + 1 = 1 + j ∧ p j) ↔ p i := by
  constructor
  · rintro ⟨j, hj, h⟩
    have hij : i = j := by omega
    exact hij ▸ h
  · intro h
    exact ⟨i, Nat.add_comm i 1, h⟩

/-- The same elements, each a number of positions later. -/
theorem shift (k : Nat) (h : Enumerates P xs) :
    Enumerates (fun i x => ∃ j, i = k + j ∧ P j x) xs := by
  obtain ⟨found, rfl, hsorted, hfound⟩ := h
  refine ⟨found.map fun p => (k + p.1, p.2), ?_, ?_, ?_⟩
  · rw [List.map_map]
    rfl
  · rw [List.map_map, List.pairwise_map]
    exact (List.pairwise_map.mp hsorted).imp fun hlt => Nat.add_lt_add_left hlt k
  · intro i x
    constructor
    · intro hmem
      obtain ⟨⟨j, y⟩, hj, heq⟩ := List.mem_map.mp hmem
      cases heq
      exact ⟨j, rfl, (hfound j y).mp hj⟩
    · rintro ⟨j, rfl, hj⟩
      exact List.mem_map.mpr ⟨(j, x), (hfound j x).mpr hj, rfl⟩

end Enumerates

/-! ## Words of a line -/

/-- The characters have a word at the position: a capital letter and, from the next
character on, the longest numeral. -/
structure HoldsWord (cs : List Char) (i : Nat) (w : Word) : Prop where
  letter : cs[i]? = some w.letter
  capital : 'A' ≤ w.letter ∧ w.letter ≤ 'Z'
  numeral : w.numeral.IsLongest (cs.drop (i + 1))

theorem isUpper_iff {c : Char} : c.isUpper = true ↔ 'A' ≤ c ∧ c ≤ 'Z' :=
  decide_eq_true_iff

/-- A digit is no capital letter. -/
theorem isUpper_of_isDigit {c : Char} (h : isDigit c = true) : c.isUpper = false := by
  have hruns : ∀ z ∈ zeroDigits, z + 10 ≤ 65 ∨ 90 < z := by decide
  obtain ⟨v, hv⟩ := Option.isSome_iff_exists.mp h
  obtain ⟨z, hz, hvalue⟩ := List.exists_of_findSome?_eq_some hv
  split at hvalue
  · rename_i hrun
    have hz' := hruns z hz
    rw [Bool.eq_false_iff, Ne, isUpper_iff, Char.le_def, Char.le_def, UInt32.le_iff_toNat_le,
      UInt32.le_iff_toNat_le]
    rintro ⟨hlow, hhigh⟩
    have hlow' : 65 ≤ c.toNat := hlow
    have hhigh' : c.toNat ≤ 90 := hhigh
    omega
  · cases hvalue

/-- A numeral has no capital letter. -/
theorem isUpper_of_mem_text {n : Numeral} (h : n.IsWritten) {c : Char} (hc : c ∈ n.text) :
    c.isUpper = false := by
  have hsigns : ∀ {sign : List Char}, IsSign sign → c ∈ sign → c.isUpper = false := by
    rintro sign (rfl | rfl | rfl) hmem
    · cases hmem
    · cases List.mem_singleton.mp hmem
      rfl
    · cases List.mem_singleton.mp hmem
      rfl
  cases h with
  | whole hsign hdigits =>
    simp only [Numeral.text, List.mem_append, List.not_mem_nil, or_false] at hc
    rcases hc with hmem | hmem
    · exact hsigns hsign hmem
    · exact isUpper_of_isDigit (hdigits c hmem)
  | decimal hsign hdigits hfraction =>
    simp only [Numeral.text, List.mem_append, List.mem_cons] at hc
    rcases hc with (hmem | hmem) | rfl | hmem
    · exact hsigns hsign hmem
    · exact isUpper_of_isDigit (hdigits c hmem)
    · rfl
    · exact isUpper_of_isDigit (hfraction c hmem)

section

variable {front cs rest tail : List Char} {c : Char} {n : Numeral} {i : Nat} {w : Word}

theorem holdsWord_append :
    HoldsWord (front ++ cs) (front.length + i) w ↔ HoldsWord cs i w := by
  have hletter : (front ++ cs)[front.length + i]? = cs[i]? := by
    rw [List.getElem?_append_right (Nat.le_add_right _ _), Nat.add_sub_cancel_left]
  have hbehind : (front ++ cs).drop (front.length + i + 1) = cs.drop (i + 1) :=
    List.drop_length_add_append (i + 1)
  constructor
  · rintro ⟨h, hcapital, hnumeral⟩
    exact ⟨hletter ▸ h, hcapital, hbehind ▸ hnumeral⟩
  · rintro ⟨h, hcapital, hnumeral⟩
    exact ⟨hletter.trans h, hcapital, hbehind.symm ▸ hnumeral⟩

/-- Behind characters that are no capitals, the words are those of the rest. -/
theorem holdsWord_behind (hfront : ∀ c ∈ front, c.isUpper = false) :
    HoldsWord (front ++ cs) i w ↔ ∃ j, i = front.length + j ∧ HoldsWord cs j w := by
  constructor
  · intro h
    by_cases hlt : i < front.length
    · have hmem := h.letter
      rw [List.getElem?_append_left hlt] at hmem
      have hnot := hfront _ (List.mem_of_getElem? hmem)
      rw [isUpper_iff.mpr h.capital] at hnot
      cases hnot
    · obtain ⟨j, rfl⟩ := Nat.exists_eq_add_of_le (Nat.le_of_not_lt hlt)
      exact ⟨j, rfl, holdsWord_append.mp h⟩
  · rintro ⟨j, rfl, h⟩
    exact holdsWord_append.mpr h

/-- The word at the first position of a line. -/
theorem holdsWord_zero :
    HoldsWord (c :: rest) 0 w ↔
      c.isUpper = true ∧ w.letter = c ∧ w.numeral.IsLongest rest := by
  constructor
  · rintro ⟨hletter, hcapital, hnumeral⟩
    cases hletter
    exact ⟨isUpper_iff.mpr hcapital, rfl, hnumeral⟩
  · rintro ⟨hupper, rfl, hnumeral⟩
    exact ⟨rfl, isUpper_iff.mp hupper, hnumeral⟩

theorem holdsWord_succ : HoldsWord (c :: rest) (i + 1) w ↔ HoldsWord rest i w := by
  rw [Nat.add_comm]
  exact @holdsWord_append [c] rest i w

theorem words_cons_of_scan (hupper : c.isUpper = true)
    (hscan : Numeral.scan rest = some (n, tail)) :
    words (c :: rest) = ⟨c, n⟩ :: words tail := by
  rw [words, if_pos hupper]
  split
  · rename_i hscan'
    cases hscan.symm.trans hscan'
    rfl
  · rename_i hscan'
    cases hscan.symm.trans hscan'

theorem words_cons_of_no_scan (hupper : c.isUpper = true) (hscan : Numeral.scan rest = none) :
    words (c :: rest) = words rest := by
  rw [words, if_pos hupper]
  split
  · rename_i hscan'
    cases hscan.symm.trans hscan'
  · rfl

theorem words_cons_of_not_upper (hupper : ¬ c.isUpper = true) :
    words (c :: rest) = words rest := by
  rw [words, if_neg hupper]

/-- A character that begins no word is passed over. -/
theorem Enumerates.pass {found : List Word} (h : Enumerates (HoldsWord rest) found)
    (hnone : ∀ w, ¬ HoldsWord (c :: rest) 0 w) : Enumerates (HoldsWord (c :: rest)) found := by
  refine (h.shift 1).congr ?_
  intro i w
  cases i with
  | zero =>
    refine iff_of_false (hnone w) ?_
    rintro ⟨j, hj, _⟩
    omega
  | succ i => rw [holdsWord_succ, Enumerates.exists_one_add]

end

/-- Reading a line finds the words that its positions hold. -/
theorem words_enumerates (line : List Char) : Enumerates (HoldsWord line) (words line) := by
  induction line using words.induct with
  | case1 =>
    rw [words]
    apply Enumerates.nil
    intro i w h
    cases h.letter
  | case2 c rest hupper numeral tail hscan _ ih =>
    have hlongest := Numeral.isLongest_of_scan hscan
    have hbehind : ∀ i w, HoldsWord rest i w ↔
        ∃ j, i = numeral.text.length + j ∧ HoldsWord tail j w := by
      intro i w
      rw [← Numeral.text_append_of_scan hscan]
      exact holdsWord_behind fun c hc => isUpper_of_mem_text hlongest.written hc
    rw [words_cons_of_scan hupper hscan]
    refine ((ih.shift numeral.text.length).shift 1).cons (i := 0) ?_ ?_
    · rintro j y ⟨k, rfl, _⟩
      omega
    · intro j w
      cases j with
      | zero =>
        rw [holdsWord_zero]
        constructor
        · rintro ⟨_, hletter, hnumeral⟩
          left
          cases w
          cases hletter
          cases hnumeral.unique hlongest
          exact ⟨rfl, rfl⟩
        · rintro (⟨_, rfl⟩ | ⟨k, hk, _⟩)
          · exact ⟨hupper, rfl, hlongest⟩
          · omega
      | succ j =>
        rw [holdsWord_succ, hbehind, Enumerates.exists_one_add]
        exact (or_iff_right fun h => Nat.succ_ne_zero j h.1).symm
  | case3 c rest hupper hscan ih =>
    rw [words_cons_of_no_scan hupper hscan]
    apply ih.pass
    intro w hw
    exact Numeral.not_isLongest_of_scan hscan _ (holdsWord_zero.mp hw).2.2
  | case4 c rest hupper ih =>
    rw [words_cons_of_not_upper hupper]
    apply ih.pass
    intro w hw
    exact hupper (holdsWord_zero.mp hw).1

/-- A word that stands in a line has the number of its numeral, read as a text by itself. -/
theorem HoldsWord.readFloat? {line : List Char} {i : Nat} {w : Word}
    (h : HoldsWord line i w) : readFloat? (String.ofList w.numeral.text) = some w.value :=
  h.numeral.written.readFloat?

/-- Every word of a line stands at a position of it. -/
theorem exists_holdsWord {line : List Char} {w : Word} (h : w ∈ words line) :
    ∃ i, HoldsWord line i w := by
  obtain ⟨found, hwords, _, hholds⟩ := words_enumerates line
  rw [← hwords] at h
  obtain ⟨⟨i, v⟩, hmem, rfl⟩ := List.mem_map.mp h
  exact ⟨i, (hholds i v).mp hmem⟩

/-! ## The command of a line -/

namespace Word

/-- The word asks for a function: its letter is `G`, `M` or `T`. -/
def IsHead (w : Word) : Prop := w.letter = 'G' ∨ w.letter = 'M' ∨ w.letter = 'T'

instance (w : Word) : Decidable w.IsHead := inferInstanceAs (Decidable (_ ∨ _ ∨ _))

end Word

/-- Of the words with the property, the last one of the line. -/
structure IsLastWord (line : List Char) (p : Word → Prop) (i : Nat) (w : Word) : Prop where
  holds : HoldsWord line i w
  fits : p w
  last : ∀ j v, HoldsWord line j v → p v → j ≤ i

/-- Of the words with the property, the first one of the line. -/
structure IsFirstWord (line : List Char) (p : Word → Prop) (i : Nat) (w : Word) : Prop where
  holds : HoldsWord line i w
  fits : p w
  first : ∀ j v, HoldsWord line j v → p v → i ≤ j

/-- The word is a parameter, and the first one of the line with its letter. -/
def IntroducesAddress (line : List Char) (i : Nat) (address : String) : Prop :=
  ∃ w, ¬ w.IsHead ∧ address = w.letter.toString ∧
    IsFirstWord line (fun v => v.letter = w.letter) i w

/-- The command is the one that the words of the line ask for. -/
structure Command.IsAskedBy (line : List Char) (c : Command) : Prop where
  /-- Kind and code are those of the last word for a function. -/
  head : ∀ i w, IsLastWord line Word.IsHead i w →
    c.head.kind.name = w.letter.toString ∧ c.head.code? = some w.value
  /-- Without such a word the command is a line of parameters. -/
  modal : (∀ i w, HoldsWord line i w → ¬ w.IsHead) → c.head = .modal
  /-- A parameter has the number of the last word with its letter. -/
  value : ∀ i w, ¬ w.IsHead → IsLastWord line (fun v => v.letter = w.letter) i w →
    c.params.get? w.letter.toString = some w.value
  /-- The parameters are the other letters of the line, in the order of their first words. -/
  addresses : Enumerates (IntroducesAddress line) c.params.addresses

namespace Head

variable {w : Word}

theorem ofWord?_eq_none : ofWord? w = none ↔ ¬ w.IsHead := by
  unfold ofWord? Word.IsHead
  split
  · simp [*]
  · split
    · simp [*]
    · split <;> simp [*]

/-- A word for a function gives its own letter and number. -/
theorem exists_ofWord? (h : w.IsHead) :
    ∃ head, ofWord? w = some head ∧ head.kind.name = w.letter.toString ∧
      head.code? = some w.value := by
  unfold ofWord?
  rcases h with h | h | h
  · exact ⟨.g w.value, by simp [h], by rw [h]; rfl, rfl⟩
  · exact ⟨.m w.value, by simp [h], by rw [h]; rfl, rfl⟩
  · exact ⟨.t w.value, by simp [h], by rw [h]; rfl, rfl⟩

/-- The number of a word is the code of what the word asks for. -/
theorem code?_of_ofWord? {head : Head} (h : ofWord? w = some head) :
    head.code? = some w.value := by
  have hhead : w.IsHead := by
    apply Decidable.of_not_not
    intro hnot
    cases h.symm.trans (ofWord?_eq_none.mpr hnot)
  obtain ⟨head', hhead', _, hcode⟩ := exists_ofWord? hhead
  cases h.symm.trans hhead'
  exact hcode

end Head

/-- What a function picks last from a list by position is what it picks at the last
position where it picks anything. -/
theorem getLast?_filterMap_of_last {α β : Type} {f : α → Option β} {found : List (Nat × α)}
    {i : Nat} {x : α} {y : β} (hsorted : (found.map Prod.fst).Pairwise (· < ·))
    (hmem : (i, x) ∈ found) (hy : f x = some y)
    (hlast : ∀ j z, (j, z) ∈ found → (f z).isSome = true → j ≤ i) :
    ((found.map Prod.snd).filterMap f).getLast? = some y := by
  obtain ⟨earlier, later, rfl⟩ := List.append_of_mem hmem
  rw [List.map_append, List.map_cons, List.pairwise_append, List.pairwise_cons] at hsorted
  have hnone : (later.map Prod.snd).filterMap f = [] := by
    rw [List.filterMap_eq_nil_iff]
    intro z hz
    obtain ⟨⟨j, z'⟩, hj, rfl⟩ := List.mem_map.mp hz
    have hlt : i < j := hsorted.2.1.1 j (List.mem_map_of_mem hj)
    rw [← Option.not_isSome_iff_eq_none]
    intro hsome
    have hle := hlast j z' (List.mem_append_right _ (List.mem_cons_of_mem _ hj)) hsome
    omega
  rw [List.map_append, List.map_cons, List.filterMap_append, List.filterMap_cons, hy, hnone]
  exact List.getLast?_concat

/-- The address is new, and the number is the first one that the entries give with it. -/
structure Introduces (known : List String) (given : List (Nat × String × Float)) (i : Nat)
    (address : String) : Prop where
  new : address ∉ known
  occurs : ∃ value, (i, address, value) ∈ given
  first : ∀ j value, (j, address, value) ∈ given → i ≤ j

namespace Introduces

variable {known : List String} {entry : Nat × String × Float}
  {rest : List (Nat × String × Float)} {i : Nat} {address : String}

theorem cons_of_ne (hne : address ≠ entry.2.1) :
    Introduces known (entry :: rest) i address ↔ Introduces known rest i address := by
  have hmem : ∀ j value, (j, address, value) ∈ entry :: rest ↔ (j, address, value) ∈ rest := by
    intro j value
    rw [List.mem_cons]
    exact or_iff_right fun h => hne (congrArg (·.2.1) h)
  constructor
  · rintro ⟨hnew, ⟨value, hoccurs⟩, hfirst⟩
    exact ⟨hnew, ⟨value, (hmem i value).mp hoccurs⟩,
      fun j v hv => hfirst j v ((hmem j v).mpr hv)⟩
  · rintro ⟨hnew, ⟨value, hoccurs⟩, hfirst⟩
    exact ⟨hnew, ⟨value, (hmem i value).mpr hoccurs⟩,
      fun j v hv => hfirst j v ((hmem j v).mp hv)⟩

/-- The address of an entry before all others is introduced there, if it is new. -/
theorem cons_of_eq (hlate : ∀ j, j ∈ rest.map Prod.fst → entry.1 < j) :
    Introduces known (entry :: rest) i entry.2.1 ↔ entry.2.1 ∉ known ∧ i = entry.1 := by
  constructor
  · rintro ⟨hnew, ⟨value, hoccurs⟩, hfirst⟩
    refine ⟨hnew, ?_⟩
    have hle := hfirst entry.1 entry.2.2 List.mem_cons_self
    rcases List.mem_cons.mp hoccurs with heq | hmem
    · exact congrArg Prod.fst heq
    · have hlt := hlate i (List.mem_map_of_mem (f := Prod.fst) hmem)
      omega
  · rintro ⟨hnew, rfl⟩
    refine ⟨hnew, ⟨entry.2.2, List.mem_cons_self⟩, ?_⟩
    intro j value hmem
    rcases List.mem_cons.mp hmem with heq | hmem
    · exact Nat.le_of_eq (congrArg Prod.fst heq).symm
    · exact Nat.le_of_lt (hlate j (List.mem_map_of_mem (f := Prod.fst) hmem))

theorem append_singleton {later : String} :
    Introduces (known ++ [later]) rest i address ↔
      address ≠ later ∧ Introduces known rest i address := by
  have hnew : address ∉ known ++ [later] ↔ address ≠ later ∧ address ∉ known := by
    rw [List.mem_append, List.mem_singleton, not_or, and_comm]
  constructor
  · rintro ⟨h, hoccurs, hfirst⟩
    exact ⟨(hnew.mp h).1, (hnew.mp h).2, hoccurs, hfirst⟩
  · rintro ⟨hne, h, hoccurs, hfirst⟩
    exact ⟨hnew.mpr ⟨hne, h⟩, hoccurs, hfirst⟩

end Introduces

/-- Setting numbered entries adds the addresses that they introduce, in their order. -/
theorem addresses_setAll :
    ∀ (given : List (Nat × String × Float)) (m : AddressMap),
      (given.map Prod.fst).Pairwise (· < ·) →
      ∃ added, (m.setAll (given.map Prod.snd)).addresses = m.addresses ++ added ∧
        Enumerates (Introduces m.addresses given) added := by
  intro given
  induction given with
  | nil =>
    intro m _
    refine ⟨[], (List.append_nil _).symm, .nil ?_⟩
    rintro i address ⟨_, ⟨value, hmem⟩, _⟩
    cases hmem
  | cons entry rest ih =>
    intro m hsorted
    obtain ⟨hlate, hrest⟩ := List.pairwise_cons.mp hsorted
    obtain ⟨added, hadded, henumerates⟩ := ih (m.set entry.2.1 entry.2.2) hrest
    have hset : m.setAll ((entry :: rest).map Prod.snd) =
        (m.set entry.2.1 entry.2.2).setAll (rest.map Prod.snd) := rfl
    rw [hset, hadded]
    rw [AddressMap.addresses_set] at henumerates ⊢
    by_cases hknown : entry.2.1 ∈ m.addresses
    · rw [if_pos hknown] at henumerates ⊢
      refine ⟨added, rfl, henumerates.congr ?_⟩
      intro i address
      by_cases heq : address = entry.2.1
      · exact iff_of_false (fun h => h.new (heq ▸ hknown)) (fun h => h.new (heq ▸ hknown))
      · exact Introduces.cons_of_ne heq
    · rw [if_neg hknown] at henumerates ⊢
      refine ⟨entry.2.1 :: added, List.append_assoc .., henumerates.cons (i := entry.1) ?_ ?_⟩
      · rintro j address ⟨_, ⟨value, hmem⟩, _⟩
        exact hlate j (List.mem_map_of_mem (f := Prod.fst) hmem)
      · intro j address
        rw [Introduces.append_singleton]
        by_cases heq : address = entry.2.1
        · subst heq
          rw [Introduces.cons_of_eq hlate]
          simp [hknown]
        · rw [Introduces.cons_of_ne heq]
          simp [heq]

/-- The parameters of a line with the positions of their words. -/
def parametersAt (found : List (Nat × Word)) : List (Nat × String × Float) :=
  (found.filter fun p => (Head.ofWord? p.2).isNone).map fun p =>
    (p.1, p.2.letter.toString, p.2.value)

theorem mem_parametersAt {found : List (Nat × Word)} {i : Nat} {address : String}
    {value : Float} :
    (i, address, value) ∈ parametersAt found ↔
      ∃ w, (i, w) ∈ found ∧ ¬ w.IsHead ∧ address = w.letter.toString ∧ value = w.value := by
  unfold parametersAt
  constructor
  · intro hmem
    obtain ⟨⟨j, w⟩, hw, heq⟩ := List.mem_map.mp hmem
    obtain ⟨hfound, hnone⟩ := List.mem_filter.mp hw
    cases heq
    exact ⟨w, hfound, Head.ofWord?_eq_none.mp (Option.isNone_iff_eq_none.mp hnone), rfl, rfl⟩
  · rintro ⟨w, hfound, hnot, rfl, rfl⟩
    refine List.mem_map.mpr ⟨(i, w), List.mem_filter.mpr ⟨hfound, ?_⟩, rfl⟩
    exact Option.isNone_iff_eq_none.mpr (Head.ofWord?_eq_none.mpr hnot)

section

variable {line : List Char} {found : List (Nat × Word)} {i : Nat} {w : Word}
  (number : Int) (source : String)

/-- The head of a command is that of the last word for a function. -/
theorem head_ofWords (hsorted : (found.map Prod.fst).Pairwise (· < ·))
    (hfound : ∀ i w, (i, w) ∈ found ↔ HoldsWord line i w)
    (h : IsLastWord line Word.IsHead i w) :
    Head.ofWord? w = some (Command.ofWords (found.map Prod.snd) number source).head := by
  obtain ⟨head, hhead, _⟩ := Head.exists_ofWord? h.fits
  have hlast : ((found.map Prod.snd).filterMap Head.ofWord?).getLast? = some head := by
    refine getLast?_filterMap_of_last hsorted ((hfound i w).mpr h.holds) hhead ?_
    intro j v hv hsome
    refine h.last j v ((hfound j v).mp hv) ?_
    apply Decidable.of_not_not
    intro hnot
    rw [Head.ofWord?_eq_none.mpr hnot] at hsome
    cases hsome
  simp only [Command.ofWords, hlast, Option.getD_some, hhead]

/-- Without a word for a function the command has no head of its own. -/
theorem modal_ofWords (hfound : ∀ i w, (i, w) ∈ found ↔ HoldsWord line i w)
    (h : ∀ i w, HoldsWord line i w → ¬ w.IsHead) :
    (Command.ofWords (found.map Prod.snd) number source).head = .modal := by
  have hnone : (found.map Prod.snd).filterMap Head.ofWord? = [] := by
    rw [List.filterMap_eq_nil_iff]
    intro w hw
    obtain ⟨⟨i, w'⟩, hmem, rfl⟩ := List.mem_map.mp hw
    exact Head.ofWord?_eq_none.mpr (h i w' ((hfound i w').mp hmem))
  simp only [Command.ofWords, hnone]
  rfl

/-- A parameter has the number of the last word with its letter. -/
theorem get?_params_ofWords (hsorted : (found.map Prod.fst).Pairwise (· < ·))
    (hfound : ∀ i w, (i, w) ∈ found ↔ HoldsWord line i w) (hnot : ¬ w.IsHead)
    (h : IsLastWord line (fun v => v.letter = w.letter) i w) :
    (Command.ofWords (found.map Prod.snd) number source).params.get? w.letter.toString =
      some w.value := by
  simp only [Command.ofWords]
  rw [AddressMap.get?_ofList, List.filterMap_map, List.filterMap_filter]
  refine getLast?_filterMap_of_last hsorted ((hfound i w).mpr h.holds) ?_ ?_
  · rw [Head.ofWord?_eq_none.mpr hnot]
    simp
  · intro j v hv hsome
    refine h.last j v ((hfound j v).mp hv) ?_
    apply Decidable.of_not_not
    intro hletter
    simp [hletter] at hsome

/-- The addresses of the parameters are those that the line introduces, in its order. -/
theorem addresses_params_ofWords (hsorted : (found.map Prod.fst).Pairwise (· < ·))
    (hfound : ∀ i w, (i, w) ∈ found ↔ HoldsWord line i w) :
    Enumerates (IntroducesAddress line)
      (Command.ofWords (found.map Prod.snd) number source).params.addresses := by
  have hpositions : ((parametersAt found).map Prod.fst).Pairwise (· < ·) := by
    unfold parametersAt
    rw [List.map_map, List.pairwise_map]
    exact (List.pairwise_map.mp hsorted).sublist List.filter_sublist
  have hentries : (parametersAt found).map Prod.snd =
      ((found.map Prod.snd).filter fun w => (Head.ofWord? w).isNone).map
        fun w => (w.letter.toString, w.value) := by
    unfold parametersAt
    rw [List.filter_map, List.map_map, List.map_map]
    rfl
  obtain ⟨added, hadded, henumerates⟩ := addresses_setAll (parametersAt found) ⟨[]⟩ hpositions
  rw [hentries] at hadded
  have haddresses : (Command.ofWords (found.map Prod.snd) number source).params.addresses =
      added := hadded
  rw [haddresses]
  refine henumerates.congr ?_
  intro i address
  constructor
  · rintro ⟨w, hnot, rfl, h⟩
    refine ⟨List.not_mem_nil, ⟨w.value, ?_⟩, ?_⟩
    · exact mem_parametersAt.mpr ⟨w, (hfound i w).mpr h.holds, hnot, rfl, rfl⟩
    · intro j value hmem
      obtain ⟨v, hv, _, hletter, _⟩ := mem_parametersAt.mp hmem
      exact h.first j v ((hfound j v).mp hv) (String.singleton_inj.mp hletter).symm
  · rintro ⟨_, ⟨value, hmem⟩, hfirst⟩
    obtain ⟨w, hw, hnot, rfl, _⟩ := mem_parametersAt.mp hmem
    refine ⟨w, hnot, rfl, (hfound i w).mp hw, rfl, ?_⟩
    intro j v hv hletter
    have hnot' : ¬ v.IsHead := by
      unfold Word.IsHead
      rw [hletter]
      exact hnot
    exact hfirst j v.value
      (mem_parametersAt.mpr ⟨v, (hfound j v).mpr hv, hnot', by rw [hletter], rfl⟩)

end

/-- The command of a line is the one that its words ask for. -/
theorem isAskedBy_ofWords (line : List Char) (number : Int) (source : String) :
    (Command.ofWords (words line) number source).IsAskedBy line := by
  obtain ⟨found, hwords, hsorted, hfound⟩ := words_enumerates line
  rw [← hwords]
  exact
    { head := by
        intro i w h
        obtain ⟨head, hhead, hkind, hcode⟩ := Head.exists_ofWord? h.fits
        cases hhead.symm.trans (head_ofWords number source hsorted hfound h)
        exact ⟨hkind, hcode⟩
      modal := modal_ofWords number source hfound
      value := fun _ _ => get?_params_ofWords number source hsorted hfound
      addresses := addresses_params_ofWords number source hsorted hfound }

theorem words_eq_nil_iff {line : List Char} :
    words line = [] ↔ ∀ i w, ¬ HoldsWord line i w := by
  obtain ⟨found, hwords, _, hfound⟩ := words_enumerates line
  rw [← hwords, List.map_eq_nil_iff]
  constructor
  · rintro rfl i w h
    cases (hfound i w).mpr h
  · intro h
    rw [List.eq_nil_iff_forall_not_mem]
    rintro ⟨i, w⟩ hmem
    exact h i w ((hfound i w).mp hmem)

/-- Reading a line gives the words that its positions hold, each letter that is followed by
a numeral with the longest one, and no others.  The number of a word is that of its numeral
as a text by itself.  Reading gives no command just where there is no such word, and
elsewhere the command that they ask for. -/
theorem ofLine_follows_word_grammar (line : List Char) (number : Int) (source : String) :
    Enumerates (HoldsWord line) (words line) ∧
    (∀ i w, HoldsWord line i w → readFloat? (String.ofList w.numeral.text) = some w.value) ∧
    ((Command.ofLine line number source).1 = none ↔ ∀ i w, ¬ HoldsWord line i w) ∧
    ∀ c, (Command.ofLine line number source).1 = some c →
      c.IsAskedBy line ∧ c.line = number ∧
        c.source = if source.isEmpty then String.ofList line else source := by
  refine ⟨words_enumerates line, fun _ _ h => h.readFloat?, ?_, ?_⟩
  · rw [← words_eq_nil_iff]
    unfold Command.ofLine
    split
    · rename_i hnil
      exact iff_of_true rfl hnil
    · rename_i hsome
      exact iff_of_false (fun h => nomatch h) hsome
  · intro c hc
    unfold Command.ofLine at hc
    split at hc
    · cases hc
    · cases hc
      exact ⟨isAskedBy_ofWords line number _, rfl, rfl⟩

example : (words "N10G01X5..7Y-.5Z+XY2.T".toList).map Word.text =
    ["N10", "G01", "X5", "Y-.5", "Y2"] := by decide +kernel

end Machining.Program
