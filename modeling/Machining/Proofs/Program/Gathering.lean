import Machining.Fault
import Machining.Proofs.Number.Conversion
import Machining.Proofs.Program.WordGrammar
import Machining.Program.Reading
set_option autoImplicit false

/-!
# Reading word by word

A line can also be read as its words come: each is converted by the rule for number texts,
which refuses most texts, and a function that is superseded is reported on the way, for
which it has to have a code.  So every step of this reading can fail, and a failure makes
an issue of the line.  No step does fail, and reading word by word gives what reading the
words together gives: the same command and the same records in the same order.
-/

namespace Machining.Program

open Machining.Text

/-! ## Words that may be refused -/

/-- Why a word cannot be taken. -/
inductive WordFault where
  /-- What follows the letter is no number. -/
  | malformedNumber (given : String)
  /-- The function that the word supersedes has no code to report. -/
  | missingCode
  deriving DecidableEq, Repr, Inhabited

/-- The wording in the issue of the line. -/
def WordFault.message : WordFault → String
  | .malformedNumber given => (Fault.malformedFloat given).message
  | .missingCode => "unsupported format string passed to NoneType.__format__"

namespace Word

/-- The kind of command that the word asks for, if it asks for one. -/
def kind? (w : Word) : Option CommandKind :=
  if w.letter = 'G' then some .g
  else if w.letter = 'M' then some .m
  else if w.letter = 'T' then some .t
  else none

/-- The number of the word, converted from its text. -/
def number (w : Word) : Except WordFault Float :=
  match readFloat? (String.ofList w.numeral.text) with
  | some x => .ok x
  | none => .error (.malformedNumber (String.ofList w.numeral.text))

end Word

/-- What the words of a line have given so far. -/
structure Gathered where
  kind? : Option CommandKind := none
  code? : Option Float := none
  params : AddressMap := {}
  log : Log := []
  deriving DecidableEq, Repr, Inhabited

namespace Gathered

/-- What is reported when a word for a function supersedes an earlier one. -/
def supersede (number : Int) (g : Gathered) (w : Word) : Except WordFault Log :=
  match g.kind?, g.code? with
  | none, _ => .ok []
  | some _, none => .error .missingCode
  | some kind, some code =>
    .ok [⟨.debug, .reading, s!"Line {number}: " ++ (kind.name ++ Number.general 10 code)
      ++ " superseded by " ++ w.text⟩]

/-- Takes one word; what was gathered until the fault, and the fault if there is one. -/
def take (number : Int) (g : Gathered) (w : Word) : Gathered × Option WordFault :=
  match w.kind? with
  | some kind =>
    match g.supersede number w with
    | .error fault => (g, some fault)
    | .ok records =>
      let g := { g with log := g.log ++ records, kind? := some kind }
      match w.number with
      | .error fault => (g, some fault)
      | .ok code => ({ g with code? := some code }, none)
  | none =>
    match w.number with
    | .error fault => (g, some fault)
    | .ok value => ({ g with params := g.params.set w.letter.toString value }, none)

/-- Takes the words one by one up to the first that cannot be taken. -/
def takeAll (number : Int) : Gathered → List Word → Gathered × Option WordFault
  | g, [] => (g, none)
  | g, w :: rest =>
    match g.take number w with
    | (g, none) => takeAll number g rest
    | (g, some fault) => (g, some fault)

/-- What the command asks for, by its kind and its code. -/
def head (g : Gathered) : Head :=
  match g.kind?, g.code? with
  | some .g, some code => .g code
  | some .m, some code => .m code
  | some .t, some code => .t code
  | _, _ => .modal

end Gathered

/-- The command of a cleaned line when the words are taken one by one, what there is to
report about it, and the fault that ended the line if there was one. -/
def Command.ofLineByWords (line : List Char) (number : Int) (source : String) :
    Option Command × Log × Option WordFault :=
  match words line with
  | [] => (none, [], none)
  | found =>
    match Gathered.takeAll number {} found with
    | (g, some fault) => (none, g.log, some fault)
    | (g, none) =>
      (some
        { head := g.head
          params := g.params
          line := number
          source := if source.isEmpty then String.ofList line else source }, g.log, none)

/-- What the line with this number gives when it is read word by word. -/
def readLineByWords (check : LineCheck) (number : Nat) (raw : List Char) : LineReading :=
  let refused (log : Log) (reason : String) : LineReading :=
    { issue? := some ⟨number, reason, String.ofList raw⟩
      log := log ++ [⟨.warning, .reading, s!"Line {number}: parse error - {reason}"⟩] }
  match lineContent raw with
  | [] => {}
  | line =>
    match check number with
    | some reason => refused [] reason
    | none =>
      match Command.ofLineByWords line number (String.ofList (trim raw)) with
      | (_, log, some fault) => refused log fault.message
      | (command?, log, none) => { command? := command?, log := log }

/-- Reads a program word by word. -/
def readTextByWords (text : String) (check : LineCheck := acceptAll) : Reading × Log :=
  let lines := ((splitLines text.toList).zipIdx 1).map fun (raw, number) =>
    readLineByWords check number raw
  let reading : Reading :=
    { commands := lines.filterMap (·.command?)
      issues := lines.filterMap (·.issue?)
      lineCount := lines.length }
  (reading, lines.flatMap (·.log) ++ [reading.summary])

/-! ## No word is refused -/

/-- A numeral that follows a letter is a number text. -/
theorem Word.number_of_isWritten {w : Word} (h : w.numeral.IsWritten) :
    w.number = .ok w.value := by
  unfold Word.number
  rw [h.readFloat?]
  rfl

/-- Every word of a line has a numeral of the grammar. -/
theorem isWritten_of_mem_words {line : List Char} {w : Word} (h : w ∈ words line) :
    w.numeral.IsWritten := by
  obtain ⟨i, hholds⟩ := exists_holdsWord h
  exact hholds.numeral.written

theorem Word.kind?_eq (w : Word) : w.kind? = (Head.ofWord? w).map Head.kind := by
  unfold Word.kind? Head.ofWord?
  split
  · rfl
  · split
    · rfl
    · split <;> rfl

/-! ## Words taken one after the other -/

/-- The words for functions, with what they ask for. -/
def headWords (found : List Word) : List (Head × Word) :=
  found.filterMap fun w => (Head.ofWord? w).map fun head => (head, w)

/-- The record of a function that a later word supersedes. -/
def supersession (number : Int) (earlier : Head) (later : Word) : LogRecord :=
  ⟨.debug, .reading, s!"Line {number}: " ++ earlier.text ++ " superseded by " ++ later.text⟩

theorem ofWord?_of_mem_headWords {found : List Word} {p : Head × Word} (h : p ∈ headWords found) :
    Head.ofWord? p.2 = some p.1 := by
  obtain ⟨w, _, hw⟩ := List.mem_filterMap.mp h
  obtain ⟨head, hhead, rfl⟩ := Option.map_eq_some_iff.mp hw
  exact hhead

theorem headWords_append_singleton (found : List Word) (w : Word) :
    headWords (found ++ [w]) =
      headWords found ++ ((Head.ofWord? w).map fun head => (head, w)).toList := by
  unfold headWords
  rw [List.filterMap_append, List.filterMap_cons]
  cases Head.ofWord? w <;> rfl

/-- The pairs of neighbours of a longer list. -/
theorem zip_tail_append_singleton {α : Type} (x : α) : ∀ xs : List α,
    (xs ++ [x]).zip (xs ++ [x]).tail =
      xs.zip xs.tail ++ xs.getLast?.toList.map fun y => (y, x)
  | [] => rfl
  | [y] => rfl
  | y :: z :: rest => by
    have ih := zip_tail_append_singleton x (z :: rest)
    simp only [List.cons_append, List.tail_cons, List.zip_cons_cons, List.getLast?_cons_cons]
      at ih ⊢
    rw [ih]

theorem supersededHeads_eq (found : List Word) (number : Int) :
    Command.supersededHeads found number =
      ((headWords found).zip (headWords found).tail).map
        fun p => supersession number p.1.1 p.2.2 :=
  rfl

theorem supersededHeads_append_singleton (found : List Word) (number : Int) {w : Word}
    {head : Head} (h : Head.ofWord? w = some head) :
    Command.supersededHeads (found ++ [w]) number =
      Command.supersededHeads found number ++
        (headWords found).getLast?.toList.map fun earlier => supersession number earlier.1 w := by
  rw [supersededHeads_eq, supersededHeads_eq, headWords_append_singleton, h, Option.map_some,
    Option.toList_some, zip_tail_append_singleton, List.map_append, List.map_map]
  rfl

namespace Gathered

/-- What a row of words gives, taken together. -/
def ofWords (number : Int) (found : List Word) : Gathered :=
  { kind? := (headWords found).getLast?.map (·.1.kind)
    code? := (headWords found).getLast?.bind (·.1.code?)
    params := (Command.ofWords found number "").params
    log := Command.supersededHeads found number }

variable (number : Int) (found : List Word) {w : Word}

/-- The function that was gathered last has a code, so it can be reported. -/
theorem supersede_ofWords (w : Word) :
    (ofWords number found).supersede number w =
      .ok ((headWords found).getLast?.toList.map
        fun earlier => supersession number earlier.1 w) := by
  unfold supersede ofWords
  cases hlast : (headWords found).getLast? with
  | none => rfl
  | some earlier =>
    have hcode := Head.code?_of_ofWord? (ofWord?_of_mem_headWords (List.mem_of_getLast? hlast))
    simp only [Option.map_some, Option.bind_some, hcode]
    simp [supersession, Head.text, hcode]

/-- A word for a function supersedes what came before it and leaves the parameters. -/
theorem ofWords_append_head {head : Head} (hhead : Head.ofWord? w = some head) :
    ofWords number (found ++ [w]) =
      { ofWords number found with
        kind? := some head.kind
        code? := some w.value
        log := (ofWords number found).log ++ (headWords found).getLast?.toList.map
          fun earlier => supersession number earlier.1 w } := by
  have hlast : (headWords (found ++ [w])).getLast? = some (head, w) := by
    rw [headWords_append_singleton, hhead]
    exact List.getLast?_concat
  unfold ofWords
  rw [hlast, supersededHeads_append_singleton found number hhead, Option.bind_some,
    Head.code?_of_ofWord? hhead]
  simp [Command.ofWords, hhead]

/-- A word for a parameter sets it and leaves the rest. -/
theorem ofWords_append_parameter (hhead : Head.ofWord? w = none) :
    ofWords number (found ++ [w]) =
      { ofWords number found with
        params := (ofWords number found).params.set w.letter.toString w.value } := by
  have hheads : headWords (found ++ [w]) = headWords found := by
    rw [headWords_append_singleton, hhead]
    exact List.append_nil _
  unfold ofWords
  rw [hheads, supersededHeads_eq, hheads]
  simp [Command.ofWords, hhead, AddressMap.ofList, AddressMap.setAll, supersededHeads_eq]

/-- One word more. -/
theorem take_ofWords (hwritten : w.numeral.IsWritten) :
    (ofWords number found).take number w = (ofWords number (found ++ [w]), none) := by
  unfold take
  rw [Word.kind?_eq, supersede_ofWords, Word.number_of_isWritten hwritten]
  cases hhead : Head.ofWord? w with
  | none => rw [ofWords_append_parameter number found hhead]; rfl
  | some head => rw [ofWords_append_head number found hhead]; rfl

/-- Words of the grammar are all taken, and together they give what they give one by one. -/
theorem takeAll_ofWords : ∀ later found : List Word, (∀ w ∈ later, w.numeral.IsWritten) →
    takeAll number (ofWords number found) later = (ofWords number (found ++ later), none) := by
  intro later
  induction later with
  | nil =>
    intro found _
    rw [takeAll, List.append_nil]
  | cons w rest ih =>
    intro found hwritten
    rw [takeAll, take_ofWords number found (hwritten w List.mem_cons_self)]
    have hrest := ih (found ++ [w]) fun v hv => hwritten v (List.mem_cons_of_mem _ hv)
    rw [List.append_assoc] at hrest
    exact hrest

/-- The head of a row of words is that of the last word for a function. -/
theorem head_ofWords (source : String) :
    (ofWords number found).head = (Command.ofWords found number source).head := by
  have hheads : found.filterMap Head.ofWord? = (headWords found).map Prod.fst := by
    unfold headWords
    rw [List.map_filterMap]
    congr
    funext w
    cases Head.ofWord? w <;> rfl
  unfold head ofWords Command.ofWords
  dsimp only
  rw [hheads, List.getLast?_map]
  cases hlast : (headWords found).getLast? with
  | none => rfl
  | some p =>
    obtain ⟨head, w⟩ := p
    have hcode := Head.code?_of_ofWord? (ofWord?_of_mem_headWords (List.mem_of_getLast? hlast))
    cases head with
    | modal => cases hcode
    | _ => rfl

end Gathered

/-- The command of a line is the one that its words give one by one, and none of them is
refused. -/
theorem Command.ofLineByWords_eq (line : List Char) (number : Int) (source : String) :
    Command.ofLineByWords line number source =
      ((Command.ofLine line number source).1, (Command.ofLine line number source).2, none) := by
  have htaken := Gathered.takeAll_ofWords number (words line) []
    fun w hw => isWritten_of_mem_words hw
  unfold Command.ofLineByWords Command.ofLine
  generalize words line = found at htaken
  cases found with
  | nil => rfl
  | cons w rest =>
    have hempty : Gathered.ofWords number [] = {} := rfl
    rw [hempty, List.nil_append] at htaken
    dsimp only
    rw [htaken]
    dsimp only
    rw [Gathered.head_ofWords number (w :: rest) source]
    rfl

/-- Reading a line word by word gives what reading its words together gives. -/
theorem readLineByWords_eq (check : LineCheck) (number : Nat) (raw : List Char) :
    readLineByWords check number raw = readLine check number raw := by
  unfold readLineByWords readLine
  simp only [Command.ofLineByWords_eq]
  rfl

theorem readTextByWords_eq (text : String) (check : LineCheck) :
    readTextByWords text check = readText text check := by
  unfold readTextByWords readText readLines
  simp only [readLineByWords_eq]

end Machining.Program
