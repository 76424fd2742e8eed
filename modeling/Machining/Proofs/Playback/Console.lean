import Machining.Proofs.Execution.Composition
import Machining.Proofs.Number.Order
import Machining.Proofs.Playback.Notices
import Machining.Proofs.Program.LineOrder
set_option autoImplicit false

/-!
# Loading again

One reader and one executor serve all loads of a session, and both go on holding what
their last use left.  A load empties them before it uses them, and replaces whatever the
session holds of a program.  So what a load gives is a matter of the text and of what is
attached, and not of anything that was loaded or played before.
-/

namespace Machining.Program.Reading

/-- Empties the reader. -/
def reset (r : Reading) : Reading := { r with commands := [], issues := [], lineCount := 0 }

/-- Takes up what the next line gives. -/
def take (check : LineCheck) (held : Reading × Log) (line : List Char × Nat) :
    Reading × Log :=
  let (r, log) := held
  let (raw, number) := line
  let given := readLine check number raw
  ({ commands := r.commands ++ given.command?.toList
     issues := r.issues ++ given.issue?.toList
     lineCount := number }, log ++ given.log)

/-- Reads a text, line after line, with a reader that was used before. -/
def reread (r : Reading) (text : String) (check : LineCheck) : Reading × Log :=
  let (read, log) := (numberedLines text).foldl (take check) (r.reset, [])
  (read, log ++ [read.summary])

/-- Lines that are taken up add to what is held. -/
theorem foldl_take (check : LineCheck) :
    ∀ (lines : List (List Char)) (r : Reading) (log : Log),
      (lines.zipIdx (r.lineCount + 1)).foldl (take check) (r, log) =
        let given := (lines.zipIdx (r.lineCount + 1)).map fun (raw, number) =>
          readLine check number raw
        ({ commands := r.commands ++ given.filterMap (·.command?)
           issues := r.issues ++ given.filterMap (·.issue?)
           lineCount := r.lineCount + given.length }, log ++ given.flatMap (·.log)) := by
  intro lines
  induction lines with
  | nil => intro r log; simp
  | cons raw rest ih =>
    intro r log
    rw [List.zipIdx_cons, List.foldl_cons]
    refine (ih _ _).trans ?_
    simp only [List.map_cons, List.filterMap_cons, List.length_cons, List.flatMap_cons,
      List.append_assoc]
    cases (readLine check (r.lineCount + 1) raw).command? <;>
      cases (readLine check (r.lineCount + 1) raw).issue? <;>
        simp [Nat.add_assoc, Nat.add_comm 1]

/-- A reader that was used before reads like a new one. -/
theorem reread_eq (r : Reading) (text : String) (check : LineCheck) :
    r.reread text check = readText text check := by
  have hread := foldl_take check (splitLines text.toList) r.reset []
  unfold reread numberedLines readText readLines
  simp only [reset, Nat.zero_add, List.nil_append] at hread ⊢
  rw [hread]

end Machining.Program.Reading

namespace Machining.Execution.Run

open Machining.Program

/-- Puts the executor back at its start. -/
def reset (r : Run) : Run :=
  { r with state := {}, toolpath := [], directives := [], issues := [] }

/-- Takes up what the next command does, after the segments that are there. -/
def take (r : Run) (c : Command) : Run :=
  let next := step r.toolpath.length r.state c
  { state := next.state
    toolpath := r.toolpath ++ next.segment?.toList
    directives := r.directives ++ next.directive?.toList
    issues := r.issues ++ next.issues c
    log := r.log ++ next.fullLog c }

/-- Executes commands, one after the other, in the state that is held. -/
def execute (r : Run) (commands : List Command) : Run :=
  let executed := commands.foldl take
    { r with toolpath := [], directives := [], issues := [], log := [] }
  { executed with log := executed.log ++ [note .debug
      (s!"Interpreted {commands.length} commands into {executed.toolpath.length} segments "
        ++ s!"({executed.issues.length} errors)")] }

/-- Commands that are taken up add to what is held. -/
theorem foldl_take : ∀ (commands : List Command) (r : Run),
    commands.foldl take r =
      let later := runFrom r.toolpath.length r.state commands
      { state := later.state
        toolpath := r.toolpath ++ later.toolpath
        directives := r.directives ++ later.directives
        issues := r.issues ++ later.issues
        log := r.log ++ later.log } := by
  intro commands
  induction commands with
  | nil => intro r; simp [runFrom]
  | cons c rest ih =>
    intro r
    rw [List.foldl_cons, ih]
    simp only [take, runFrom, List.length_append, List.append_assoc]

theorem execute_eq (r : Run) (commands : List Command) :
    r.execute commands = run r.state commands := by
  unfold execute run
  simp only [foldl_take, List.length_nil, List.nil_append]

/-- An executor that was used before executes like a new one. -/
theorem reset_execute_eq (r : Run) (commands : List Command) :
    r.reset.execute commands = run {} commands :=
  execute_eq _ _

end Machining.Execution.Run

namespace Machining.Playback

open Machining.Execution
open Machining.Geometry
open Machining.Machine
open Machining.Program
open Machining.Toolpath

/-! ## Consoles -/

/-- A session with the reader and the executor that serve its loads. -/
structure Console where
  session : Session := {}
  reader : Reading := {}
  executor : Run := { state := {} }
  deriving DecidableEq, Repr, Inhabited

namespace Console

/-- What an operation of a console gives. -/
structure Result (α : Type) where
  console : Console
  answer : α
  journal : Journal := []
  deriving Repr

/-- The result as its session has it. -/
def Result.turn {α : Type} (r : Result α) : Turn α := ⟨r.console.session, r.answer, r.journal⟩

/-- Loads a text with the reader and the executor at hand. -/
def load (c : Console) (settings : Settings) (text : String) (check : LineCheck) :
    Result (Except Fault Loading) :=
  let (reader, log) := c.reader.reread text check
  if reader.success then
    let findings := review settings.largeCoordinate reader.commands
    let tally := Tally.ofCommands reader.commands
    let executor := c.executor.reset.execute reader.commands
    let installed := c.session.install settings
      { commands := reader.commands
        toolpath := executor.toolpath
        directives := executor.directives
        tally := tally
        findings := findings
        issues := executor.issues }
    { console := ⟨installed.session, reader, executor⟩
      answer := installed.answer
      journal := Journal.ofLog log ++ (Session.reviewJournal findings tally ++
        Journal.ofLog executor.log) ++ installed.journal }
  else
    { console := { c with reader := reader }
      answer := .ok (.rejected reader.issues)
      journal := Journal.ofLog log ++
        [Session.note .error (Session.rejectionText reader.issues)] }

/-- Carries out one operation; loads alone use the reader and the executor. -/
def operate (settings : Settings) (c : Console) : Operation → Result Answer
  | .load text check =>
    let loaded := c.load settings text check
    ⟨loaded.console, .loading loaded.answer, loaded.journal⟩
  | .loadSample name =>
    let loaded := c.load settings (Sample.text name) acceptAll
    ⟨loaded.console, .loading loaded.answer, loaded.journal⟩
  | op =>
    let turn := c.session.operate settings op
    ⟨{ c with session := turn.session }, turn.answer, turn.journal⟩

/-- Carries out operations one after the other. -/
def operateAll (settings : Settings) : List Operation → Console → Result (List Answer)
  | [], c => ⟨c, [], []⟩
  | op :: rest, c =>
    let first := c.operate settings op
    let later := operateAll settings rest first.console
    ⟨later.console, first.answer :: later.answer, first.journal ++ later.journal⟩

/-! ## Consoles and sessions -/

section

variable (settings : Settings) (c : Console)

/-- A load leaves in reader and executor what this load had them do, and is otherwise the
load of the session. -/
theorem load_eq (text : String) (check : LineCheck) :
    c.load settings text check =
      let turn := c.session.load settings text check
      let reader := (readText text check).1
      { console :=
          ⟨turn.session, reader,
            if reader.success then run {} reader.commands else c.executor⟩
        answer := turn.answer
        journal := turn.journal } := by
  unfold load Session.load Session.prepare
  simp only [Reading.reread_eq, Run.reset_execute_eq]
  split <;> rfl

/-- For its session, a console does what the session does by itself. -/
theorem operate_turn (op : Operation) :
    (c.operate settings op).turn = c.session.operate settings op := by
  cases op with
  | load text check => simp only [operate, load_eq]; rfl
  | loadSample name => simp only [operate, load_eq]; rfl
  | _ => rfl

theorem operateAll_turn : ∀ (ops : List Operation) (c : Console),
    (c.operateAll settings ops).turn = c.session.operateAll settings ops := by
  intro ops
  induction ops with
  | nil => intro c; rfl
  | cons op rest ih =>
    intro c
    have hfirst := operate_turn settings c op
    have hlater := ih (c.operate settings op).console
    unfold Session.operateAll
    rw [← hfirst]
    dsimp only [Result.turn] at hlater ⊢
    rw [← hlater]
    rfl

end

end Console

/-! ## What operations keep -/

/-- What is attached to a session, and its speed. -/
structure Setup where
  machine : Attachment
  renderer : Renderer
  speed : Float
  deriving DecidableEq, Repr, Inhabited

/-- Calls leave such a machine as it is. -/
def isPassive : Attachment → Bool
  | .simulated _ => false
  | _ => true

theorem performFrom_passive {m : Attachment} (hm : isPassive m = true) :
    ∀ (cues : List Cue) (reached : AddressMap), (performFrom m reached cues).machine = m := by
  cases m with
  | simulated simulation => cases hm
  | recorder hasToolChanger => exact performFrom_machine
  | absent =>
    intro cues
    induction cues with
    | nil => intro reached; rfl
    | cons cue rest ih =>
      intro reached
      cases cue with
      | note record => exact ih reached
      | call call => exact ih reached

namespace Session

variable {s : Session}

/-- What is attached to the session, and its speed. -/
def setup (s : Session) : Setup := ⟨s.machine, s.renderer, s.speed⟩

theorem stop_setup (hm : isPassive s.machine = true) : s.stop.session.setup = s.setup := by
  unfold stop
  split
  · rfl
  · simp only [setup, stopMachine, performCues, performFrom_passive hm]

theorem forward_setup (hm : isPassive s.machine = true) :
    s.forward.session.setup = s.setup := by
  have hplay : ∀ g, (s.schedule.play s.machine s.cursor g).1.machine = s.machine :=
    fun g => performFrom_passive hm _ _
  have hfinish : (s.schedule.finish s.machine).machine = s.machine :=
    performFrom_passive hm _ _
  unfold forward
  split
  · rfl
  · split
    · unfold playCurrent
      dsimp only
      split <;> simp only [setup, hplay]
    · simp only [endProgram, hfinish]
      exact stop_setup hm

theorem spend_setup : ∀ (durations : List Float) {s : Session},
    isPassive s.machine = true → (spend durations s).session.setup = s.setup := by
  intro durations
  induction durations with
  | nil => intro s hm; exact forward_setup hm
  | cons duration rest ih =>
    intro s hm
    have hforward := forward_setup (s := { s with elapsed := s.elapsed - duration }) hm
    have hnext : isPassive
        ({ s with elapsed := s.elapsed - duration } : Session).forward.session.machine =
          true :=
      (congrArg (isPassive ·.machine) hforward).trans hm
    unfold spend
    split
    · rfl
    · dsimp only
      split
      · exact hforward
      · split
        · exact (ih hnext).trans hforward
        · exact hforward

/-- Whatever comes of a load, what is attached and the speed stay. -/
theorem load_setup (s : Session) (settings : Settings) (text : String) (check : LineCheck) :
    (s.load settings text check).session.setup = s.setup := by
  cases load_loads settings s text check with
  | rejected refused answer session events => rw [session]
  | accepted durations read sound times answer session events => rw [session]; rfl
  | failed read unsound answer session events => rw [session]; rfl

/-- Only an operation that sets the speed changes what is attached or the speed. -/
theorem operate_setup (settings : Settings) (hm : isPassive s.machine = true)
    (op : Operation) :
    (s.operate settings op).session.setup =
      match op with
      | .setSpeed speed =>
        { s.setup with speed := Number.clip minimumSpeed maximumSpeed speed }
      | _ => s.setup := by
  cases op with
  | load text check => exact load_setup s settings text check
  | loadSample name => exact load_setup s settings _ acceptAll
  | start => simp only [operate, Turn.map, start]; split <;> rfl
  | pause => simp only [operate, Turn.map, pause]; split <;> rfl
  | resume => simp only [operate, Turn.map, resume]; split <;> rfl
  | stop => exact stop_setup hm
  | forward => exact forward_setup hm
  | backward => simp only [operate, Turn.map, backward]; split <;> rfl
  | advance seconds =>
    simp only [operate, Turn.map, advance]
    split
    · exact spend_setup _ hm
    · rfl
  | setSpeed speed => rfl
  | setVisibility visible => rfl

end Session

/-- The session is one that a machine and a renderer were attached to when it was new, at
a speed that stays when it is set again. -/
structure IsAttached (m : Attachment) (r : Renderer) (s : Session) : Prop where
  machine : s.machine = m
  renderer : s.renderer = r
  speed : Number.clip minimumSpeed maximumSpeed s.speed = s.speed

/-- A speed that was set stays when it is set again, even if it is "not a number". -/
theorem clip_speed_clip (speed : Float) :
    Number.clip minimumSpeed maximumSpeed (Number.clip minimumSpeed maximumSpeed speed) =
      Number.clip minimumSpeed maximumSpeed speed :=
  Number.clip_clip (by decide) (by decide) (by decide) speed

namespace IsAttached

variable {m : Attachment} {r : Renderer} {s t : Session}

theorem of_setup (h : IsAttached m r s) (hsetup : t.setup = s.setup) : IsAttached m r t where
  machine := (congrArg Setup.machine hsetup).trans h.machine
  renderer := (congrArg Setup.renderer hsetup).trans h.renderer
  speed := by
    have hspeed : t.speed = s.speed := congrArg Setup.speed hsetup
    rw [hspeed]
    exact h.speed

theorem new (m : Attachment) (r : Renderer) :
    IsAttached m r { machine := m, renderer := r } where
  machine := rfl
  renderer := rfl
  speed := by
    have hinitial : Number.clip minimumSpeed maximumSpeed 1.0 = 1.0 := by decide
    exact hinitial

theorem operate (h : IsAttached m r s) (hm : isPassive m = true) (settings : Settings)
    (op : Operation) : IsAttached m r (s.operate settings op).session := by
  have hsetup := Session.operate_setup settings (h.machine.symm ▸ hm) op
  cases op with
  | setSpeed speed => exact ⟨h.machine, h.renderer, clip_speed_clip speed⟩
  | _ => exact h.of_setup hsetup

theorem operateAll (hm : isPassive m = true) (settings : Settings) :
    ∀ (ops : List Operation) {s : Session}, IsAttached m r s →
      IsAttached m r (s.operateAll settings ops).session := by
  intro ops
  induction ops with
  | nil => intro s h; exact h
  | cons op rest ih => intro s h; exact ih (h.operate hm settings op)

end IsAttached

/-! ## Independence of history -/

section

variable (settings : Settings) (s t : Session) (text : String) (check : LineCheck)

/-- What a load answers is a matter of the text. -/
theorem load_answer_congr :
    (s.load settings text check).answer = (t.load settings text check).answer := by
  unfold Session.load
  dsimp only
  split
  · unfold Session.install
    dsimp only
    split <;> rfl
  · rfl

/-- An accepted load replaces all but what is attached and the speed. -/
theorem load_congr (hsetup : s.setup = t.setup) {job : Job}
    (haccepted : (s.load settings text check).answer = .ok (.accepted job)) :
    s.load settings text check = t.load settings text check := by
  obtain ⟨machine, renderer, _, _, _, _, _, _, speed⟩ := s
  obtain ⟨_, _, _, _, _, _, _, _, _⟩ := t
  cases hsetup
  unfold Session.load at haccepted ⊢
  dsimp only at haccepted ⊢
  split at haccepted
  · rename_i hread
    rw [if_pos hread, if_pos hread]
    unfold Session.install at haccepted ⊢
    dsimp only at haccepted ⊢
    split at haccepted
    · cases haccepted
    · rfl
  · cases haccepted

end

/-- An accepted load replaces all that a console holds of a program. -/
theorem Console.load_congr {settings : Settings} {c d : Console} {text : String}
    {check : LineCheck} {job : Job} (hsetup : c.session.setup = d.session.setup)
    (haccepted : (c.load settings text check).answer = .ok (.accepted job)) :
    c.load settings text check = d.load settings text check := by
  rw [Console.load_eq] at haccepted ⊢
  have hread : (readText text check).1.success = true := by
    cases load_loads settings c.session text check with
    | rejected refused answer => cases answer.symm.trans haccepted
    | accepted durations read => exact read
    | failed read => exact read
  rw [Console.load_eq, Playback.load_congr settings _ _ text check hsetup haccepted]
  simp only [hread, if_true]

/-- Whatever a console has been through, a load answers what it answers on a new one.  If
the load is accepted, and the attached machine is none that changes when it is called,
then from the load on everything is as on a new console that was set to the same speed:
what it holds, and what comes of all later operations. -/
theorem load_independent_of_history (settings : Settings) (machine : Attachment)
    (renderer : Renderer) (earlier : List Operation) (text : String) (check : LineCheck) :
    let new : Console := { session := { machine := machine, renderer := renderer } }
    let used := (new.operateAll settings earlier).console
    (used.load settings text check).answer = (new.load settings text check).answer ∧
    ∀ job, (used.load settings text check).answer = .ok (.accepted job) →
      isPassive machine = true →
        ∀ later,
          let run := used.operateAll settings (.load text check :: later)
          let again := new.operateAll settings
            (.setSpeed used.session.speed :: .load text check :: later)
          again.console = run.console ∧
            again.answer = .speed used.session.speed :: run.answer ∧
            again.journal = run.journal := by
  intro new used
  have hused : used.session = (new.session.operateAll settings earlier).session :=
    congrArg Turn.session (Console.operateAll_turn settings earlier new)
  refine ⟨?_, ?_⟩
  · rw [Console.load_eq, Console.load_eq]
    exact load_answer_congr settings used.session new.session text check
  · intro job haccepted hm later run again
    have hattached : IsAttached machine renderer used.session := by
      rw [hused]
      exact IsAttached.operateAll hm settings earlier (.new machine renderer)
    let ready : Console :=
      { new with session := { new.session with speed := used.session.speed } }
    have hsetup : used.session.setup = ready.session.setup := by
      simp only [Session.setup, hattached.machine, hattached.renderer, ready, new]
    have hready : new.operate settings (.setSpeed used.session.speed) =
        ⟨ready, .speed used.session.speed, []⟩ := by
      simp only [Console.operate, Session.operate, Session.setSpeed, Turn.map, ready,
        hattached.speed]
    have hload := Console.load_congr hsetup haccepted
    simp only [again, run, Console.operateAll, hready, List.nil_append]
    simp only [Console.operate, hload, and_self]

/-- Settings in which rapid moves are too slow for their time to be estimated. -/
def stallingSettings : Settings := { Settings.standard with rapidFeedrate := 5e-324 }

/-- A history with a program played in part, a load that fails and one that is refused,
which leaves another plane, another tool and an issue behind. -/
theorem load_independent_of_history_after_failures :
    let new : Console :=
      { session := { machine := .recorder true, renderer := .recorder false } }
    let earlier := [.load "G91\nT2\nG1 X5 F60\nM8\nX5" acceptAll, .start, .forward,
      .setSpeed 99.0, .load "T3\nG18\nG0 X1" acceptAll, .advance 1.0,
      .load "G1 Y1" (fun _ => some "refused")]
    let used := (new.operateAll stallingSettings earlier).console
    let text := "G1 X10 F600\nM9"
    let later := [.start, .advance 0.05, .setSpeed 0.5, .advance 0.05, .advance 1.0]
    let run := used.operateAll stallingSettings (.load text acceptAll :: later)
    let again := new.operateAll stallingSettings
      (.setSpeed used.session.speed :: .load text acceptAll :: later)
    (new.operateAll stallingSettings earlier).answer.any Answer.isFailedLoad = true ∧
      used.session.speed = 10.0 ∧ used.executor.state.plane = 18 ∧
      used.executor.state.tool = 3 ∧ used.reader.issues.length = 1 ∧
      again.console = run.console ∧ again.answer = .speed used.session.speed :: run.answer ∧
      again.journal = run.journal := by
  intro new earlier used text later run again
  have hleft :
      (new.operateAll stallingSettings earlier).answer.any Answer.isFailedLoad = true ∧
      used.session.speed = 10.0 ∧ used.executor.state.plane = 18 ∧
      used.executor.state.tool = 3 ∧ used.reader.issues.length = 1 := by decide +kernel
  have haccepted : (used.load stallingSettings text acceptAll).answer =
      .ok (.accepted (jobOf stallingSettings text acceptAll)) := by
    rw [Console.load_eq]
    exact (load_accepted_iff stallingSettings used.session text acceptAll).mpr
      (by decide +kernel)
  obtain ⟨hfailed, hspeed, hplane, htool, hissues⟩ := hleft
  have hagain := (load_independent_of_history stallingSettings (.recorder true)
    (.recorder false) earlier text acceptAll).2 _ haccepted rfl later
  exact ⟨hfailed, hspeed, hplane, htool, hissues, hagain⟩

end Machining.Playback
