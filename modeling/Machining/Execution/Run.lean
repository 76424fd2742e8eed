import Machining.Execution.Step
set_option autoImplicit false

/-!
# Executing a program

A run executes commands one after the other.  A command that fails leaves an issue, and the run goes
on with the next command.
-/

namespace Machining.Execution

open Machining.Program
open Machining.Toolpath

/-- A command that could not be executed. -/
structure RunIssue where
  line : Int
  message : String
  deriving DecidableEq, Repr, Inhabited

/-- The issue with its line. -/
def RunIssue.text (i : RunIssue) : String := s!"Line {i.line}: {i.message}"

/-- What a row of commands does. -/
structure Run where
  state : Modal
  toolpath : List Segment := []
  directives : List Directive := []
  issues : List RunIssue := []
  log : Log := []
  deriving DecidableEq, Repr, Inhabited

namespace Step

/-- The issue of a step that failed. -/
def issues (step : Step) (c : Command) : List RunIssue :=
  match step.fault? with
  | some fault => [⟨c.line, fault.issue⟩]
  | none => []

/-- The records of a step, with the report of its failure last. -/
def fullLog (step : Step) (c : Command) : Log :=
  step.log ++ (step.issues c).map fun issue =>
    note .error s!"Error executing line {c.line} ({c.source}): {issue.message}"

end Step

/-- Executes commands when `count` segments precede them. -/
def runFrom (count : Nat) (s : Modal) : List Command → Run
  | [] => { state := s }
  | c :: rest =>
    let first := step count s c
    let later := runFrom (count + first.segment?.toList.length) first.state rest
    { state := later.state
      toolpath := first.segment?.toList ++ later.toolpath
      directives := first.directive?.toList ++ later.directives
      issues := first.issues c ++ later.issues
      log := first.fullLog c ++ later.log }

/-- Executes a program. -/
def run (s : Modal) (commands : List Command) : Run :=
  let r := runFrom 0 s commands
  { r with log := r.log ++ [note .debug
      (s!"Interpreted {commands.length} commands into {r.toolpath.length} segments "
        ++ s!"({r.issues.length} errors)")] }

/-- Executes one more command on top of a run.  Its failure surfaces and leaves no issue. -/
def Run.extend (r : Run) (c : Command) : Run × Option Fault :=
  let next := step r.toolpath.length r.state c
  ({ r with
      state := next.state
      toolpath := r.toolpath ++ next.segment?.toList
      directives := r.directives ++ next.directive?.toList
      log := next.log }, next.fault?)

end Machining.Execution
