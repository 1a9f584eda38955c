import ReviewDesk.CommandLine.Command
import ReviewDesk.Desk.Basic

/-!
A session at the command line: the desk, the workspace, the variables, what is typed and what is
shown.
-/
namespace ReviewDesk.CommandLine

structure Session where
  desk : Desk Http.Peer
  workspace : Workspace := {}
  environment : Environment := []
  /-- Lines that are typed. -/
  typed : List String := []
  out : String := ""
  err : String := ""
  /-- Services that have been started. -/
  served : List Server := []

/-- What a command does not expect. -/
inductive Crash where
  | failure (failure : Failure)
  | writing (fault : Workspace.WriteFault)
  deriving Repr, DecidableEq

inductive Ending where
  | exit (code : Nat)
  | crash (crash : Crash)
  deriving Repr, DecidableEq

/-- Part of a command. What has been shown stays when it ends early. -/
abbrev Run (α : Type) := ExceptT Ending (StateM Session) α

namespace Run

variable {α : Type}

/-- Shows a line. -/
def say (line : String) : Run Unit := modify fun s => { s with out := s.out ++ line ++ "\n" }

/-- Shows a line aside from the results. -/
def note (line : String) : Run Unit := modify fun s => { s with err := s.err ++ line ++ "\n" }

def stop (ending : Ending) : Run α := throw ending

/-- Says why and ends. -/
def giveUp (line : String) : Run α := do
  say line
  stop (.exit 1)

/-- Gives the desk a task. -/
def ask (task : Task Http.Peer α) : Run (Except Failure α) := do
  let s ← get
  let (result, desk) := task.run s.desk
  set { s with desk }
  return result

/-- Asks GitHub. -/
def askGitHub (call : GitHub.Call α) : Run (Except GitHub.Fault α) := do
  let s ← get
  let (result, github) := call.run s.desk.github
  set { s with desk := { s.desk with github } }
  return result

/-- Asks for a word until something is typed. The word is not shown. -/
def typeHidden (label : String) : List String → Run String
  | [] => do
    say (label ++ ": ")
    say ""
    note "Aborted."
    stop (.exit 1)
  | line :: rest => do
    say (label ++ ": ")
    if line.isEmpty then typeHidden label rest else return line

end Run

/-- The lines of what is typed, without their ends. -/
def Session.typedLines (text : String) : List String :=
  let lines := (String.ofList (Workspace.plainLines text.toList)).splitOn "\n"
  if lines.getLastD "" == "" then lines.dropLast else lines

end ReviewDesk.CommandLine
