import Workflow.Run.Result
import Workflow.Text.Column

/-!
# Reports of runs

A summary counts the commands of a run by status; blank lines and comments do not count.  A
report lists the commands with their statuses and messages, and ends with the summary.  With
color, statuses are set in bold and in a color of their own.
-/

namespace Workflow

/-- The commands of a run counted by status. -/
structure Summary where
  aborted : Bool
  status : Status
  total : Nat
  count : Status → Nat

namespace Summary

def ofResult (result : RunResult) : Summary where
  aborted := result.isAborted
  status := result.status
  total := result.executable.length
  count status := (result.executable.filter fun outcome => outcome.status = status).length

def display (summary : Summary) : String :=
  let aborted := if summary.aborted then " (aborted)" else ""
  s!"{summary.total} commands: {summary.count .success} success, " ++
    s!"{summary.count .warning} warning, {summary.count .failure} failure, " ++
    s!"{summary.count .unknown} not run. Status {summary.status.name}{aborted}"

end Summary

namespace Report

def statusWidth : Nat := 8

/-- The status in a column of its own. -/
def plainLabel (status : Status) : String := Text.padRight statusWidth status.name

def color : Status → Nat
  | .unknown => 8
  | .success => 2
  | .warning => 3
  | .failure => 9

/-- The status in a column of its own, in bold and in its color. -/
def colorLabel (status : Status) : String :=
  s!"\x1b[38;5;{color status}m\x1b[1m{plainLabel status}\x1b[0m\x1b[39m"

/-- The status in a column of its own, in color if wanted. -/
def label (useColor : Bool) (status : Status) : String :=
  if useColor then colorLabel status else plainLabel status

def lineNumber (line : Nat) : String := Text.padLeft 4 (toString line)

/-- A message beneath its command. -/
def messageLine (message : String) : String := "              " ++ message ++ "\n"

/-- A command with its messages beneath it. -/
def commandLines (useColor : Bool) (outcome : Outcome) : String :=
  s!"{lineNumber outcome.line} {label useColor outcome.status} {Text.trimmed outcome.text}\n" ++
    String.join (outcome.messages.map messageLine)

def abortLine (result : RunResult) : String :=
  match result.ending.abortReason? with
  | some reason => s!"Run aborted: {reason}\n"
  | none => ""

/-- The commands with their messages, and why the run was aborted. -/
def body (useColor : Bool) (result : RunResult) : String :=
  String.join (result.executable.map (commandLines useColor)) ++ abortLine result

/-- The report that is kept in a file. -/
def write (result : RunResult) : String :=
  body false result ++ (Summary.ofResult result).display ++ "\n"

/-- The report that is shown on a terminal. -/
def print (useColor : Bool) (result : RunResult) : String :=
  body useColor result ++
    s!"Status {label useColor result.status}\n{(Summary.ofResult result).display}\n"

/-- The problems found in a command file, as they are shown on a terminal. -/
def printProblems (useColor : Bool) (problems : List String) : String :=
  if problems = [] then "No problems found\n"
  else String.join (problems.map fun problem => s!"{label useColor .failure} {problem}\n")

end Report

end Workflow
