import Workflow.Processor

/-!
# Checking command files

A command file can be checked without being run.  The check lists unknown commands, lines that
cannot be read, and parameters that a command does not have.
-/

namespace Workflow.Check

/-- The complaint about what a line was recognized as, without its line number. -/
def kindProblems (command : Command) : List String :=
  match command.kind with
  | .unknown (some suggestion) =>
      [s!"unknown command `{command.name}` (did you mean `{suggestion}`?)"]
  | .unknown none => [s!"unknown command `{command.name}`"]
  | .malformed fault => [fault.message]
  | _ => []

def lineProblems (command : Command) : List String :=
  (kindProblems command ++ command.warnings).map fun problem =>
    s!"line {command.line}: {problem}"

def problems (registry : Registry) (text : String) : List String :=
  (CommandFile.read registry text).flatMap lineProblems

/-- The problems with a command file. -/
def file (registry : Registry) (files : FileSystem) (path : FilePath) :
    Except Error (List String) :=
  (Processor.readCommandFile files path).map (problems registry)

end Workflow.Check
