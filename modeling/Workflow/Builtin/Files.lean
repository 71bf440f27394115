import Workflow.Builtin.Control

/-!
# The command that runs command files

Only the engine can run another command file; this module holds the definition of the command
and the limit on how deep runs may be nested.
-/

namespace Workflow.Builtin

namespace RunCommands

/-- The largest number of runs around a run. -/
def maxDepth : Nat := 16

def definition : Definition where
  name := "RunCommands"
  description := "Run another command file and check its status"
  parameters :=
    [{ name := "CommandFile", type := .inputFile, required := true },
     { name := "ExpectedStatus", allowed := ["Success", "Warning", "Failure"],
       description := some "Default: the file's #@expectedStatus, else Success" }]

end RunCommands

def commandFiles : List Registration := [⟨RunCommands.definition, .runFile⟩]

end Workflow.Builtin
