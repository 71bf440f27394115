import Workflow.Run.Frame
import Workflow.Command

/-!
# The result of a run

A result holds the outcome of every command of the list, whether it ran or not, and how the
run ended.
-/

namespace Workflow

/-- How one command of a list ended. -/
structure Outcome where
  index : Nat
  line : Nat
  name : String
  text : String
  status : Status
  messages : List String
  inert : Bool
  deriving DecidableEq, Repr

/-- The outcome of a command, from its status record. -/
def Outcome.ofCommand (index : Nat) (command : Command) : Outcome where
  index := index
  line := command.line
  name := command.name
  text := command.render
  status := command.status.overall
  messages := command.status.messages
  inert := command.isInert

/-- The outcomes of all commands, and how the run ended. -/
structure RunResult where
  outcomes : List Outcome
  ending : Run.Ending
  deriving DecidableEq, Repr

namespace RunResult

/-- The result of a run after which the commands are as given. -/
def ofCommands (commands : List Command) (ending : Run.Ending) : RunResult where
  outcomes := commands.mapIdx Outcome.ofCommand
  ending := ending

/-- The most severe status of all commands. -/
def status (result : RunResult) : Status := Status.worstOf (result.outcomes.map (·.status))

/-- Whether the run was aborted. -/
def isAborted (result : RunResult) : Bool := result.ending.isAborted

/-- Whether the run counts as a failure. -/
def isFailure (result : RunResult) : Bool := result.isAborted || result.status = .failure

/-- The outcome of the first command with a line number. -/
def atLine? (result : RunResult) (line : Nat) : Option Outcome :=
  result.outcomes.find? fun outcome => outcome.line == line

/-- The outcomes of the commands that failed. -/
def failures (result : RunResult) : List Outcome :=
  result.outcomes.filter fun outcome => outcome.status = .failure

/-- The outcomes of the lines that are commands. -/
def executable (result : RunResult) : List Outcome :=
  result.outcomes.filter fun outcome => !outcome.inert

end RunResult

end Workflow
