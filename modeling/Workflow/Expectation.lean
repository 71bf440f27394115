import Workflow.Run.Result

/-!
# Expectations about runs

An expectation names a command file and says how bad its run may end: the run as a whole, and
the commands at some of its lines.  Ending better than expected is never a problem.
-/

namespace Workflow

/-- How bad the command at a line may end.  The message counts only for a command that ends
exactly as bad: one of its messages has to contain it. -/
structure ExpectedCommand where
  line : Nat
  status : Status
  message : Option String := none
  deriving DecidableEq, Repr

/-- How bad the run of a command file may end. -/
structure ExpectedCase where
  commandFile : FilePath
  expectedStatus : Option Status := none
  commands : List ExpectedCommand := []
  deriving DecidableEq, Repr

/-- How a run differs from what was expected. -/
inductive Deviation where
  | aborted (reason : String)
  | worseRun (actual expected : Status)
  | noCommand (line : Nat)
  | worseCommand (line : Nat) (actual expected : Status)
  | noMessage (line : Nat) (text : String)
  deriving DecidableEq, Repr

def Deviation.message : Deviation → String
  | .aborted reason => s!"Run aborted: {reason}"
  | .worseRun actual expected => s!"Status {actual.name} exceeds expected {expected.name}"
  | .noCommand line => s!"No command at line {line}"
  | .worseCommand line actual expected =>
      s!"Line {line}: status {actual.name} exceeds expected {expected.name}"
  | .noMessage line text => s!"Line {line}: no message contains `{text}`"

namespace ExpectedCommand

/-- Whether one of the messages of a command contains the expected one, if there is one. -/
def messageOccurs (expected : ExpectedCommand) (outcome : Outcome) : Bool :=
  match expected.message with
  | none => true
  | some text => outcome.messages.any fun message => Text.occurs text.toList message.toList

def compare (expected : ExpectedCommand) (outcome : Outcome) : Option Deviation :=
  if outcome.status.exceeds expected.status then
    some (.worseCommand expected.line outcome.status expected.status)
  else if outcome.status = expected.status && !expected.messageOccurs outcome then
    some (.noMessage expected.line (expected.message.getD ""))
  else none

def deviation? (expected : ExpectedCommand) (result : RunResult) : Option Deviation :=
  match result.atLine? expected.line with
  | none => some (.noCommand expected.line)
  | some outcome => expected.compare outcome

end ExpectedCommand

namespace RunResult

def abortDeviation? (result : RunResult) : Option Deviation :=
  result.ending.abortReason?.map .aborted

/-- The deviation of a run that ended worse than expected. -/
def statusDeviation? (result : RunResult) (expected : Status) : Option Deviation :=
  if result.status.exceeds expected then some (.worseRun result.status expected) else none

/-- How a run differs from the status and from the commands that were expected. -/
def deviations (result : RunResult) (expected : Status) (commands : List ExpectedCommand) :
    List Deviation :=
  result.abortDeviation?.toList ++ (result.statusDeviation? expected).toList ++
    commands.filterMap fun command => command.deviation? result

end RunResult

end Workflow
