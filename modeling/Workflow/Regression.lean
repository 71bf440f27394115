import Workflow.ExpectationFile
import Workflow.Nested
import Workflow.Text.Column

/-!
# Regression runs

A regression run compares the runs of command files with what is expected of them.  Every case
has a verdict of its own: a file that cannot be read fails its case, and a file that is
annotated as not enabled is skipped.
-/

namespace Workflow

/-- How a case of a regression run ended. -/
inductive Verdict where
  | pass
  | fail
  | skipped
  deriving DecidableEq, Repr

def Verdict.name : Verdict → String
  | .pass => "PASS"
  | .fail => "FAIL"
  | .skipped => "SKIPPED"

/-- A case of a regression run with its verdict. -/
structure CaseOutcome where
  commandFile : FilePath
  verdict : Verdict
  expectedStatus : Status
  actualStatus : Status
  problems : List String
  deriving DecidableEq, Repr

namespace ExpectedCase

/-- The outcome of a case whose file was not run. -/
def notRun (expectation : ExpectedCase) (verdict : Verdict) (expected : Status)
    (problems : List String) : CaseOutcome where
  commandFile := expectation.commandFile
  verdict := verdict
  expectedStatus := expected
  actualStatus := .unknown
  problems := problems

def judge (expectation : ExpectedCase) (expected : Status) (result : RunResult) : CaseOutcome :=
  let deviations := result.deviations expected expectation.commands
  { commandFile := expectation.commandFile
    verdict := if deviations.isEmpty then .pass else .fail
    expectedStatus := expected
    actualStatus := result.status
    problems := deviations.map Deviation.message }

/-- The status that a command file may end with: the one of the case, or the one that the file
is annotated with, or success. -/
def statusFor (expectation : ExpectedCase) (commands : List Command) : Status :=
  (expectation.expectedStatus.or (CommandFile.expectedStatus? commands)).getD .success

/-- The outcome of a case whose file could be read, with the files after it. -/
def runLoaded (expectation : ExpectedCase) (processor : Processor) (files : FileSystem) :
    CaseOutcome × FileSystem :=
  let expected := expectation.statusFor processor.commands
  if CommandFile.isEnabled processor.commands then
    let run := processor.runAll files
    (expectation.judge expected run.result, run.files)
  else (expectation.notRun .skipped expected [], files)

/-- The outcome of a case with the files after it.  The path of its file starts at the given
folder. -/
def run (expectation : ExpectedCase) (folder : FilePath) (registry : Registry)
    (configuration : Configuration) (files : FileSystem) : CaseOutcome × FileSystem :=
  let path := files.resolve folder expectation.commandFile.text
  match (Processor.create registry configuration files 0).loadFile files path with
  | .ok processor => expectation.runLoaded processor files
  | .error error =>
      (expectation.notRun .fail (expectation.expectedStatus.getD .success) [error.message], files)

end ExpectedCase

namespace Regression

/-- The outcomes of all cases in order, with the files after them. -/
def run (folder : FilePath) (registry : Registry) (configuration : Configuration) :
    List ExpectedCase → FileSystem → List CaseOutcome × FileSystem
  | [], files => ([], files)
  | expectation :: rest, files =>
      let (outcome, files) := expectation.run folder registry configuration files
      let (outcomes, files) := run folder registry configuration rest files
      (outcome :: outcomes, files)

def count (outcomes : List CaseOutcome) (verdict : Verdict) : Nat :=
  (outcomes.filter fun outcome => outcome.verdict = verdict).length

/-- The exit code of a regression run: one if a case failed. -/
def exitCode (outcomes : List CaseOutcome) : Nat := if count outcomes .fail = 0 then 0 else 1

/-- A case with its problems beneath it. -/
def caseLines (outcome : CaseOutcome) : String :=
  let verdict := Text.padRight 7 outcome.verdict.name
  s!"{verdict} {outcome.commandFile.text} (expected {outcome.expectedStatus.name}, " ++
    s!"actual {outcome.actualStatus.name})\n" ++
    String.join (outcome.problems.map fun problem => s!"        {problem}\n")

/-- The cases by verdict, in one line. -/
def summary (outcomes : List CaseOutcome) : String :=
  s!"{outcomes.length} cases: {count outcomes .pass} passed, {count outcomes .fail} failed, " ++
    s!"{count outcomes .skipped} skipped\n"

/-- The report of a regression run as text. -/
def text (outcomes : List CaseOutcome) : String :=
  String.join (outcomes.map caseLines) ++ summary outcomes

def caseContent (outcome : CaseOutcome) : Yaml.Content :=
  .record
    [("command_file", .text outcome.commandFile.text), ("verdict", .text outcome.verdict.name),
     ("expected_status", .text outcome.expectedStatus.name),
     ("actual_status", .text outcome.actualStatus.name),
     ("problems", .list (outcome.problems.map .text))]

/-- The report of a regression run as YAML. -/
def yaml (outcomes : List CaseOutcome) : String :=
  (Yaml.Content.record [("cases", .list (outcomes.map caseContent))]).print

/-- The outcomes of the cases in a file, with the files after them.  The paths of the cases
start at the folder of the file. -/
def runFile (path : FilePath) (registry : Registry) (configuration : Configuration)
    (files : FileSystem) : Except Error (List CaseOutcome × FileSystem) := do
  let cases ← Expectation.read files path
  .ok (run path.folder registry configuration cases files)

end Regression

end Workflow
