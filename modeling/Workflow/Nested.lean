import Workflow.Builtin.Files
import Workflow.Processor

/-!
# Running command files from command files

A command may run another command file.  The file gets a processor of its own, with the
registry, the configuration and the cancellation of the run around it but a workspace of its
own, and the command is judged by the status that the file was expected to end with.  Runs may
only be nested to a limited depth.
-/

namespace Workflow

namespace Nested

/-- The status that a command file is expected to end with: the one asked for, or the one that
the file is annotated with, or success. -/
def expectedStatus (parameters : ParameterSet) (commands : List Command) : Except Error Status :=
  match ParameterSet.text? parameters "ExpectedStatus" with
  | some text =>
      match Status.read? text with
      | some status => .ok status
      | none => .error (.obstacle (.unknownStatus text))
  | none => .ok ((CommandFile.expectedStatus? commands).getD .success)

/-- The line numbers of the commands that ended worse than expected. -/
def worseLines (result : RunResult) (expected : Status) : List String :=
  (result.outcomes.filter fun outcome => outcome.status.exceeds expected).map fun outcome =>
    toString outcome.line

/-- The scene with a judgement on the run of a command file. -/
def judge (scene : Scene) (path : FilePath) (expected : Status) (result : RunResult) : Scene :=
  match result.ending.abortReason? with
  | some reason => scene.fail s!"Command file `{path.text}` was aborted: {reason}"
  | none =>
      if result.status.exceeds expected then
        scene.report .failure
          (s!"Command file `{path.text}` ended with {result.status.name} but " ++
            s!"{expected.name} was expected")
          (some ("Check lines " ++ ", ".intercalate (worseLines result expected)))
      else scene.inform s!"Command file `{path.text}` ended with {result.status.name}"

/-- The processor for a command file that is run by a command. -/
def child (registry : Registry) (surroundings : Surroundings) (scene : Scene) : Processor :=
  { Processor.create registry surroundings.configuration scene.files (surroundings.depth + 1) with
    cancelled := scene.cancelled }

/-- What running a command file does when runs may be nested as many levels deeper. -/
def runFile (registry : Registry) : (levels : Nat) → Action
  | 0 => fun _ parameters scene =>
      .attempt scene (ParameterSet.path parameters "CommandFile") fun _ =>
        .failed scene (.obstacle (.nestedTooDeep Builtin.RunCommands.maxDepth))
  | levels + 1 => fun surroundings parameters scene =>
      .attempt scene (ParameterSet.path parameters "CommandFile") fun path =>
        .attempt scene ((child registry surroundings scene).loadFile scene.files path) fun child =>
          .attempt scene (expectedStatus parameters child.commands) fun expected =>
            let run := Processor.runWith (runFile registry levels) child scene.files fun _ => true
            let scene :=
              { scene with files := run.files, cancelled := run.processor.cancelled }
            .done (judge scene path expected run.result)

end Nested

namespace Processor

/-- What running another command file does in the runs of a processor. -/
def runFile (processor : Processor) : Action :=
  Nested.runFile processor.registry (Builtin.RunCommands.maxDepth - processor.depth)

/-- The run of every command. -/
def runAll (processor : Processor) (files : FileSystem) : Run :=
  runWith processor.runFile processor files fun _ => true

/-- The run of the commands at the given indices; indices without a command do not matter. -/
def runSelected (processor : Processor) (files : FileSystem) (indices : List Nat) : Run :=
  runWith processor.runFile processor files indices.contains

end Processor

end Workflow
