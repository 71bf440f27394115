import Workflow.Command
import Workflow.Expansion
import Workflow.Validation

/-!
# Preparing and performing a command

Before a command runs, its parameters are expanded and validated.  Problems become validation
failures in the record of the execution, and the command does not run.  An error of the
command itself becomes a failure of its run.
-/

namespace Workflow.Run

/-- What the commands of a run share. -/
structure Setting where
  surroundings : Surroundings
  /-- What running another command file does. -/
  runFile : Action

/-- The parameters of a command with their property references replaced. -/
def expanded (workspace : Workspace) (command : Command) : OrderedMap String :=
  command.parameters.mapValues (Expansion.expand workspace.propertyText?)

/-- The scene with a validation failure recorded. -/
def refuse (scene : Scene) (problem : String) (recommendation : Option String) : Scene :=
  { scene with status := scene.status.add ⟨.validation, .failure, problem, recommendation⟩ }

/-- The scene with every problem recorded as a validation failure. -/
def refuseAll (scene : Scene) (problems : List Problem) : Scene :=
  problems.foldl (fun scene problem =>
    refuse scene problem.problem (some problem.recommendation)) scene

/-- The values of the parameters of a known command, or every problem with them. -/
def checked (scene : Scene) (command : Command) (definition : Definition) (behavior : Behavior) :
    Except (List Problem) ParameterSet :=
  let place : Validation.Place := ⟨scene.files, scene.workspace.workingFolder⟩
  match validate place definition (expanded scene.workspace command) with
  | .error problems => .error problems
  | .ok parameters =>
      match behavior.problems parameters with
      | [] => .ok parameters
      | problems => .error problems

/-- The scene after validation, with the values of the parameters if the command may run. -/
def prepare (scene : Scene) (command : Command) : Scene × Option ParameterSet :=
  match command.kind with
  | .blank | .comment => (scene, none)
  | .unknown suggestion =>
      let recommendation := suggestion.map fun name => s!"Did you mean `{name}`?"
      (refuse scene s!"Unknown command `{command.name}`" recommendation, none)
  | .malformed fault =>
      (refuse scene s!"Could not parse command: {fault.message}" (some "Fix the command syntax"),
        none)
  | .known definition behavior =>
      match checked scene command definition behavior with
      | .error problems => (refuseAll scene problems, none)
      | .ok parameters =>
          ({ scene with status := scene.status.promote .validation .success }, some parameters)

/-- What a command does with validated parameters. -/
def act (setting : Setting) (command : Command) : Action :=
  match command.kind with
  | .known _ (.action _ perform) => perform
  | .known _ .runFile => setting.runFile
  | _ => fun _ _ scene => .done scene

/-- The scene after a command has come to its end or was ended by an error. -/
def conclude : Performance → Scene
  | (scene, none) => { scene with status := scene.status.promote .run .success }
  | (scene, some error) => scene.fail error.message

/-- The scene after an ordinary command. -/
def execute (setting : Setting) (command : Command) (scene : Scene) : Scene :=
  match prepare scene command with
  | (scene, none) => scene
  | (scene, some parameters) =>
      conclude (act setting command setting.surroundings parameters scene)

end Workflow.Run
