import Workflow.Configuration
import Workflow.ParameterSet
import Workflow.StatusRecord
import Workflow.Workspace

/-!
# What commands do

A running command sees its surroundings and changes a scene: the workspace, the files, the
switches of the run, and its own status record.  A behavior is a check of the validated
parameters together with an action on the scene; running another command file is a behavior of
its own kind, because only the engine can do it.
-/

namespace Workflow

/-- What a running command sees but cannot change. -/
structure Surroundings where
  /-- The number of runs around this one. -/
  depth : Nat
  configuration : Configuration
  /-- The number of commands that the registry knows. -/
  commandCount : Nat

/-- What a running command may change. -/
structure Scene where
  workspace : Workspace
  files : FileSystem
  cancelled : Bool
  haltOnFailure : Bool
  exitRequested : Bool
  /-- The record of this execution of the command. -/
  status : StatusRecord

namespace Scene

/-- The scene with one more record of the run, perhaps with a recommendation. -/
def report (scene : Scene) (severity : Status) (problem : String)
    (recommendation : Option String) : Scene :=
  { scene with status := scene.status.add ⟨.run, severity, problem, recommendation⟩ }

/-- The scene with a message that does not change the status. -/
def inform (scene : Scene) (message : String) : Scene := scene.report .success message none

/-- The scene with a failure that nothing is recommended about. -/
def fail (scene : Scene) (problem : String) : Scene := scene.report .failure problem none

/-- The scene with another workspace. -/
def withWorkspace (scene : Scene) (workspace : Workspace) : Scene :=
  { scene with workspace := workspace }

end Scene

/-- A scene after a command, with the error that ended the command if there was one. -/
abbrev Performance := Scene × Option Error

namespace Performance

/-- A command that came to its end. -/
def done (scene : Scene) : Performance := (scene, none)

/-- A command that was ended by an error. -/
def failed (scene : Scene) (error : Error) : Performance := (scene, some error)

/-- The rest of a command that needs a result, or its end if there is none. -/
def attempt {α : Type} (scene : Scene) (result : Except Error α) (rest : α → Performance) :
    Performance :=
  match result with
  | .ok value => rest value
  | .error error => failed scene error

end Performance

/-- What the run of a command with validated parameters makes of the scene. -/
abbrev Action := Surroundings → ParameterSet → Scene → Performance

/-- What a command does. -/
inductive Behavior where
  | action (check : ParameterSet → List Problem) (perform : Action)
  /-- Another command file is run. -/
  | runFile

/-- The problems with validated parameters that span several of them. -/
def Behavior.problems : Behavior → ParameterSet → List Problem
  | .action check _, parameters => check parameters
  | .runFile, _ => []

end Workflow
