import Workflow.Registry

/-!
# Scripted commands

A command may be given by a script: the problems that its check always finds, and instructions
that are followed one after the other until one of them fails.
-/

namespace Workflow

/-- One thing that a scripted command does. -/
inductive Instruction where
  | message (text : String)
  | warn (text : String) (recommendation : Option String)
  | fail (text : String) (recommendation : Option String)
  /-- The command ends with an error. -/
  | error (text : String)
  | cancel
  | resetCancel
  | exit
  | halt (on : Bool)
  | set (name : String) (value : Value)
  /-- The text of a parameter becomes a message. -/
  | requireText (parameter : String)
  /-- The path of a parameter becomes a message. -/
  | requirePath (parameter : String)
  /-- A parameter becomes a message as an integer, a number and a truth value. -/
  | typed (parameter : String)
  /-- What the command sees of the run becomes a message. -/
  | info
  /-- All parameters become a message. -/
  | echo

namespace Script

/-- A value that may be missing, in words. -/
def optional (value : Option String) : String :=
  match value with
  | some text => s!"Some({text})"
  | none => "None"

def truth (value : Bool) : String := if value then "true" else "false"

def describeTyped (parameters : ParameterSet) (name : String) : String :=
  let integer := optional ((ParameterSet.integer? parameters name).map toString)
  let float := match ParameterSet.float? parameters name with
    | some number => Decimal.Layout.plain.render number
    | none => "None"
  let boolean := optional ((ParameterSet.boolean? parameters name).map truth)
  s!"int={integer} float={float} bool={boolean}"

/-- What a command sees of the run around it. -/
def describeRun (surroundings : Surroundings) (scene : Scene) : String :=
  s!"depth={surroundings.depth} cancelled={truth scene.cancelled} " ++
    s!"limit={surroundings.configuration.maxLoopIterations} commands={surroundings.commandCount}"

def describeParameters (parameters : ParameterSet) : String :=
  ";".intercalate (parameters.entries.map fun entry => s!"{entry.1}={entry.2.display}")

def follow (surroundings : Surroundings) (parameters : ParameterSet) (scene : Scene) :
    Instruction → Performance
  | .message text => .done (scene.inform text)
  | .warn text recommendation => .done (scene.report .warning text recommendation)
  | .fail text recommendation => .done (scene.report .failure text recommendation)
  | .error text => .failed scene (.complaint text)
  | .cancel => .done { scene with cancelled := true }
  | .resetCancel => .done { scene with cancelled := false }
  | .exit => .done { scene with exitRequested := true }
  | .halt on => .done { scene with haltOnFailure := on }
  | .set name value => .done (scene.withWorkspace (scene.workspace.setProperty name value))
  | .requireText name =>
      .attempt scene (ParameterSet.text parameters name) fun text => .done (scene.inform text)
  | .requirePath name =>
      .attempt scene (ParameterSet.path parameters name) fun path =>
        .done (scene.inform path.text)
  | .typed name => .done (scene.inform (describeTyped parameters name))
  | .info => .done (scene.inform (describeRun surroundings scene))
  | .echo => .done (scene.inform (describeParameters parameters))

/-- The instructions are followed in order until one of them fails. -/
def perform : List Instruction → Action
  | [], _, _, scene => .done scene
  | instruction :: rest, surroundings, parameters, scene =>
      match follow surroundings parameters scene instruction with
      | (scene, none) => perform rest surroundings parameters scene
      | failed => failed

def command (definition : Definition) (problems : List Problem) (script : List Instruction) :
    Registration :=
  ⟨definition, .action (fun _ => problems) (perform script)⟩

end Script

end Workflow
