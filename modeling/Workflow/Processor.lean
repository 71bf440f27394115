import Workflow.CommandFile
import Workflow.Run.Result
import Workflow.Run.Walk

/-!
# Processors

A processor holds a command list and the workspace on which the list is run.  Running changes
the workspace, the files and the statuses of the commands; editing changes the list and keeps
every command numbered by its line.
-/

namespace Workflow

/-- What a processor has done with its command list. -/
inductive RunState where
  | ready
  | completed
  | aborted
  deriving DecidableEq, Repr

/-- A command list with the workspace on which it is run. -/
structure Processor where
  registry : Registry
  configuration : Configuration
  commands : List Command := []
  workspace : Workspace := {}
  state : RunState := .ready
  cancelled : Bool := false
  commandFile : Option FilePath := none
  /-- The number of runs around the runs of this processor. -/
  depth : Nat := 0

namespace Processor

/-- The configured properties as a workspace. -/
def configuredWorkspace (configuration : Configuration) : Workspace :=
  { properties := configuration.properties.mapValues Value.text }

/-- The workspace that a run starts with: the configured properties and, unless they name
another one, the current folder to work in. -/
def startWorkspace (configuration : Configuration) (files : FileSystem) : Workspace :=
  let configured := configuredWorkspace configuration
  match configured.property? Workspace.workingFolderName with
  | some _ => configured
  | none =>
      let current : FilePath := ⟨"/" ++ "/".intercalate files.current⟩
      configured.setProperty Workspace.workingFolderName (.path current)

/-- A processor without commands, whose runs are nested to a depth. -/
def create (registry : Registry) (configuration : Configuration) (files : FileSystem)
    (depth : Nat) : Processor :=
  { registry, configuration, depth, workspace := startWorkspace configuration files }

/-- The processor with the commands of a text. -/
def loadText (processor : Processor) (text : String) : Processor :=
  { processor with commands := CommandFile.read processor.registry text, state := .ready }

/-- The text of a command file. -/
def readCommandFile (files : FileSystem) (path : FilePath) : Except Error String :=
  (files.readText path).mapError (.file .commands path)

/-- The processor with the commands of a file, working in the folder of the file. -/
def loadFile (processor : Processor) (files : FileSystem) (path : FilePath) :
    Except Error Processor := do
  let text ← readCommandFile files path
  let loaded := processor.loadText text
  .ok { loaded with
    workspace := loaded.workspace.setProperty Workspace.workingFolderName (.path path.folder)
    commandFile := some path }

/-- The processor with a property set. -/
def setProperty (processor : Processor) (name : String) (value : Value) : Processor :=
  { processor with workspace := processor.workspace.setProperty name value }

/-- The processor with another policy about failures. -/
def setHaltOnFailure (processor : Processor) (halt : Bool) : Processor :=
  { processor with configuration := { processor.configuration with haltOnFailure := halt } }

/-- The commands with the line numbers of their places. -/
def renumber (commands : List Command) : List Command :=
  commands.mapIdx fun index command => { command with line := index + 1 }

/-- The command at an index. -/
def command (processor : Processor) (index : Nat) : Except Error Command :=
  match processor.commands[index]? with
  | some command => .ok command
  | none => .error (.noCommandAt index)

/-- The processor with one parameter of a command set. -/
def setParameter (processor : Processor) (index : Nat) (name value : String) :
    Except Error Processor := do
  let command ← processor.command index
  let changed ← command.setParameter name value
  .ok { processor with commands := processor.commands.set index changed }

/-- The processor with the command of a line inserted before an index. -/
def insert (processor : Processor) (index : Nat) (text : String) : Except Error Processor :=
  if processor.commands.length < index then .error (.noCommandAt index)
  else do
    let command ← CommandFile.readNumbered processor.registry (index + 1) text
    .ok { processor with commands := renumber (processor.commands.insertIdx index command) }

/-- The command at an index, and the processor without it. -/
def remove (processor : Processor) (index : Nat) : Except Error (Command × Processor) := do
  let command ← processor.command index
  .ok (command, { processor with commands := renumber (processor.commands.eraseIdx index) })

/-- The command list as the text of a command file. -/
def render (processor : Processor) : String := CommandFile.render processor.commands

/-- The commands at the chosen indices, in the order of the list. -/
def plan (commands : List Command) (chosen : Nat → Bool) : Run.Plan :=
  ((commands.mapIdx fun index command => (⟨index, command⟩ : Run.Planned)).filter fun planned =>
    chosen planned.index).toArray

/-- The machine at the start of a plan. -/
def machine (processor : Processor) (files : FileSystem) (plan : Run.Plan) : Run.Machine where
  position := 0
  frames := []
  budget := processor.configuration.maxLoopIterations
  workspace := processor.workspace
  files := files
  cancelled := processor.cancelled
  haltOnFailure := processor.configuration.haltOnFailure
  exitRequested := false
  executions := plan.map fun _ => []

/-- What the commands of a run share. -/
def setting (processor : Processor) (runFile : Action) : Run.Setting where
  surroundings := ⟨processor.depth, processor.configuration, processor.registry.size⟩
  runFile := runFile

/-- The record of all executions at a position of a plan. -/
def recordAt (machine : Run.Machine) (position : Nat) : StatusRecord :=
  StatusRecord.combine (machine.executions.getD position []).reverse

/-- The commands with the records of a run; those outside of its plan have none. -/
def withRecords (commands : List Command) (plan : Run.Plan) (machine : Run.Machine) :
    List Command :=
  commands.mapIdx fun index command =>
    match plan.findIdx? fun planned => planned.index == index with
    | some position => { command with status := recordAt machine position }
    | none => { command with status := .fresh }

/-- What a run leaves behind: the processor, the files, and the result. -/
structure Run where
  processor : Processor
  files : FileSystem
  result : RunResult

/-- The run of the commands at the chosen indices.  `runFile` says what running another
command file does. -/
def runWith (runFile : Action) (processor : Processor) (files : FileSystem)
    (chosen : Nat → Bool) : Run :=
  let plan := plan processor.commands chosen
  let (machine, ending) :=
    Run.walk (processor.setting runFile) plan (processor.machine files plan)
  let commands := withRecords processor.commands plan machine
  { processor :=
      { processor with
        commands
        workspace := machine.workspace
        state := if ending.isAborted then .aborted else .completed
        cancelled := machine.cancelled }
    files := machine.files
    result := .ofCommands commands ending }

end Processor

end Workflow
