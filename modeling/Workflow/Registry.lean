import Workflow.Behavior
import Workflow.Definition
import Workflow.Similarity

/-!
# The registry of commands

A registry holds the commands that a command file may use, each under its own name and in the
order in which they were registered.
-/

namespace Workflow

/-- A command that may be used: its definition and what it does. -/
structure Registration where
  definition : Definition
  behavior : Behavior

/-- The commands that may be used, by name. -/
abbrev Registry := OrderedMap Registration

namespace Registry

/-- The registry of commands with different names. -/
def ofCommands (commands : List Registration) : Registry :=
  .ofList (commands.map fun command => (command.definition.name, command))

/-- The registry with one more command, whose name must be free. -/
def register (registry : Registry) (command : Registration) : Except Error Registry :=
  if registry.contains command.definition.name then
    .error (.duplicateCommand command.definition.name)
  else .ok (registry.insert command.definition.name command)

/-- The registry with several more commands. -/
def registerAll (registry : Registry) (commands : List Registration) : Except Error Registry :=
  commands.foldlM register registry

/-- The definitions in order. -/
def definitions (registry : Registry) : List Definition := registry.values.map (·.definition)

/-- The registered name that was most likely meant. -/
def suggest (registry : Registry) (name : String) : Option String :=
  Similarity.suggest registry.keys name

/-- The definition of a command, or an error with the name that was most likely meant. -/
def find (registry : Registry) (name : String) : Except Error Definition :=
  match registry.get? name, registry.suggest name with
  | some command, _ => .ok command.definition
  | none, some suggestion => .error (.obstacle (.didYouMean name suggestion))
  | none, none => .error (.unknownCommand name)

end Registry

end Workflow
