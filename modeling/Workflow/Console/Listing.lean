import Workflow.Registry
import Workflow.Text.Column

/-!
# Listings of commands

The commands of a registry are listed by name, one to a line, and a single command is described
with all of its parameters.
-/

namespace Workflow.Listing

/-- A parameter on a line of its own. -/
def parameter (parameter : Parameter) : String :=
  let need := if parameter.required then "required" else "optional"
  let fallback := match parameter.fallback with
    | some fallback => s!" (default: {fallback})"
    | none => ""
  let allowed := if parameter.allowed = [] then ""
    else " [" ++ "|".intercalate parameter.allowed ++ "]"
  let description := match parameter.description with
    | some description => s!" - {description}"
    | none => ""
  let name := Text.padRight 24 parameter.name
  let type := Text.padRight 10 parameter.type.name
  s!"  {name} {type} {need}" ++ fallback ++ allowed ++ description

def parameters (definition : Definition) : List String :=
  if definition.parameters = [] then ["  (no parameters)"]
  else "Parameters:" :: definition.parameters.map parameter

/-- The description of a command. -/
def details (definition : Definition) : String :=
  "\n".intercalate (definition.name :: ("  " ++ definition.description) :: parameters definition)

/-- A command on a line of its own. -/
def line (definition : Definition) : String :=
  Text.padRight 32 definition.name ++ " " ++ definition.description

/-- The commands by name, one to a line. -/
def list (definitions : List Definition) : String :=
  let sorted := definitions.mergeSort fun left right => !decide (right.name < left.name)
  "\n".intercalate (sorted.map line)

end Workflow.Listing
