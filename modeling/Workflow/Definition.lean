import Workflow.Text.Search

/-!
# Command definitions

A command definition says what a command is called, which parameters it takes and whether it
opens or closes a block.  Definitions drive validation, the warnings about unrecognized
parameters and the descriptions shown to the user.
-/

namespace Workflow

/-- The shape that a parameter value must have. -/
inductive ParameterType where
  | text
  | integer
  | float
  | boolean
  /-- The name of a geolayer, a table or a property. -/
  | identifier
  /-- A file that must exist. -/
  | inputFile
  /-- A file whose folder must exist. -/
  | outputFile
  /-- Any path. -/
  | path
  | url
  deriving DecidableEq, Repr, Inhabited

def ParameterType.description : ParameterType → String
  | .text => "string"
  | .integer => "integer"
  | .float => "float"
  | .boolean => "boolean"
  | .identifier => "identifier"
  | .inputFile => "input file"
  | .outputFile => "output file"
  | .path => "path"
  | .url => "URL"

def ParameterType.name : ParameterType → String
  | .text => "String"
  | .integer => "Integer"
  | .float => "Float"
  | .boolean => "Boolean"
  | .identifier => "Identifier"
  | .inputFile => "InputFile"
  | .outputFile => "OutputFile"
  | .path => "Path"
  | .url => "Url"

/-- One parameter of a command.  Without allowed values any value is allowed. -/
structure Parameter where
  name : String
  type : ParameterType := .text
  required : Bool := false
  fallback : Option String := none
  allowed : List String := []
  description : Option String := none
  deriving DecidableEq, Repr, Inhabited

namespace Parameter

/-- The spelling in the list of allowed values of a value given in any case. -/
def canonical? (parameter : Parameter) (value : String) : Option String :=
  parameter.allowed.find? fun allowed => Text.sameIgnoringCase allowed value

def display (parameter : Parameter) : String :=
  let required := if parameter.required then ", required" else ""
  let fallback := match parameter.fallback with
    | some fallback => s!", default `{fallback}`"
    | none => ""
  let allowed := if parameter.allowed = [] then ""
    else ", one of " ++ "|".intercalate parameter.allowed
  let description := match parameter.description with
    | some description => " " ++ description
    | none => ""
  s!"`{parameter.name}` ({parameter.type.description}{required}{fallback}{allowed}){description}"

end Parameter

/-- The part that a command plays in the block structure. -/
inductive BlockRole where
  | openLoop
  | closeLoop
  | openCondition
  | closeCondition
  deriving DecidableEq, Repr

/-- The two kinds of blocks. -/
inductive BlockKind where
  | loop
  | conditional
  deriving DecidableEq, Repr

namespace BlockKind

def opener : BlockKind → BlockRole
  | .loop => .openLoop
  | .conditional => .openCondition

def terminator : BlockKind → BlockRole
  | .loop => .closeLoop
  | .conditional => .closeCondition

end BlockKind

def BlockRole.name : BlockRole → String
  | .openLoop => "For"
  | .closeLoop => "EndFor"
  | .openCondition => "If"
  | .closeCondition => "EndIf"

/-- A command as it is offered to the user. -/
structure Definition where
  name : String
  description : String
  parameters : List Parameter := []
  role : Option BlockRole := none
  deriving DecidableEq, Repr, Inhabited

namespace Definition

def parameter? (definition : Definition) (name : String) : Option Parameter :=
  definition.parameters.find? fun parameter => parameter.name == name

def recognizes (definition : Definition) (name : String) : Bool :=
  (definition.parameter? name).isSome

/-- The names of the parameters in order. -/
def parameterNames (definition : Definition) : List String := definition.parameters.map (·.name)

/-- The command in one line. -/
def display (definition : Definition) : String :=
  if definition.description = "" then definition.name
  else s!"{definition.name} ({definition.description})"

end Definition

end Workflow
