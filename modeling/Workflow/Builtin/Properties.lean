import Workflow.Builtin.Control

/-!
# Commands for properties and messages

A property is set from a text, which is turned into a value of the wanted type.  A message is
recorded with a status of choice.
-/

namespace Workflow.Builtin

namespace SetProperty

def types : List String := ["String", "Integer", "Float", "Boolean", "Path", "List"]

def definition : Definition where
  name := "SetProperty"
  description := "Set a processor property"
  parameters :=
    [{ name := "PropertyName", type := .identifier, required := true },
     { name := "PropertyType", allowed := types, fallback := some "String" },
     { name := "PropertyValue", required := true }]

/-- The value of the named type that a text spells, or a complaint. -/
def typed (type text : String) : Except String Value :=
  let trimmed := Text.trimmed text
  match type with
  | "Integer" =>
      match Decimal.readSigned trimmed.toList with
      | some number => .ok (.integer number)
      | none => .error s!"`{trimmed}` is not an integer"
  | "Float" =>
      match Decimal.readFloat trimmed.toList with
      | some number => .ok (.float number)
      | none => .error s!"`{trimmed}` is not a number"
  | "Boolean" =>
      match readBoolean trimmed with
      | some truth => .ok (.boolean truth)
      | none => .error s!"`{trimmed}` is not True or False"
  | "Path" => .ok (.path ⟨trimmed⟩)
  | "List" => .ok (.list ((Text.items text).map .text))
  | _ => .ok (.text text)

/-- The value that the parameters describe, or a complaint. -/
def value (parameters : ParameterSet) : Except String Value :=
  typed ((ParameterSet.text? parameters "PropertyType").getD "String")
    ((ParameterSet.text? parameters "PropertyValue").getD "")

/-- The problem with a text that does not spell a value of the wanted type. -/
def problems (parameters : ParameterSet) : List Problem :=
  match value parameters with
  | .ok _ => []
  | .error complaint =>
      [⟨some "PropertyValue", complaint, "Specify a value matching PropertyType"⟩]

/-- The property is set. -/
def perform : Action := fun _ parameters scene =>
  .attempt scene (ParameterSet.text parameters "PropertyName") fun name =>
    .attempt scene ((value parameters).mapError Error.complaint) fun value =>
      .done (scene.withWorkspace (scene.workspace.setProperty name value))

end SetProperty

namespace Message

def definition : Definition where
  name := "Message"
  description := "Log a message, optionally with a status"
  parameters :=
    [{ name := "Message", required := true },
     { name := "CommandStatus", allowed := ["Success", "Warning", "Failure"],
       fallback := some "Success" }]

def severity (parameters : ParameterSet) : Status :=
  match ParameterSet.text? parameters "CommandStatus" with
  | some "Warning" => .warning
  | some "Failure" => .failure
  | _ => .success

/-- The message is recorded. -/
def perform : Action := fun _ parameters scene =>
  .attempt scene (ParameterSet.text parameters "Message") fun message =>
    .done (scene.report (severity parameters) message none)

end Message

/-- The commands for properties and messages. -/
def properties : List Registration :=
  [⟨SetProperty.definition, .action SetProperty.problems SetProperty.perform⟩,
   ⟨Message.definition, .action unchecked Message.perform⟩]

end Workflow.Builtin
