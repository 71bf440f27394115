import Workflow.Expectation
import Workflow.Yaml.Decoder
import Workflow.Yaml.Printer
import Workflow.Yaml.Reader

/-!
# Files of expectations

A file of expectations is a YAML list of cases.  Only the command file of a case, and the line
and the status of a command, have to be given.
-/

namespace Workflow.Expectation

def status : Yaml.Decoder Status := fun path node => do
  let name ← Yaml.Decoder.text .text path node
  match Status.read? name with
  | some status => return status
  | none => Yaml.Decoder.refuse (.refused (Status.unknownName name))

/-- What is known of a command while its fields are read. -/
structure CommandFields where
  line : Option Nat := none
  status : Option Status := none
  message : Option String := none

def commandField? : String → Option (Yaml.Decoder (CommandFields → CommandFields))
  | "line" => some (.field .natural fun value fields => { fields with line := some value })
  | "status" => some (.field status fun value fields => { fields with status := some value })
  | "message" => some (.field (.optional (.text .text)) fun value fields =>
      { fields with message := value })
  | _ => none

def CommandFields.finish (fields : CommandFields) : Except Yaml.Misfit ExpectedCommand := do
  let line ← Yaml.Decoder.require "line" fields.line
  let status ← Yaml.Decoder.require "status" fields.status
  return { line, status, message := fields.message }

def command : Yaml.Decoder ExpectedCommand :=
  .record "ExpectedCommand" commandField? {} CommandFields.finish

/-- What is known of a case while its fields are read. -/
structure CaseFields where
  commandFile : Option String := none
  expectedStatus : Option Status := none
  commands : List ExpectedCommand := []

def caseField? : String → Option (Yaml.Decoder (CaseFields → CaseFields))
  | "command_file" => some (.field (.text .path) fun value fields =>
      { fields with commandFile := some value })
  | "expected_status" => some (.field (.optional status) fun value fields =>
      { fields with expectedStatus := value })
  | "commands" => some (.field (.list command) fun value fields =>
      { fields with commands := value })
  | _ => none

def CaseFields.finish (fields : CaseFields) : Except Yaml.Misfit ExpectedCase := do
  let commandFile ← Yaml.Decoder.require "command_file" fields.commandFile
  return {
    commandFile := ⟨commandFile⟩
    expectedStatus := fields.expectedStatus
    commands := fields.commands }

def expectation : Yaml.Decoder ExpectedCase :=
  .record "ExpectedCase" caseField? {} CaseFields.finish

def parse (bytes : ByteArray) : Except Yaml.Fault (List ExpectedCase) :=
  (Yaml.Document.ofBytes bytes).decode (.list expectation)

def read (files : FileSystem) (path : FilePath) : Except Error (List ExpectedCase) :=
  match files.read path with
  | .error .isFolder =>
      .error (.wrongForm .expectedResults path (.unreadable FileError.isFolder.message))
  | .error reason => .error (.file .expectedResults path reason)
  | .ok bytes => (parse bytes).mapError (.wrongForm .expectedResults path)

/-- An expected command to be written; a message that is not expected is left out. -/
def commandContent (command : ExpectedCommand) : Yaml.Content :=
  .record ([("line", .number command.line), ("status", .text command.status.name)] ++
    command.message.toList.map fun message => ("message", .text message))

/-- A case to be written; whatever is not expected is left out. -/
def caseContent (expectation : ExpectedCase) : Yaml.Content :=
  .record ([("command_file", .text expectation.commandFile.text)] ++
    (expectation.expectedStatus.toList.map fun status => ("expected_status", .text status.name)) ++
    if expectation.commands = [] then []
    else [("commands", .list (expectation.commands.map commandContent))])

/-- The file that holds the given cases. -/
def write (cases : List ExpectedCase) : String := (Yaml.Content.list (cases.map caseContent)).print

end Workflow.Expectation
