import Workflow.Configuration
import Workflow.Error
import Workflow.FileSystem
import Workflow.Yaml.Decoder
import Workflow.Yaml.Reader

/-!
# Configuration files

A configuration file is a YAML record of the settings, each of which may be left out.  A file
that was not asked for may be missing, and an empty file holds the standard settings.
-/

namespace Workflow.Configuration

/-- The properties in a node.  Of several values of one property the last counts. -/
def propertyMap : Yaml.Decoder (OrderedMap String) := fun path node => do
  return .ofList (← Yaml.Decoder.textEntries path node)

/-- How the value of a setting is read. -/
def setting? : String → Option (Yaml.Decoder (Configuration → Configuration))
  | "halt_on_failure" => some (.field .truth fun value settings =>
      { settings with haltOnFailure := value })
  | "max_loop_iterations" => some (.field .natural fun value settings =>
      { settings with maxLoopIterations := value })
  | "properties" => some (.field propertyMap fun value settings =>
      { settings with properties := value })
  | _ => none

def decoder : Yaml.Decoder Configuration := .record "EngineConfig" setting? standard .ok

/-- The settings in the bytes of a file. -/
def parse (bytes : ByteArray) : Except Yaml.Fault Configuration :=
  if bytes.isEmpty then .ok standard else (Yaml.Document.ofBytes bytes).decode decoder

/-- The settings in the file at the given path, or in the standard one. -/
def read (files : FileSystem) (given : Option String) : Except Error Configuration :=
  let path := path files.home given
  if given.isNone && !files.occupied path then .ok standard
  else
    match files.read path with
    | .error .isFolder =>
        .error (.wrongForm .configuration path (.unreadable FileError.isFolder.message))
    | .error reason => .error (.file .configuration path reason)
    | .ok bytes => (parse bytes).mapError (.wrongForm .configuration path)

end Workflow.Configuration
