import Workflow.Builtin.Download
import Workflow.Builtin.Files
import Workflow.Builtin.GeoLayers
import Workflow.Builtin.Properties
import Workflow.Builtin.Tables

/-!
# The built-in commands

The registry that command files use unless another one is given.
-/

namespace Workflow.Builtin

def commands : List Registration :=
  control ++ properties ++ geoLayers ++ tables ++ downloads ++ commandFiles

def registry : Registry := .ofCommands commands

end Workflow.Builtin
