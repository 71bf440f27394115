import Workflow.Error
import Workflow.OrderedMap
import Workflow.Value

/-!
# Workspaces

A workspace holds what the commands of a run share: properties, geolayers and tables, each by
name and in the order in which they arrived.
-/

namespace Workflow

/-- The properties, geolayers and tables of a run. -/
structure Workspace where
  properties : OrderedMap Value := .empty
  layers : OrderedMap GeoLayer := .empty
  tables : OrderedMap Table := .empty
  deriving Inhabited

namespace Workspace

/-- The property that names the folder where relative paths start. -/
def workingFolderName : String := "WorkingDir"

def property? (workspace : Workspace) (name : String) : Option Value :=
  workspace.properties.get? name

/-- The text of a property, as a reference to it expands. -/
def propertyText? (workspace : Workspace) (name : String) : Option String :=
  (workspace.property? name).map Value.display

def setProperty (workspace : Workspace) (name : String) (value : Value) : Workspace :=
  { workspace with properties := workspace.properties.insert name value }

/-- The folder where relative paths start. -/
def workingFolder (workspace : Workspace) : FilePath :=
  match workspace.property? workingFolderName with
  | some (.path folder) => folder
  | some value => ⟨value.display⟩
  | none => .current

/-- The workspace with a geolayer stored under its own id. -/
def addLayer (workspace : Workspace) (layer : GeoLayer) : Workspace :=
  { workspace with layers := workspace.layers.insert layer.id layer }

/-- The workspace with a table stored under its own id. -/
def addTable (workspace : Workspace) (table : Table) : Workspace :=
  { workspace with tables := workspace.tables.insert table.id table }

def layer (workspace : Workspace) (id : String) : Except Error GeoLayer :=
  match workspace.layers.get? id with
  | some layer => .ok layer
  | none => .error (.layerNotFound id)

def table (workspace : Workspace) (id : String) : Except Error Table :=
  match workspace.tables.get? id with
  | some table => .ok table
  | none => .error (.tableNotFound id)

end Workspace

def Table.cells (table : Table) (column : String) : Except Error (List String) :=
  match table.cells? column with
  | some cells => .ok cells
  | none => .error (.columnNotFound table.id column)

end Workflow
