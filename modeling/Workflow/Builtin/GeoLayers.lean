import Workflow.Builtin.Existing

/-!
# Commands for geolayers

Geolayers are read from and written to files, copied, and removed.
-/

namespace Workflow.Builtin

/-- The id of the geolayer that a command works on. -/
def layerId : Parameter := { name := "GeoLayerID", type := .identifier, required := true }

/-- The policy parameter of commands that store a geolayer. -/
def layerPolicy : String := "IfGeoLayerIDExists"

namespace ReadGeoLayer

def definition : Definition where
  name := "ReadGeoLayerFromGeoJSON"
  description := "Read a GeoLayer from a GeoJSON file"
  parameters :=
    [{ name := "InputFile", type := .inputFile, required := true },
     layerId,
     { name := "Name", description := some "Display name (default: GeoLayerID)" },
     { name := "Description" },
     ExistsPolicy.parameter layerPolicy]

def document (files : FileSystem) (path : FilePath) : Except Error Json :=
  match files.readText path with
  | .error reason => .error (.file .geoJson path reason)
  | .ok text => (GeoLayer.readDocument text).mapError (.document path.text)

/-- The geolayer is read and stored. -/
def perform : Action := fun _ parameters scene =>
  .attempt scene (ParameterSet.path parameters "InputFile") fun path =>
    .attempt scene (ParameterSet.text parameters "GeoLayerID") fun id =>
      (ExistsPolicy.ofParameters parameters layerPolicy).guard scene "GeoLayer" id
        (scene.workspace.layers.contains id) (.layerExists id) fun scene =>
          .attempt scene (document scene.files path) fun document =>
            let layer : GeoLayer :=
              { id
                name := (ParameterSet.text? parameters "Name").getD id
                description := (ParameterSet.text? parameters "Description").getD ""
                source := some path
                document }
            .done ((scene.withWorkspace (scene.workspace.addLayer layer)).inform
              s!"Read GeoLayer `{id}` with {layer.featureCount} features")

end ReadGeoLayer

namespace WriteGeoLayer

def definition : Definition where
  name := "WriteGeoLayerToGeoJSON"
  description := "Write a GeoLayer to a GeoJSON file"
  parameters := [layerId, { name := "OutputFile", type := .outputFile, required := true }]

/-- The geolayer is written. -/
def perform : Action := fun _ parameters scene =>
  .attempt scene (ParameterSet.text parameters "GeoLayerID") fun id =>
    .attempt scene (ParameterSet.path parameters "OutputFile") fun path =>
      .attempt scene (scene.workspace.layer id) fun layer =>
        .attempt scene ((scene.files.writeText path layer.document.pretty).mapError
            (.file .geoJson path)) fun files =>
          .done ({ scene with files := files }.inform s!"Wrote GeoLayer `{id}` to {path.text}")

end WriteGeoLayer

namespace CopyGeoLayer

def definition : Definition where
  name := "CopyGeoLayer"
  description := "Copy a GeoLayer to a new ID"
  parameters :=
    [layerId,
     { name := "CopiedGeoLayerID", type := .identifier, required := true },
     ExistsPolicy.parameter layerPolicy]

/-- The geolayer is stored under another id as well. -/
def perform : Action := fun _ parameters scene =>
  .attempt scene (ParameterSet.text parameters "GeoLayerID") fun id =>
    .attempt scene (ParameterSet.text parameters "CopiedGeoLayerID") fun copyId =>
      .attempt scene (scene.workspace.layer id) fun layer =>
        (ExistsPolicy.ofParameters parameters layerPolicy).guard scene "GeoLayer" copyId
          (scene.workspace.layers.contains copyId) (.layerExists copyId) fun scene =>
            .done (scene.withWorkspace (scene.workspace.addLayer { layer with id := copyId }))

end CopyGeoLayer

namespace FreeGeoLayers

def definition : Definition where
  name := "FreeGeoLayers"
  description := "Remove GeoLayers from the processor"
  parameters :=
    [{ name := "GeoLayerIDs", required := true,
       description := some "Comma-separated IDs, or * for all" }]

/-- One geolayer is removed, with a warning if it is not there. -/
def free (scene : Scene) (id : String) : Scene :=
  if scene.workspace.layers.contains id then
    scene.withWorkspace { scene.workspace with layers := scene.workspace.layers.erase id }
  else scene.report .warning s!"GeoLayer `{id}` does not exist" (some "Check the GeoLayer ID")

/-- The named geolayers are removed, or all of them. -/
def perform : Action := fun _ parameters scene =>
  .attempt scene (ParameterSet.text parameters "GeoLayerIDs") fun ids =>
    if Text.trim ids.toList = ['*'] then
      .done (scene.withWorkspace { scene.workspace with layers := .empty })
    else .done ((Text.items ids).foldl free scene)

end FreeGeoLayers

/-- The commands for geolayers. -/
def geoLayers : List Registration :=
  [⟨ReadGeoLayer.definition, .action unchecked ReadGeoLayer.perform⟩,
   ⟨WriteGeoLayer.definition, .action unchecked WriteGeoLayer.perform⟩,
   ⟨CopyGeoLayer.definition, .action unchecked CopyGeoLayer.perform⟩,
   ⟨FreeGeoLayers.definition, .action unchecked FreeGeoLayers.perform⟩]

end Workflow.Builtin
