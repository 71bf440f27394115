import Workflow.FilePath
import Workflow.Json.Printer
import Workflow.Json.Reader

/-!
# Geolayers

A geolayer is a named document of spatial features.  Its document is always a collection of
features: a text that holds a single feature or a bare geometry is wrapped into one.
-/

namespace Workflow

/-- A named spatial dataset. -/
structure GeoLayer where
  id : String
  name : String
  description : String
  source : Option FilePath
  document : Json
  deriving Repr, Inhabited

/-- Why a text is no document of spatial features. -/
inductive DocumentFault where
  | notJson (error : Json.ReadError)
  | noType
  | featuresNotArray
  | unsupported (type : String)
  deriving DecidableEq, Repr

namespace GeoLayer

/-- The types of documents that are bare geometries. -/
def geometryTypes : List String :=
  ["Point", "MultiPoint", "LineString", "MultiLineString", "Polygon", "MultiPolygon",
   "GeometryCollection"]

def collection (feature : Json) : Json :=
  .ofMembers [("type", .text "FeatureCollection"), ("features", .array [feature])]

/-- A feature without properties. -/
def feature (geometry : Json) : Json :=
  .ofMembers [("type", .text "Feature"), ("properties", .object []), ("geometry", geometry)]

/-- The collection of features that a value holds. -/
def ofJson (value : Json) : Except DocumentFault Json :=
  match (value.member? "type").bind Json.text? with
  | none => .error .noType
  | some type =>
      if type = "FeatureCollection" then
        match (value.member? "features").bind Json.items? with
        | some _ => .ok value
        | none => .error .featuresNotArray
      else if type = "Feature" then .ok (collection value)
      else if type ∈ geometryTypes then .ok (collection (feature value))
      else .error (.unsupported type)

/-- The collection of features that a text holds. -/
def readDocument (text : String) : Except DocumentFault Json :=
  match Json.read text with
  | .ok value => ofJson value
  | .error error => .error (.notJson error)

def featureCount (layer : GeoLayer) : Nat :=
  match (layer.document.member? "features").bind Json.items? with
  | some features => features.length
  | none => 1

end GeoLayer

end Workflow
