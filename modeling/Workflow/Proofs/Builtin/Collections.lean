import Workflow.Proofs.Builtin.Changes
import Workflow.Proofs.OrderedMap
import Workflow.Proofs.Tables

/-!
# What the commands keep of geolayers and tables

The geolayers and tables of a workspace are stored under their own identifiers.  A geolayer holds
a collection of features, whatever document it was read from, and a table has the shape that
reading gives it.  Every change that a built-in command makes keeps this, because what it stores is
named by a validated parameter and comes from a file or from the workspace itself.
-/

namespace Workflow

/-! ## Stored objects -/

/-- Every object is stored under its own name, which is an identifier, and has a property. -/
def OrderedMap.Catalogs {α : Type} (map : OrderedMap α) (id : α → String) (property : α → Prop) :
    Prop :=
  ∀ entry ∈ map.entries,
    entry.1 = id entry.2 ∧ Identifier.isValid entry.1 = true ∧ property entry.2

namespace OrderedMap.Catalogs

variable {α : Type} {map : OrderedMap α} {id : α → String} {property : α → Prop} {value : α}

theorem empty : (OrderedMap.empty : OrderedMap α).Catalogs id property := by
  intro entry member
  cases member

theorem insert (catalogs : map.Catalogs id property) (valid : Identifier.isValid (id value) = true)
    (has : property value) : (map.insert (id value) value).Catalogs id property := by
  intro entry member
  rcases OrderedMap.mem_write member with rfl | kept
  · exact ⟨rfl, valid, has⟩
  · exact catalogs entry kept

theorem erase (catalogs : map.Catalogs id property) (key : String) :
    (map.erase key).Catalogs id property := by
  intro entry member
  exact catalogs entry (List.mem_of_mem_filter member)

theorem get? (catalogs : map.Catalogs id property) {key : String}
    (found : map.get? key = some value) : property value :=
  (catalogs _ (OrderedMap.get?_eq_some_iff_mem.mp found)).2.2

end OrderedMap.Catalogs

/-- The document is an object of the type of collections, and its features are listed. -/
structure GeoLayer.IsCollection (layer : GeoLayer) : Prop where
  object : ∃ members, layer.document = .object members
  type : layer.document.member? "type" = some (.text "FeatureCollection")
  features : ∃ features, layer.document.member? "features" = some (.array features) ∧
    layer.featureCount = features.length

/-- All geolayers are collections of features and all tables are covered, and they are stored
under their own identifiers. -/
structure Workspace.IsWellFormed (workspace : Workspace) : Prop where
  layers : workspace.layers.Catalogs GeoLayer.id GeoLayer.IsCollection
  tables : workspace.tables.Catalogs Table.id Table.IsCovered

namespace Workspace.IsWellFormed

variable {workspace : Workspace}

theorem setProperty (formed : workspace.IsWellFormed) (name : String) (value : Value) :
    (workspace.setProperty name value).IsWellFormed :=
  ⟨formed.layers, formed.tables⟩

theorem addLayer (formed : workspace.IsWellFormed) {layer : GeoLayer}
    (valid : Identifier.isValid layer.id = true) (collection : layer.IsCollection) :
    (workspace.addLayer layer).IsWellFormed :=
  ⟨formed.layers.insert valid collection, formed.tables⟩

theorem addTable (formed : workspace.IsWellFormed) {table : Table}
    (valid : Identifier.isValid table.id = true) (covered : table.IsCovered) :
    (workspace.addTable table).IsWellFormed :=
  ⟨formed.layers, formed.tables.insert valid covered⟩

theorem isCollection (formed : workspace.IsWellFormed) {id : String} {layer : GeoLayer}
    (found : workspace.layer id = .ok layer) : layer.IsCollection := by
  rw [Workspace.layer] at found
  split at found
  · next stored =>
      cases found
      exact formed.layers.get? stored
  · cases found

end Workspace.IsWellFormed

/-! ## Documents -/

namespace Json

variable {value : Json}

theorem eq_of_text? {content : String} (found : value.text? = some content) :
    value = .text content := by
  cases value with
  | text own =>
      cases found
      rfl
  | null | boolean | integer | float | array | object => cases found

theorem eq_of_items? {items : List Json} (found : value.items? = some items) :
    value = .array items := by
  cases value with
  | array own =>
      cases found
      rfl
  | null | boolean | integer | float | text | object => cases found

/-- Only objects have members. -/
theorem exists_of_member? {key : String} {member : Json} (found : value.member? key = some member) :
    ∃ members, value = .object members := by
  cases value with
  | object members => exact ⟨members, rfl⟩
  | null | boolean | integer | float | text | array => cases found

end Json

namespace GeoLayer

variable {layer : GeoLayer} {value : Json}

theorem isCollection_of_features {features : List Json}
    (type : layer.document.member? "type" = some (.text "FeatureCollection"))
    (listed : layer.document.member? "features" = some (.array features)) :
    layer.IsCollection where
  object := Json.exists_of_member? type
  type := type
  features := ⟨features, listed, by rw [featureCount, listed]; rfl⟩

theorem isCollection_of_collection {feature : Json} (held : layer.document = collection feature) :
    layer.IsCollection := by
  have sorted : collection feature =
      .object [("features", .array [feature]), ("type", .text "FeatureCollection")] := by
    have other : "features" ≠ "type" := by decide
    have before : "features" < "type" := by decide
    simp only [collection, Json.ofMembers, List.foldl_cons, List.foldl_nil, Json.write,
      if_neg other, if_pos before]
  rw [sorted] at held
  apply isCollection_of_features
  · rw [held]
    rfl
  · rw [held]
    rfl

/-- Whatever is accepted as a document is turned into a collection of features. -/
theorem isCollection_of_ofJson (accepted : ofJson value = .ok layer.document) :
    layer.IsCollection := by
  rw [ofJson] at accepted
  split at accepted
  · cases accepted
  · next type named =>
      split at accepted
      · next isCollection =>
          -- the one case in which the document is kept as it was read
          subst isCollection
          obtain ⟨content, typed, text⟩ := Option.bind_eq_some_iff.mp named
          rw [Json.eq_of_text? text] at typed
          split at accepted
          · next features listed =>
              obtain ⟨items, found, array⟩ := Option.bind_eq_some_iff.mp listed
              rw [Json.eq_of_items? array] at found
              have same : layer.document = value := (Except.ok.inj accepted).symm
              apply isCollection_of_features
              · rw [same]
                exact typed
              · rw [same]
                exact found
          · cases accepted
      · split at accepted
        · exact isCollection_of_collection (Except.ok.inj accepted).symm
        · split at accepted
          · exact isCollection_of_collection (Except.ok.inj accepted).symm
          · cases accepted

end GeoLayer

/-! ## Changes -/

/-- Every change keeps geolayers and tables well formed. -/
theorem Workspace.IsWellFormed.of_change {before after : Workspace} (change : Change before after)
    (formed : before.IsWellFormed) : after.IsWellFormed := by
  cases change with
  | setProperty name value => exact formed.setProperty name value
  | readLayer given reads =>
      exact formed.addLayer given.valid (GeoLayer.isCollection_of_ofJson reads)
  | copyLayer given stored =>
      -- the copy holds the document of the geolayer
      have collection := formed.isCollection stored
      exact formed.addLayer given.valid ⟨collection.object, collection.type, collection.features⟩
  | eraseLayer id => exact ⟨formed.layers.erase id, formed.tables⟩
  | clearLayers => exact ⟨.empty, formed.tables⟩
  | readTable given reads =>
      obtain ⟨named, covered⟩ := Table.isCovered_of_read reads
      exact formed.addTable (named ▸ given.valid) covered
  | eraseTable id => exact ⟨formed.layers, formed.tables.erase id⟩

end Workflow
