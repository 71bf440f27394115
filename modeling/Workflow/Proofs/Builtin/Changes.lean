import Mathlib.Logic.Relation
import Workflow.Builtin
import Workflow.Proofs.Builtin.Downloads
import Workflow.Proofs.Validation.Specification

/-!
# What the commands change

A built-in command changes a workspace in few ways: it sets a property, it stores a geolayer or a
table under an identifier that it was given, or it removes geolayers or tables.  Whatever each of
these changes keeps is kept by every command.
-/

namespace Workflow

/-! ## Given identifiers -/

/-- An identifier as commands are given it. -/
structure Identifier.IsGiven (id : String) : Prop where
  valid : isValid id = true
  trimmed : Text.trimmed id = id

/-- Validated parameters hold identifiers without blanks around them. -/
theorem Validation.isGiven_of_validate {place : Place} {raw : OrderedMap String}
    {definition : Definition} {parameters : ParameterSet} {next : Parameter} {id : String}
    (distinct : definition.parameterNames.Nodup)
    (validated : validate place definition raw = .ok parameters)
    (member : next ∈ definition.parameters) (type : next.type = .identifier)
    (any : next.allowed = []) (given : ParameterSet.text parameters next.name = .ok id) :
    Identifier.IsGiven id := by
  have held : ParameterSet.text? parameters next.name = some id := by
    rw [ParameterSet.text] at given
    split at given
    · next held =>
        cases given
        exact held
    · cases given
  refine ⟨admits_of_validate distinct validated next member type id held, ?_⟩
  obtain ⟨value, found, text⟩ := Option.bind_eq_some_iff.mp held
  have makes := makes_parameter place raw next
  rw [parameter_eq_of_validate distinct validated member, found] at makes
  cases makes with
  | value effective accepts =>
      cases accepts with
      | freeText _ free => exact absurd (type.symm.trans free) nofun
      | allowed among => exact absurd (any.symm.trans among) (by simp)
      | trimmed _ _ spells =>
          rw [type] at spells
          cases spells
          cases text
          rw [Text.trimmed, Text.toList_trimmed, Text.trim_trim, ← Text.trimmed]

/-! ## Changes -/

namespace Workspace

/-- One change of a workspace. -/
inductive Change : Workspace → Workspace → Prop where
  | setProperty (workspace : Workspace) (name : String) (value : Value) :
      Change workspace (workspace.setProperty name value)
  | readLayer (workspace : Workspace) {layer : GeoLayer} {value : Json}
      (given : Identifier.IsGiven layer.id) (reads : GeoLayer.ofJson value = .ok layer.document) :
      Change workspace (workspace.addLayer layer)
  | copyLayer {workspace : Workspace} {id copyId : String} {layer : GeoLayer}
      (given : Identifier.IsGiven copyId) (stored : workspace.layer id = .ok layer) :
      Change workspace (workspace.addLayer { layer with id := copyId })
  | eraseLayer (workspace : Workspace) (id : String) :
      Change workspace { workspace with layers := workspace.layers.erase id }
  | clearLayers (workspace : Workspace) : Change workspace { workspace with layers := .empty }
  | readTable (workspace : Workspace) {files : FileSystem} {path : FilePath} {id : String}
      {delimiter : UInt8} {headerLines : Nat} {table : Table} (given : Identifier.IsGiven id)
      (reads : Table.read files path id delimiter headerLines = .ok table) :
      Change workspace (workspace.addTable table)
  | eraseTable (workspace : Workspace) (id : String) :
      Change workspace { workspace with tables := workspace.tables.erase id }

/-- One workspace becomes another by some changes. -/
abbrev Becomes (before after : Workspace) : Prop := Relation.ReflTransGen Change before after

/-- What every change keeps is kept by all of them. -/
theorem Becomes.keeps {holds : Workspace → Prop} {before after : Workspace}
    (each : ∀ {before after}, Change before after → holds before → holds after)
    (becomes : before.Becomes after) (start : holds before) : holds after := by
  induction becomes with
  | refl => exact start
  | tail _ change ih => exact each change ih

end Workspace

/-- A command leaves what some changes make of a workspace. -/
def Performance.Changes (performance : Performance) (workspace : Workspace) : Prop :=
  workspace.Becomes performance.1.workspace

namespace Performance

variable {scene : Scene}

theorem changes_attempt {α : Type} {result : Except Error α} {rest : α → Performance}
    (each : ∀ value, result = .ok value → (rest value).Changes scene.workspace) :
    (attempt scene result rest).Changes scene.workspace := by
  cases result with
  | error error => exact .refl
  | ok value => exact each value rfl

theorem changes_guard {policy : Builtin.ExistsPolicy} {kind id : String} {inUse : Bool}
    {error : Error} {rest : Scene → Performance}
    (each : ∀ status, (rest { scene with status }).Changes scene.workspace) :
    (policy.guard scene kind id inUse error rest).Changes scene.workspace := by
  simp only [Builtin.ExistsPolicy.guard]
  split
  · exact each scene.status
  · cases policy with
    | replace => exact each scene.status
    | replaceAndWarn => exact each _
    | warn => exact .refl
    | fail => exact .refl

end Performance

/-- With validated parameters the command makes some changes.  What running a command file does is
up to the engine. -/
def Registration.OnlyChanges (registration : Registration) : Prop :=
  match registration.behavior with
  | .action _ perform =>
      ∀ surroundings place raw parameters scene,
        validate place registration.definition raw = .ok parameters →
          (perform surroundings parameters scene).Changes scene.workspace
  | .runFile => True

open Performance

namespace Builtin

theorem ReadGeoLayer.exists_ofJson {files : FileSystem} {path : FilePath} {content : Json}
    (found : document files path = .ok content) :
    ∃ value, GeoLayer.ofJson value = .ok content := by
  rw [document] at found
  split at found
  · cases found
  · next text _ =>
      rw [GeoLayer.readDocument] at found
      split at found
      · next value _ =>
          cases accepted : GeoLayer.ofJson value with
          | error fault =>
              rw [accepted] at found
              cases found
          | ok document =>
              rw [accepted] at found
              cases found
              exact ⟨value, accepted⟩
      · cases found

theorem ReadGeoLayer.onlyChanges (problems : ParameterSet → List Problem) :
    Registration.OnlyChanges ⟨definition, .action problems perform⟩ := by
  intro surroundings place raw parameters scene validated
  apply changes_attempt
  intro path _
  apply changes_attempt
  intro id given
  have asked : layerId ∈ definition.parameters := by decide
  have distinct : definition.parameterNames.Nodup := by decide
  have isGiven := Validation.isGiven_of_validate distinct validated asked rfl rfl given
  apply changes_guard
  intro status
  apply changes_attempt
  intro document found
  obtain ⟨value, reads⟩ := exists_ofJson found
  exact .single (.readLayer scene.workspace isGiven reads)

theorem WriteGeoLayer.onlyChanges (problems : ParameterSet → List Problem) :
    Registration.OnlyChanges ⟨definition, .action problems perform⟩ := by
  intro surroundings place raw parameters scene validated
  apply changes_attempt
  intro id _
  apply changes_attempt
  intro path _
  apply changes_attempt
  intro layer _
  apply changes_attempt
  intro files _
  exact .refl

theorem CopyGeoLayer.onlyChanges (problems : ParameterSet → List Problem) :
    Registration.OnlyChanges ⟨definition, .action problems perform⟩ := by
  intro surroundings place raw parameters scene validated
  apply changes_attempt
  intro id _
  apply changes_attempt
  intro copyId given
  have asked : { name := "CopiedGeoLayerID", type := .identifier, required := true } ∈
      definition.parameters := by decide
  have distinct : definition.parameterNames.Nodup := by decide
  have isGiven := Validation.isGiven_of_validate distinct validated asked rfl rfl given
  apply changes_attempt
  intro layer stored
  apply changes_guard
  intro status
  exact .single (.copyLayer isGiven stored)

theorem FreeGeoLayers.becomes_foldl_free (ids : List String) (scene : Scene) :
    scene.workspace.Becomes (ids.foldl free scene).workspace := by
  induction ids generalizing scene with
  | nil => exact .refl
  | cons id ids ih =>
      refine .trans ?_ (ih (free scene id))
      rw [free]
      split
      · exact .single (.eraseLayer _ id)
      · exact .refl

theorem FreeGeoLayers.onlyChanges (problems : ParameterSet → List Problem) :
    Registration.OnlyChanges ⟨definition, .action problems perform⟩ := by
  intro surroundings place raw parameters scene validated
  apply changes_attempt
  intro ids _
  split
  · exact .single (.clearLayers _)
  · exact becomes_foldl_free _ scene

theorem ReadTable.onlyChanges (problems : ParameterSet → List Problem) :
    Registration.OnlyChanges ⟨definition, .action problems perform⟩ := by
  intro surroundings place raw parameters scene validated
  apply changes_attempt
  intro path _
  apply changes_attempt
  intro id given
  have asked : tableId ∈ definition.parameters := by decide
  have distinct : definition.parameterNames.Nodup := by decide
  have isGiven := Validation.isGiven_of_validate distinct validated asked rfl rfl given
  apply changes_attempt
  intro delimiter _
  apply changes_guard
  intro status
  apply changes_attempt
  intro table found
  cases reads : Table.read scene.files path id delimiter (headerLines parameters) with
  | error problem =>
      rw [reads] at found
      cases found
  | ok own =>
      rw [reads] at found
      cases found
      exact .single (.readTable scene.workspace isGiven reads)

theorem WriteTable.onlyChanges (problems : ParameterSet → List Problem) :
    Registration.OnlyChanges ⟨definition, .action problems perform⟩ := by
  intro surroundings place raw parameters scene validated
  apply changes_attempt
  intro id _
  apply changes_attempt
  intro path _
  apply changes_attempt
  intro delimiter _
  apply changes_attempt
  intro table _
  apply changes_attempt
  intro files _
  exact .refl

theorem FreeTable.onlyChanges (problems : ParameterSet → List Problem) :
    Registration.OnlyChanges ⟨definition, .action problems perform⟩ := by
  intro surroundings place raw parameters scene validated
  apply changes_attempt
  intro id _
  apply changes_attempt
  intro table _
  exact .single (.eraseTable scene.workspace id)

theorem SetProperty.onlyChanges (problems : ParameterSet → List Problem) :
    Registration.OnlyChanges ⟨definition, .action problems perform⟩ := by
  intro surroundings place raw parameters scene validated
  apply changes_attempt
  intro name _
  apply changes_attempt
  intro value _
  exact .single (.setProperty scene.workspace name value)

theorem Message.onlyChanges (problems : ParameterSet → List Problem) :
    Registration.OnlyChanges ⟨definition, .action problems perform⟩ := by
  intro surroundings place raw parameters scene validated
  apply changes_attempt
  intro message _
  exact .refl

theorem WebGet.onlyChanges (problems : ParameterSet → List Problem) :
    Registration.OnlyChanges ⟨definition, .action problems perform⟩ := by
  intro surroundings place raw parameters scene validated
  apply changes_attempt
  intro address _
  apply changes_attempt
  intro path _
  rw [Performance.Changes, (ends_download ..).workspace_eq]

theorem onlyChanges_structural (definition : Definition) (check : ParameterSet → List Problem) :
    Registration.OnlyChanges ⟨definition, structural check⟩ := by
  intro surroundings place raw parameters scene validated
  exact .refl

theorem onlyChanges_exit : exit.OnlyChanges := by
  intro surroundings place raw parameters scene validated
  exact .refl

theorem onlyChanges_setErrorPolicy : setErrorPolicy.OnlyChanges := by
  intro surroundings place raw parameters scene validated
  apply changes_attempt
  intro policy _
  exact .refl

/-- Every built-in command makes nothing but changes. -/
theorem onlyChanges_of_mem_commands : ∀ registration ∈ commands, registration.OnlyChanges := by
  simp only [commands, control, properties, geoLayers, tables, downloads, commandFiles,
    List.cons_append, List.nil_append, List.forall_mem_cons]
  refine ⟨onlyChanges_structural _ _, onlyChanges_structural _ _, onlyChanges_structural _ _,
    onlyChanges_structural _ _, onlyChanges_exit, onlyChanges_setErrorPolicy,
    SetProperty.onlyChanges _, Message.onlyChanges _, ReadGeoLayer.onlyChanges _,
    WriteGeoLayer.onlyChanges _, CopyGeoLayer.onlyChanges _, FreeGeoLayers.onlyChanges _,
    ReadTable.onlyChanges _, WriteTable.onlyChanges _, FreeTable.onlyChanges _,
    WebGet.onlyChanges _, trivial, ?_⟩
  intro registration member
  cases member

end Builtin

end Workflow
