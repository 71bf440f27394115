import Workflow.Proofs.Builtin.Downloads
import Workflow.Proofs.Builtin.Storing
import Workflow.Proofs.Run.Acceptance
import Workflow.Proofs.Run.NestedRuns

/-!
# What commands may rely on

A command is only run with parameters that were validated against its definition and checked by its
behavior.  So a parameter that the command asks for is there, with a value of the type that is asked
for, and what was turned into a value for the check can be turned into one again.  None of the
errors about a parameter that is not set ever ends a built-in command.
-/

namespace Workflow

/-! ## Parameters that are asked for -/

section

variable {place : Validation.Place} {raw : OrderedMap String} {definition : Definition}
  {parameters : ParameterSet}

theorem exists_text_of_validate (name : String) (distinct : definition.parameterNames.Nodup)
    (validated : validate place definition raw = .ok parameters)
    (ensured : definition.ensures ParameterType.isTextual name = true) :
    ∃ text, ParameterSet.text parameters name = .ok text := by
  obtain ⟨text, held⟩ := Validation.exists_text?_of_ensures name distinct validated ensured
  exact ⟨text, ParameterSet.text_of_text? held⟩

theorem exists_path_of_validate (name : String) (distinct : definition.parameterNames.Nodup)
    (validated : validate place definition raw = .ok parameters)
    (ensured : definition.ensures ParameterType.isLocation name = true) :
    ∃ path, ParameterSet.path parameters name = .ok path := by
  obtain ⟨path, held⟩ := Validation.exists_path?_of_ensures name distinct validated ensured
  exact ⟨path, ParameterSet.path_of_path? held⟩

end

/-! ## Errors about parameters that are not set -/

/-- Whether an error is about a parameter that is not set. -/
def Error.isUnset : Error → Bool
  | .obstacle (.parameterNotSet _) => true
  | _ => false

/-- A result that, if there is none, is not missing because a parameter is not set. -/
def IsSupplied {α : Type} (result : Except Error α) : Prop :=
  ∀ error, result = .error error → error.isUnset = false

section

variable {α β ε : Type}

theorem isSupplied_ok (value : α) : IsSupplied (.ok value) := fun _ fails => nomatch fails

theorem isSupplied_error {error : Error} (other : error.isUnset = false) :
    IsSupplied (.error error : Except Error α) := by
  rintro _ ⟨⟩
  exact other

theorem isSupplied_of_exists {result : Except Error α} (found : ∃ value, result = .ok value) :
    IsSupplied result := by
  obtain ⟨value, rfl⟩ := found
  exact isSupplied_ok value

theorem isSupplied_mapError (result : Except ε α) {wrap : ε → Error}
    (other : ∀ reason, (wrap reason).isUnset = false) : IsSupplied (result.mapError wrap) := by
  cases result with
  | ok value => exact isSupplied_ok value
  | error reason => exact isSupplied_error (other reason)

theorem isSupplied_bind {result : Except Error α} {rest : α → Except Error β}
    (first : IsSupplied result) (each : ∀ value, IsSupplied (rest value)) :
    IsSupplied (result >>= rest) := by
  cases result with
  | ok value => exact each value
  | error reason => exact isSupplied_error (first reason rfl)

end

theorem Workspace.isSupplied_layer (workspace : Workspace) (id : String) :
    IsSupplied (workspace.layer id) := by
  rw [layer]
  cases workspace.layers.get? id with
  | some layer => exact isSupplied_ok layer
  | none => exact isSupplied_error rfl

theorem Workspace.isSupplied_table (workspace : Workspace) (id : String) :
    IsSupplied (workspace.table id) := by
  rw [table]
  cases workspace.tables.get? id with
  | some table => exact isSupplied_ok table
  | none => exact isSupplied_error rfl

theorem Table.isSupplied_cells (table : Table) (column : String) :
    IsSupplied (table.cells column) := by
  rw [cells]
  cases table.cells? column with
  | some cells => exact isSupplied_ok cells
  | none => exact isSupplied_error rfl

/-- No command file fails to be loaded because a parameter is not set. -/
theorem Processor.isSupplied_loadFile (processor : Processor) (files : FileSystem)
    (path : FilePath) : IsSupplied (processor.loadFile files path) :=
  isSupplied_bind (isSupplied_mapError _ fun _ => rfl) fun _ => isSupplied_ok _

namespace Performance

/-- A command that is not ended because a parameter is not set. -/
def IsSupplied (performance : Performance) : Prop :=
  ∀ error, performance.2 = some error → error.isUnset = false

variable {scene : Scene}

theorem isSupplied_done (scene : Scene) : IsSupplied (done scene) := fun _ fails => nomatch fails

theorem isSupplied_failed (scene : Scene) {error : Error} (other : error.isUnset = false) :
    IsSupplied (failed scene error) := by
  rintro _ ⟨⟩
  exact other

theorem isSupplied_attempt {α : Type} {result : Except Error α} {rest : α → Performance}
    (first : Workflow.IsSupplied result) (each : ∀ value, IsSupplied (rest value)) :
    IsSupplied (attempt scene result rest) := by
  cases result with
  | ok value => exact each value
  | error error => exact isSupplied_failed scene (first error rfl)

theorem isSupplied_guard {policy : Builtin.ExistsPolicy} {kind id : String} {inUse : Bool}
    {error : Error} {rest : Scene → Performance} (other : error.isUnset = false)
    (each : ∀ scene, IsSupplied (rest scene)) :
    IsSupplied (policy.guard scene kind id inUse error rest) := by
  simp only [Builtin.ExistsPolicy.guard]
  split
  · exact each scene
  · cases policy with
    | replace | replaceAndWarn => exact each _
    | warn => exact isSupplied_done _
    | fail => exact isSupplied_failed scene other

end Performance

/-! ## The built-in commands -/

/-- With validated parameters the command is not ended because one of them is not set. -/
def Registration.IsSupplied (registration : Registration) : Prop :=
  ∀ place raw parameters, validate place registration.definition raw = .ok parameters →
    match registration.behavior with
    | .action _ perform =>
        ∀ surroundings scene, (perform surroundings parameters scene).IsSupplied
    | .runFile =>
        ∀ registry levels surroundings scene,
          (Nested.runFile registry levels surroundings parameters scene).IsSupplied

namespace Builtin

open Performance

theorem ReadGeoLayer.isSupplied :
    Registration.IsSupplied ⟨definition, .action unchecked perform⟩ := by
  intro place raw parameters validated surroundings scene
  have distinct : definition.parameterNames.Nodup := by decide
  have file := exists_path_of_validate "InputFile" distinct validated (by decide)
  have id := exists_text_of_validate "GeoLayerID" distinct validated (by decide)
  refine isSupplied_attempt (isSupplied_of_exists file) fun path =>
    isSupplied_attempt (isSupplied_of_exists id) fun id => isSupplied_guard rfl fun scene =>
      isSupplied_attempt ?_ fun document => isSupplied_done _
  rw [document]
  cases scene.files.readText path with
  | error reason => exact isSupplied_error rfl
  | ok text => exact isSupplied_mapError _ fun _ => rfl

theorem WriteGeoLayer.isSupplied :
    Registration.IsSupplied ⟨definition, .action unchecked perform⟩ := by
  intro place raw parameters validated surroundings scene
  have distinct : definition.parameterNames.Nodup := by decide
  have id := exists_text_of_validate "GeoLayerID" distinct validated (by decide)
  have file := exists_path_of_validate "OutputFile" distinct validated (by decide)
  exact isSupplied_attempt (isSupplied_of_exists id) fun id =>
    isSupplied_attempt (isSupplied_of_exists file) fun path =>
      isSupplied_attempt (scene.workspace.isSupplied_layer id) fun layer =>
        isSupplied_attempt (isSupplied_mapError _ fun _ => rfl) fun files => isSupplied_done _

theorem CopyGeoLayer.isSupplied :
    Registration.IsSupplied ⟨definition, .action unchecked perform⟩ := by
  intro place raw parameters validated surroundings scene
  have distinct : definition.parameterNames.Nodup := by decide
  have id := exists_text_of_validate "GeoLayerID" distinct validated (by decide)
  have copyId := exists_text_of_validate "CopiedGeoLayerID" distinct validated (by decide)
  exact isSupplied_attempt (isSupplied_of_exists id) fun id =>
    isSupplied_attempt (isSupplied_of_exists copyId) fun copyId =>
      isSupplied_attempt (scene.workspace.isSupplied_layer id) fun layer =>
        isSupplied_guard rfl fun scene => isSupplied_done _

theorem FreeGeoLayers.isSupplied :
    Registration.IsSupplied ⟨definition, .action unchecked perform⟩ := by
  intro place raw parameters validated surroundings scene
  have ids := exists_text_of_validate "GeoLayerIDs" (by decide) validated (by decide)
  refine isSupplied_attempt (isSupplied_of_exists ids) fun ids => ?_
  split <;> exact isSupplied_done _

theorem ReadTable.isSupplied :
    Registration.IsSupplied ⟨definition, .action problems perform⟩ := by
  intro place raw parameters validated surroundings scene
  have distinct : definition.parameterNames.Nodup := by decide
  have file := exists_path_of_validate "InputFile" distinct validated (by decide)
  have id := exists_text_of_validate "TableID" distinct validated (by decide)
  exact isSupplied_attempt (isSupplied_of_exists file) fun path =>
    isSupplied_attempt (isSupplied_of_exists id) fun id =>
      isSupplied_attempt (isSupplied_mapError _ fun _ => rfl) fun delimiter =>
        isSupplied_guard rfl fun scene =>
          isSupplied_attempt (isSupplied_mapError _ fun _ => rfl) fun table => isSupplied_done _

theorem WriteTable.isSupplied :
    Registration.IsSupplied ⟨definition, .action Delimiter.problems perform⟩ := by
  intro place raw parameters validated surroundings scene
  have distinct : definition.parameterNames.Nodup := by decide
  have id := exists_text_of_validate "TableID" distinct validated (by decide)
  have file := exists_path_of_validate "OutputFile" distinct validated (by decide)
  exact isSupplied_attempt (isSupplied_of_exists id) fun id =>
    isSupplied_attempt (isSupplied_of_exists file) fun path =>
      isSupplied_attempt (isSupplied_mapError _ fun _ => rfl) fun delimiter =>
        isSupplied_attempt (scene.workspace.isSupplied_table id) fun table =>
          isSupplied_attempt (isSupplied_mapError _ fun _ => rfl) fun files => isSupplied_done _

theorem FreeTable.isSupplied :
    Registration.IsSupplied ⟨definition, .action unchecked perform⟩ := by
  intro place raw parameters validated surroundings scene
  have id := exists_text_of_validate "TableID" (by decide) validated (by decide)
  exact isSupplied_attempt (isSupplied_of_exists id) fun id =>
    isSupplied_attempt (scene.workspace.isSupplied_table id) fun table => isSupplied_done _

theorem SetProperty.isSupplied :
    Registration.IsSupplied ⟨definition, .action problems perform⟩ := by
  intro place raw parameters validated surroundings scene
  have name := exists_text_of_validate "PropertyName" (by decide) validated (by decide)
  exact isSupplied_attempt (isSupplied_of_exists name) fun name =>
    isSupplied_attempt (isSupplied_mapError _ fun _ => rfl) fun value => isSupplied_done _

theorem Message.isSupplied :
    Registration.IsSupplied ⟨definition, .action unchecked perform⟩ := by
  intro place raw parameters validated surroundings scene
  have message := exists_text_of_validate "Message" (by decide) validated (by decide)
  exact isSupplied_attempt (isSupplied_of_exists message) fun message => isSupplied_done _

theorem WebGet.Ends.isSupplied {address : String} {path : FilePath} {scene : Scene}
    {performance : Performance} (ends : Ends address path scene performance) :
    Performance.IsSupplied performance := by
  cases ends with
  | refused _ cause =>
      refine isSupplied_failed _ ?_
      obtain rfl | ⟨fault, rfl⟩ := cause
      · rfl
      · rfl
  | saved _ bytes failed =>
      exact isSupplied_attempt (isSupplied_mapError _ fun _ => rfl) fun files => isSupplied_done _

theorem WebGet.isSupplied :
    Registration.IsSupplied ⟨definition, .action problems perform⟩ := by
  intro place raw parameters validated surroundings scene
  have distinct : definition.parameterNames.Nodup := by decide
  have address := exists_text_of_validate "URI" distinct validated (by decide)
  have file := exists_path_of_validate "OutputFile" distinct validated (by decide)
  exact isSupplied_attempt (isSupplied_of_exists address) fun address =>
    isSupplied_attempt (isSupplied_of_exists file) fun path => (ends_download ..).isSupplied

theorem isSupplied_structural (definition : Definition) (check : ParameterSet → List Problem) :
    Registration.IsSupplied ⟨definition, structural check⟩ :=
  fun _ _ _ _ _ _ => isSupplied_done _

theorem isSupplied_exit : exit.IsSupplied := fun _ _ _ _ _ _ => isSupplied_done _

theorem isSupplied_setErrorPolicy : setErrorPolicy.IsSupplied := by
  intro place raw parameters validated surroundings scene
  have policy := exists_text_of_validate "OnFailure" (by decide) validated (by decide)
  exact isSupplied_attempt (isSupplied_of_exists policy) fun policy => isSupplied_done _

/-- However deep runs are nested, running a command file does not want for a parameter. -/
theorem RunCommands.isSupplied : Registration.IsSupplied ⟨definition, .runFile⟩ := by
  intro place raw parameters validated registry levels surroundings scene
  have file := exists_path_of_validate "CommandFile" (by decide) validated (by decide)
  cases levels with
  | zero =>
      exact isSupplied_attempt (isSupplied_of_exists file) fun _ => isSupplied_failed scene rfl
  | succ levels =>
      exact isSupplied_attempt (isSupplied_of_exists file) fun path =>
        isSupplied_attempt (Processor.isSupplied_loadFile _ _ path) fun child =>
          isSupplied_attempt
            (isSupplied_of_exists ⟨_, Nested.expectedStatus_of_validate validated child.commands⟩)
            fun expected => isSupplied_done _

/-- No built-in command is ever ended because a parameter is not set. -/
theorem isSupplied_of_mem_commands : ∀ registration ∈ commands, registration.IsSupplied := by
  simp only [commands, control, properties, geoLayers, tables, downloads, commandFiles,
    List.cons_append, List.nil_append, List.forall_mem_cons]
  exact ⟨isSupplied_structural _ _, isSupplied_structural _ _, isSupplied_structural _ _,
    isSupplied_structural _ _, isSupplied_exit, isSupplied_setErrorPolicy, SetProperty.isSupplied,
    Message.isSupplied, ReadGeoLayer.isSupplied, WriteGeoLayer.isSupplied, CopyGeoLayer.isSupplied,
    FreeGeoLayers.isSupplied, ReadTable.isSupplied, WriteTable.isSupplied, FreeTable.isSupplied,
    WebGet.isSupplied, RunCommands.isSupplied, List.forall_mem_nil _⟩

end Builtin

end Workflow
