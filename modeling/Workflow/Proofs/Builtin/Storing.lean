import Workflow.Builtin
import Workflow.Proofs.OrderedMap
import Workflow.Proofs.Run.Dispatch
import Workflow.Proofs.Tables

/-!
# Storing objects under their ids

Three commands store an object under an id: a geolayer that is read or copied, or a table that is
read.  Each of them asks its policy about an object in the way.  The copy looks for the geolayer
first; the others read their file only behind the policy, so that the warning about an object that
was replaced is there even when nothing can be read and the object is kept.
-/

namespace Workflow

theorem Performance.attempt_ok {α : Type} {scene : Scene} {value : α}
    {rest : α → Performance} : attempt scene (.ok value) rest = rest value := rfl

theorem ParameterSet.text_of_text? {parameters : ParameterSet} {name text : String}
    (given : ParameterSet.text? parameters name = some text) :
    ParameterSet.text parameters name = .ok text := by
  rw [ParameterSet.text, given]

theorem ParameterSet.path_of_path? {parameters : ParameterSet} {name : String} {path : FilePath}
    (given : ParameterSet.path? parameters name = some path) :
    ParameterSet.path parameters name = .ok path := by
  rw [ParameterSet.path, given]

namespace Builtin

open Performance ParameterSet

/-! ## Policies -/

namespace ExistsPolicy

variable {parameters : ParameterSet} {policy : ExistsPolicy} {scene : Scene}

/-- The value of the parameter that chooses the policy. -/
def name : ExistsPolicy → String
  | .replace => "Replace"
  | .replaceAndWarn => "ReplaceAndWarn"
  | .warn => "Warn"
  | .fail => "Fail"

/-- Whether an object in the way is to be replaced. -/
def replaces : ExistsPolicy → Bool
  | .replace | .replaceAndWarn => true
  | .warn | .fail => false

theorem ofParameters_of_name {parameter : String}
    (chosen : ParameterSet.text? parameters parameter = some policy.name) :
    ofParameters parameters parameter = policy := by
  rw [ofParameters, chosen]
  cases policy <;> rfl

theorem exists_name_of_mem {parameter text : String}
    (allowed : text ∈ (ExistsPolicy.parameter parameter).allowed) :
    ∃ policy : ExistsPolicy, policy.name = text := by
  have listed : (ExistsPolicy.parameter parameter).allowed =
      [replace, replaceAndWarn, warn, fail].map name := rfl
  obtain ⟨policy, -, named⟩ := List.mem_map.mp (listed ▸ allowed)
  exact ⟨policy, named⟩

/-- The policy lets the command go on with the workspace and the files as they were. -/
theorem guard_congr {kind id : String} {inUse : Bool} {error : Error}
    {rest other : Scene → Performance}
    (same : ∀ status, rest { scene with status } = other { scene with status }) :
    policy.guard scene kind id inUse error rest = policy.guard scene kind id inUse error other := by
  simp only [guard]
  split
  · exact same scene.status
  · cases policy with
    | replace => exact same scene.status
    | replaceAndWarn => exact same _
    | warn | fail => rfl

end ExistsPolicy

theorem Delimiter.exists_ofParameters_eq {parameters : ParameterSet}
    (fine : problems parameters = []) : ∃ delimiter, ofParameters parameters = .ok delimiter := by
  rw [problems] at fine
  split at fine
  · exact ⟨_, ‹_›⟩
  · cases fine

/-! ## Objects that are stored -/

/-- Objects of one kind in a workspace, each under its id. -/
structure Collection (α : Type) where
  kind : String
  objects : Workspace → OrderedMap α
  withObjects : Workspace → OrderedMap α → Workspace
  objects_withObjects : ∀ workspace map, objects (withObjects workspace map) = map

namespace Collection

def layers : Collection GeoLayer where
  kind := "GeoLayer"
  objects := Workspace.layers
  withObjects workspace map := { workspace with layers := map }
  objects_withObjects _ _ := rfl

def tables : Collection Table where
  kind := "Table"
  objects := Workspace.tables
  withObjects workspace map := { workspace with tables := map }
  objects_withObjects _ _ := rfl

end Collection

/-- What a command stores, and how. -/
structure Storing (α : Type) where
  collection : Collection α
  id : String
  policy : ExistsPolicy
  /-- The new object, or why there is none. -/
  source : Except Error α
  /-- Whether the command looks for the new object before it looks for one in the way. -/
  looksFirst : Bool
  /-- The error about an object in the way. -/
  inTheWay : Error
  /-- What the command tells about the new object. -/
  message? : α → Option String

namespace Storing

variable {α : Type} {storing : Storing α} {scene : Scene} {workspace : Workspace} {object : α}

/-- Whether there is an object under the id. -/
def isInUse (storing : Storing α) (workspace : Workspace) : Bool :=
  (storing.collection.objects workspace).contains storing.id

/-- Whether there is room for the new object: its id is free or the one in the way is replaced. -/
def hasRoom (storing : Storing α) (workspace : Workspace) : Bool :=
  !storing.isInUse workspace || storing.policy.replaces

/-- The workspace with the new object. -/
def stored (storing : Storing α) (workspace : Workspace) (object : α) : Workspace :=
  storing.collection.withObjects workspace
    ((storing.collection.objects workspace).insert storing.id object)

theorem objects_stored (storing : Storing α) (workspace : Workspace) (object : α) :
    storing.collection.objects (storing.stored workspace object) =
      (storing.collection.objects workspace).insert storing.id object :=
  storing.collection.objects_withObjects ..

/-- What the warning says when an object was replaced. -/
def replacedText (storing : Storing α) : String :=
  s!"{storing.collection.kind} `{storing.id}` already exists and was replaced"

/-- What the warning says when an object was kept. -/
def keptText (storing : Storing α) : String :=
  s!"{storing.collection.kind} `{storing.id}` already exists; keeping the existing one"

/-- The new object is stored and the command is done. -/
def store (storing : Storing α) (object : α) (scene : Scene) : Performance :=
  let scene := scene.withWorkspace (storing.stored scene.workspace object)
  match storing.message? object with
  | some message => .done (scene.inform message)
  | none => .done scene

/-- The rest of the command behind its policy. -/
def guarded (storing : Storing α) (scene : Scene) (rest : Scene → Performance) : Performance :=
  storing.policy.guard scene storing.collection.kind storing.id (storing.isInUse scene.workspace)
    storing.inTheWay rest

/-- What the command does. -/
def perform (storing : Storing α) (scene : Scene) : Performance :=
  if storing.looksFirst then
    .attempt scene storing.source fun object => storing.guarded scene (storing.store object)
  else
    storing.guarded scene fun scene =>
      .attempt scene storing.source fun object => storing.store object scene

/-- The warning that an object was replaced, if the policy asks for it. -/
def notice (storing : Storing α) (workspace : Workspace) : List Record :=
  if storing.isInUse workspace = true ∧ storing.policy = .replaceAndWarn then
    [⟨.run, .warning, storing.replacedText, some "Use a different ID to keep both"⟩]
  else []

/-- The warning that an object was kept. -/
def keptNotice (storing : Storing α) : Record :=
  ⟨.run, .warning, storing.keptText, some "Free the existing object or use a different ID"⟩

/-- What is told about the new object. -/
def news (storing : Storing α) (object : α) : List Record :=
  (storing.message? object).toList.map fun message => ⟨.run, .success, message, none⟩

/-- The record of a command that was ended by an error. -/
def failure (error : Error) : Record := ⟨.run, .failure, error.message, none⟩

/-- The ways in which the command can end, each with the workspace that it leaves and the records
that it adds. -/
inductive Ends (storing : Storing α) (before : Workspace) : Workspace → List Record → Prop where
  | missing {error : Error} (first : storing.looksFirst = true)
      (absent : storing.source = .error error) : storing.Ends before before [failure error]
  | refused (occupied : storing.isInUse before = true) (fails : storing.policy = .fail) :
      storing.Ends before before [failure storing.inTheWay]
  | kept (occupied : storing.isInUse before = true) (keeps : storing.policy = .warn) :
      storing.Ends before before [storing.keptNotice]
  /-- The warning about the object in the way has come before the error. -/
  | unreadable {error : Error} (later : storing.looksFirst = false)
      (room : storing.hasRoom before = true) (absent : storing.source = .error error) :
      storing.Ends before before (storing.notice before ++ [failure error])
  | stored {object : α} (room : storing.hasRoom before = true)
      (found : storing.source = .ok object) :
      storing.Ends before (storing.stored before object)
        (storing.notice before ++ storing.news object)

theorem Ends.eq_stored {before after : Workspace} {added : List Record}
    (ends : storing.Ends before after added) (room : storing.hasRoom before = true)
    (found : storing.source = .ok object) : after = storing.stored before object := by
  cases ends with
  | missing first absent | unreadable later room absent =>
      rw [absent] at found
      cases found
  | refused occupied chosen | kept occupied chosen =>
      simp [hasRoom, occupied, chosen, ExistsPolicy.replaces] at room
  | stored room also =>
      rw [also] at found
      cases found
      rfl

theorem perform_of_first (first : storing.looksFirst = true) (scene : Scene) :
    storing.perform scene =
      .attempt scene storing.source fun object => storing.guarded scene (storing.store object) :=
  if_pos first

theorem perform_of_later (later : storing.looksFirst = false) (scene : Scene) :
    storing.perform scene = storing.guarded scene fun scene =>
      .attempt scene storing.source fun object => storing.store object scene :=
  if_neg (by simp [later])

theorem guarded_of_room (room : storing.hasRoom scene.workspace = true)
    (rest : Scene → Performance) :
    ∃ status, status.records = scene.status.records ++ storing.notice scene.workspace ∧
      storing.guarded scene rest = rest { scene with status } := by
  simp only [guarded, ExistsPolicy.guard]
  split
  · next free =>
      refine ⟨scene.status, ?_, rfl⟩
      simp [notice, free]
  · next occupied =>
      rw [hasRoom, Bool.or_eq_true] at room
      cases chosen : storing.policy with
      | replace => exact ⟨scene.status, by simp [notice, chosen], rfl⟩
      | replaceAndWarn =>
          refine ⟨_, ?_, rfl⟩
          rw [StatusRecord.records_add, notice, if_pos ⟨by simpa using occupied, chosen⟩]
          rfl
      | warn | fail => simp [chosen, ExistsPolicy.replaces, occupied] at room

theorem guarded_of_noRoom (full : storing.hasRoom scene.workspace = false)
    (rest : Scene → Performance) :
    storing.isInUse scene.workspace = true ∧
      ((storing.policy = .warn ∧ storing.guarded scene rest =
          .done (scene.report .warning storing.keptText
            (some "Free the existing object or use a different ID"))) ∨
        storing.policy = .fail ∧
          storing.guarded scene rest = .failed scene storing.inTheWay) := by
  rw [hasRoom, Bool.or_eq_false_iff, Bool.not_eq_false'] at full
  refine ⟨full.1, ?_⟩
  simp only [guarded, ExistsPolicy.guard, full.1, Bool.true_eq_false, if_false]
  cases chosen : storing.policy with
  | warn => exact .inl ⟨rfl, rfl⟩
  | fail => exact .inr ⟨rfl, rfl⟩
  | replace | replaceAndWarn => simp [chosen, ExistsPolicy.replaces] at full

theorem ends_guarded {rest : Scene → Performance}
    (behind : storing.hasRoom scene.workspace = true → ∀ status, ∃ added,
      (Run.conclude (rest { scene with status })).status.records = status.records ++ added ∧
        storing.Ends scene.workspace (Run.conclude (rest { scene with status })).workspace
          (storing.notice scene.workspace ++ added)) :
    ∃ added, (Run.conclude (storing.guarded scene rest)).status.records =
        scene.status.records ++ added ∧
      storing.Ends scene.workspace (Run.conclude (storing.guarded scene rest)).workspace added := by
  cases room : storing.hasRoom scene.workspace with
  | true =>
      obtain ⟨status, noticed, goesOn⟩ := guarded_of_room room rest
      obtain ⟨added, records, ends⟩ := behind room status
      rw [goesOn]
      exact ⟨_, by rw [records, noticed, List.append_assoc], ends⟩
  | false =>
      obtain ⟨occupied, ⟨keeps, same⟩ | ⟨fails, same⟩⟩ := guarded_of_noRoom room rest
      · rw [same]
        refine ⟨[storing.keptNotice], ?_, .kept occupied keeps⟩
        simp [Run.conclude, done, Scene.report, keptNotice]
      · rw [same]
        refine ⟨[failure storing.inTheWay], ?_, .refused occupied fails⟩
        simp [Run.conclude, failed, Scene.fail, Scene.report, failure]

theorem ends_store (room : storing.hasRoom scene.workspace = true)
    (found : storing.source = .ok object) (status : StatusRecord) :
    ∃ added, (Run.conclude (storing.store object { scene with status })).status.records =
        status.records ++ added ∧
      storing.Ends scene.workspace
        (Run.conclude (storing.store object { scene with status })).workspace
        (storing.notice scene.workspace ++ added) := by
  have stores := Ends.stored room found
  refine ⟨storing.news object, ?_, ?_⟩
  · rw [store, news]
    cases storing.message? object <;> simp [Run.conclude, done, Scene.withWorkspace, Scene.inform,
      Scene.report]
  · rw [store]
    cases storing.message? object <;> exact stores

/-- The command ends in one of these ways. -/
theorem ends_perform (storing : Storing α) (scene : Scene) :
    ∃ added, (Run.conclude (storing.perform scene)).status.records =
        scene.status.records ++ added ∧
      storing.Ends scene.workspace (Run.conclude (storing.perform scene)).workspace added := by
  cases order : storing.looksFirst with
  | true =>
      rw [perform_of_first order]
      cases found : storing.source with
      | error error =>
          refine ⟨[failure error], ?_, .missing order found⟩
          simp [attempt, Run.conclude, failed, Scene.fail, Scene.report, failure]
      | ok object =>
          rw [attempt_ok]
          exact ends_guarded fun room => ends_store room found
  | false =>
      rw [perform_of_later order]
      refine ends_guarded fun room status => ?_
      cases found : storing.source with
      | error error =>
          refine ⟨[failure error], ?_, .unreadable order room found⟩
          simp [attempt, Run.conclude, failed, Scene.fail, Scene.report, failure]
      | ok object =>
          rw [attempt_ok]
          exact ends_store room found status

end Storing

/-- A known command stores an object, as its validated parameters say. -/
inductive Describes (scene : Scene) (parameters : ParameterSet) :
    CommandKind → {α : Type} → Storing α → Prop where
  | readLayer {path : FilePath} {id : String} {policy : ExistsPolicy}
      (file : ParameterSet.path? parameters "InputFile" = some path)
      (named : ParameterSet.text? parameters "GeoLayerID" = some id)
      (chosen : ParameterSet.text? parameters layerPolicy = some policy.name) :
      Describes scene parameters
        (.known ReadGeoLayer.definition (.action unchecked ReadGeoLayer.perform))
        { collection := .layers
          id
          policy
          source := (ReadGeoLayer.document scene.files path).map fun document =>
            { id
              name := (ParameterSet.text? parameters "Name").getD id
              description := (ParameterSet.text? parameters "Description").getD ""
              source := some path
              document }
          looksFirst := false
          inTheWay := .layerExists id
          message? := fun layer =>
            some s!"Read GeoLayer `{id}` with {layer.featureCount} features" }
  | copyLayer {id copyId : String} {policy : ExistsPolicy}
      (named : ParameterSet.text? parameters "GeoLayerID" = some id)
      (copied : ParameterSet.text? parameters "CopiedGeoLayerID" = some copyId)
      (chosen : ParameterSet.text? parameters layerPolicy = some policy.name) :
      Describes scene parameters
        (.known CopyGeoLayer.definition (.action unchecked CopyGeoLayer.perform))
        { collection := .layers
          id := copyId
          policy
          source := (scene.workspace.layer id).map fun layer => { layer with id := copyId }
          looksFirst := true
          inTheWay := .layerExists copyId
          message? := fun _ => none }
  | readTable {path : FilePath} {id : String} {policy : ExistsPolicy} {delimiter : UInt8}
      (file : ParameterSet.path? parameters "InputFile" = some path)
      (named : ParameterSet.text? parameters "TableID" = some id)
      (cuts : Delimiter.ofParameters parameters = .ok delimiter)
      (chosen : ParameterSet.text? parameters ReadTable.policy = some policy.name) :
      Describes scene parameters
        (.known ReadTable.definition (.action ReadTable.problems ReadTable.perform))
        { collection := .tables
          id
          policy
          source := (Table.read scene.files path id delimiter
            (ReadTable.headerLines parameters)).mapError (.delimited path)
          looksFirst := false
          inTheWay := .tableExists id
          message? := fun table => some s!"Read table `{id}` with {table.rows.length} rows" }

/-- What a command that stores an object does with validated parameters. -/
theorem act_of_describes {α : Type} {storing : Storing α} {setting : Run.Setting}
    {command : Command} {scene : Scene} {parameters : ParameterSet} (status : StatusRecord)
    (describes : Describes scene parameters command.kind storing) :
    Run.act setting command setting.surroundings parameters { scene with status } =
      storing.perform { scene with status } := by
  rw [Run.act]
  generalize command.kind = kind at describes
  cases describes with
  | @readLayer path id policy file named chosen =>
      simp only [ReadGeoLayer.perform, path_of_path? file, text_of_text? named,
        ExistsPolicy.ofParameters_of_name chosen, attempt_ok]
      rw [Storing.perform_of_later rfl]
      refine ExistsPolicy.guard_congr fun status => ?_
      dsimp only
      cases ReadGeoLayer.document scene.files path with
      | error problem => rfl
      | ok document => rfl
  | @copyLayer id copyId policy named copied chosen =>
      simp only [CopyGeoLayer.perform, text_of_text? named, text_of_text? copied,
        ExistsPolicy.ofParameters_of_name chosen, attempt_ok]
      rw [Storing.perform_of_first rfl]
      cases scene.workspace.layer id with
      | error problem => rfl
      | ok layer => rfl
  | @readTable path id policy delimiter file named cuts chosen =>
      simp only [ReadTable.perform, path_of_path? file, text_of_text? named, cuts,
        Except.mapError, ExistsPolicy.ofParameters_of_name chosen, attempt_ok]
      rw [Storing.perform_of_later rfl]
      refine ExistsPolicy.guard_congr fun status => ?_
      dsimp only
      cases found : Table.read scene.files path id delimiter
          (ReadTable.headerLines parameters) with
      | error problem => rfl
      | ok table =>
          obtain ⟨rfl, -⟩ := Table.isCovered_of_read found
          rfl

theorem workspace_execute {α : Type} {storing : Storing α} {command : Command}
    {scene prepared : Scene} {parameters : ParameterSet} {object : α} (setting : Run.Setting)
    (accepted : Run.prepare scene command = (prepared, some parameters))
    (describes : Describes scene parameters command.kind storing)
    (room : storing.hasRoom scene.workspace = true) (found : storing.source = .ok object) :
    (Run.execute setting command scene).workspace = storing.stored scene.workspace object := by
  obtain rfl := Run.prepared_eq accepted
  rw [Run.execute, accepted]
  dsimp only
  rw [act_of_describes _ describes]
  obtain ⟨added, -, ends⟩ := storing.ends_perform
    { scene with status := scene.status.promote .validation .success }
  exact ends.eq_stored room found

/-- A setting in which no command file can be run. -/
def alone : Run.Setting where
  surroundings := ⟨0, {}, 0⟩
  runFile _ _ scene := .done scene

end Builtin

end Workflow
