import Workflow.Proofs.Builtin.Storing
import Workflow.Proofs.Run.Acceptance
import Workflow.Proofs.Run.Changes
import Workflow.Proofs.Text.Searching

/-!
# Freeing geolayers

Geolayers are freed by their ids, with commas between them.  The ids of a workspace that a session
can come to are given identifiers, so they are items as they stand unless one of them holds a comma.
Then, and only then, what is freed are exactly the geolayers that are named; apart from that a
single star stands for all of them.
-/

namespace Workflow

/-! ## Ids in reachable workspaces -/

/-- A workspace that a session can come to, behind an operation or in front of a command of a
run. -/
inductive Workspace.IsReachable : Workspace → Prop where
  | behind {processor : Processor} (reachable : processor.Reachable) :
      IsReachable processor.workspace
  | inRun {processor : Processor} {files : FileSystem} {chosen : Nat → Bool} {stride : Run.Stride}
      (reachable : processor.Reachable)
      (member : stride ∈ processor.trace processor.runFile files chosen) :
      IsReachable stride.before.workspace

theorem Workspace.IsReachable.isMade {workspace : Workspace} (reachable : workspace.IsReachable) :
    workspace.IsMade := by
  cases reachable with
  | behind reachable => exact reachable.isBuiltin_and_isMade.2
  | inRun reachable member => exact reachable.isMade_before member

/-- All geolayers are stored under given identifiers. -/
def Workspace.HasGivenIds (workspace : Workspace) : Prop :=
  ∀ id ∈ workspace.layers.keys, Identifier.IsGiven id

namespace Workspace.HasGivenIds

variable {workspace before after : Workspace}

theorem addLayer (given : workspace.HasGivenIds) {layer : GeoLayer}
    (own : Identifier.IsGiven layer.id) : (workspace.addLayer layer).HasGivenIds := by
  intro id member
  obtain ⟨entry, stored, rfl⟩ := List.mem_map.mp member
  rcases OrderedMap.mem_write stored with rfl | kept
  · exact own
  · exact given _ (List.mem_map_of_mem kept)

theorem eraseLayer (given : workspace.HasGivenIds) (id : String) :
    HasGivenIds { workspace with layers := workspace.layers.erase id } := by
  intro other member
  obtain ⟨entry, stored, rfl⟩ := List.mem_map.mp member
  exact given _ (List.mem_map_of_mem (List.mem_of_mem_filter stored))

theorem of_change (change : Change before after) (given : before.HasGivenIds) :
    after.HasGivenIds := by
  cases change with
  | setProperty | readTable | eraseTable => exact given
  | readLayer own => exact given.addLayer own
  | copyLayer own => exact given.addLayer own
  | eraseLayer id => exact given.eraseLayer id
  | clearLayers => exact List.forall_mem_nil _

end Workspace.HasGivenIds

theorem Workspace.IsReachable.hasGivenIds {workspace : Workspace}
    (reachable : workspace.IsReachable) : workspace.HasGivenIds := by
  obtain ⟨properties, becomes⟩ := reachable.isMade
  exact becomes.keeps HasGivenIds.of_change (List.forall_mem_nil _)

theorem Identifier.IsGiven.isItem {id : String} (given : IsGiven id) (noComma : ',' ∉ id.toList) :
    Text.IsItem id where
  nonempty := (fault?_eq_none_iff.mp (Option.isNone_iff_eq_none.mp given.valid)).1
  trimmed := given.trimmed
  noComma := noComma

namespace Builtin.FreeGeoLayers

variable {scene : Scene} {command : Command} {text : String} {ids : List String}

/-! ## One geolayer after the other -/

/-- Ids of different geolayers that are there are freed one after the other. -/
theorem foldl_free_eq (distinct : ids.Nodup)
    (stored : ∀ id ∈ ids, scene.workspace.layers.contains id = true) :
    ids.foldl free scene = scene.withWorkspace
      { scene.workspace with layers := scene.workspace.layers.without ids } := by
  induction ids generalizing scene with
  | nil =>
      rw [OrderedMap.without_nil]
      rfl
  | cons id ids ih =>
      obtain ⟨other, distinct⟩ := List.nodup_cons.mp distinct
      obtain ⟨here, later⟩ := List.forall_mem_cons.mp stored
      have freed : free scene id = scene.withWorkspace
          { scene.workspace with layers := scene.workspace.layers.erase id } := if_pos here
      rw [List.foldl_cons, freed, ih distinct]
      · rw [← OrderedMap.without_erase]
        rfl
      · intro next member
        have differs : next ≠ id := fun same => other (same ▸ member)
        exact OrderedMap.contains_erase_iff.mpr ⟨later next member, differs⟩

/-- A geolayer stays if its id is none of those that are freed. -/
theorem contains_foldl_free {id : String} (absent : id ∉ ids)
    (stored : scene.workspace.layers.contains id = true) :
    (ids.foldl free scene).workspace.layers.contains id = true := by
  induction ids generalizing scene with
  | nil => exact stored
  | cons first ids ih =>
      obtain ⟨differs, absent⟩ := List.ne_and_not_mem_of_not_mem_cons absent
      refine ih absent ?_
      rw [free]
      split
      · exact OrderedMap.contains_erase_iff.mpr ⟨stored, differs⟩
      · exact stored

/-! ## The ids in a text -/

/-- The parameter of the command. -/
def idsParameter : Parameter where
  name := "GeoLayerIDs"
  required := true
  description := some "Comma-separated IDs, or * for all"

/-- A command asks for the geolayers in a text to be freed. -/
structure Asks (scene : Scene) (command : Command) (text : String) : Prop where
  kind : command.kind = .known definition (.action unchecked perform)
  known : ∀ key ∈ command.parameters.keys, definition.recognizes key = true
  named : (Run.expanded scene.workspace command).get? idsParameter.name = some text

/-- The scene with nothing recorded of the command but that it was validated. -/
def validated (scene : Scene) : Scene :=
  { scene with status := scene.status.promote .validation .success }

theorem Asks.execute_eq (asks : Asks scene command text) (visible : ¬Text.AllBlank text.toList)
    (setting : Run.Setting) :
    Run.execute setting command scene = Run.conclude
      (if Text.trim text.toList = ['*'] then
        .done ((validated scene).withWorkspace { scene.workspace with layers := .empty })
      else .done ((Text.items text).foldl free (validated scene))) := by
  have given : Run.Given scene command idsParameter (.text text) :=
    Validation.given_of_freeText rfl rfl asks.named visible
  have distinct : definition.parameterNames.Nodup := by decide
  obtain ⟨parameters, accepted, held⟩ := Run.exists_validate_of_given distinct asks.known
    (List.forall_mem_singleton.mpr ⟨_, given⟩)
  have named : ParameterSet.text? parameters "GeoLayerIDs" = some text :=
    congrArg (Option.bind · Value.text?) (held idsParameter (by decide) _ given)
  rw [Run.execute, Run.prepare_of_validated asks.kind accepted rfl]
  dsimp only
  rw [Run.act, asks.kind]
  dsimp only
  rw [perform, ParameterSet.text_of_text? named, Performance.attempt_ok]
  rfl

/-- The only joined identifiers that stand for all geolayers are the star alone. -/
theorem trim_intercalate_eq_star_iff (nonempty : ids ≠ [])
    (given : ∀ id ∈ ids, Identifier.IsGiven id) :
    Text.trim (",".intercalate ids).toList = ['*'] ↔ ids = ["*"] := by
  constructor
  · intro star
    have noComma : (",".intercalate ids).toList.count ',' = 0 := by
      rw [← Text.count_trim (by decide), star]
      rfl
    cases ids with
    | nil => exact absurd rfl nonempty
    | cons first others =>
        cases others with
        | nil =>
            rw [String.intercalate_singleton, ← Text.toList_trimmed,
              (given first List.mem_cons_self).trimmed] at star
            have same : first = "*" := String.toList_inj.mp star
            rw [same]
        | cons second others =>
            rw [String.intercalate_cons_cons, String.toList_append, String.toList_append,
              List.count_append, List.count_append] at noComma
            have comma : ",".toList.count ',' = 1 := rfl
            omega
  · rintro rfl
    decide +kernel

theorem not_allBlank_intercalate (nonempty : ids ≠ [])
    (given : ∀ id ∈ ids, Identifier.IsGiven id) :
    ¬Text.AllBlank (",".intercalate ids).toList := by
  obtain ⟨id, member⟩ := List.exists_mem_of_ne_nil ids nonempty
  have isGiven := given id member
  intro blank
  have nothing : Text.trim id.toList = [] :=
    Text.trim_eq_nil_iff.mpr fun c inside => blank c (Text.mem_intercalate member inside)
  rw [← Text.toList_trimmed, isGiven.trimmed, String.toList_eq_nil_iff] at nothing
  have valid := isGiven.valid
  rw [nothing] at valid
  exact absurd valid (by decide)

/-- Joined ids without commas are freed like the ids themselves. -/
theorem foldl_items_eq (distinct : ids.Nodup)
    (stored : ∀ id ∈ ids, scene.workspace.layers.contains id = true)
    (given : ∀ id ∈ ids, Identifier.IsGiven id) (noComma : ∀ id ∈ ids, ',' ∉ id.toList) :
    (Text.items (",".intercalate ids)).foldl free scene = scene.withWorkspace
      { scene.workspace with layers := scene.workspace.layers.without ids } := by
  rw [Text.items_intercalate fun id member => (given id member).isItem (noComma id member)]
  exact foldl_free_eq distinct stored

/-- If joined ids are freed, none of them holds a comma. -/
theorem noComma_of_freed (stored : ∀ id ∈ ids, scene.workspace.layers.contains id = true)
    (freed : ((Text.items (",".intercalate ids)).foldl free scene).workspace.layers =
      scene.workspace.layers.without ids) : ∀ id ∈ ids, ',' ∉ id.toList := by
  intro id member comma
  -- an item holds no comma, and so the geolayer stays
  have absent : id ∉ Text.items (",".intercalate ids) :=
    fun item => (Text.isItem_of_mem_items item).noComma comma
  have stays := contains_foldl_free absent (stored id member)
  rw [freed] at stays
  exact (OrderedMap.contains_without_iff.mp stays).2 member

theorem without_eq_empty_iff_keys_eq {α : Type} {map : OrderedMap α} {key : String}
    (named : key ∈ map.keys) : map.without [key] = .empty ↔ map.keys = [key] := by
  rw [OrderedMap.without_eq_empty_iff]
  constructor
  · intro same
    have copies := List.eq_replicate_of_mem fun other member =>
      List.mem_singleton.mp (same other member)
    have distinct : map.keys.Nodup := map.distinct
    rw [copies, List.nodup_replicate] at distinct
    have some := List.length_pos_of_mem named
    have one : map.keys.length = 1 := by omega
    rw [copies, one, List.replicate_one]
  · intro only other member
    rwa [only] at member

/-- A command that is given the ids of some geolayers in a reachable workspace frees exactly these
geolayers, without any record, if and only if none of the ids holds a comma and they are not the
star alone among others. -/
theorem frees_exactly_iff (setting : Run.Setting) (reachable : scene.workspace.IsReachable)
    (nonempty : ids ≠ []) (distinct : ids.Nodup)
    (stored : ∀ id ∈ ids, id ∈ scene.workspace.layers.keys)
    (asks : Asks scene command (",".intercalate ids)) :
    Run.execute setting command scene =
        { scene.withWorkspace
            { scene.workspace with layers := scene.workspace.layers.without ids } with
          status := (scene.status.promote .validation .success).promote .run .success } ↔
      (∀ id ∈ ids, ',' ∉ id.toList) ∧ (ids = ["*"] → scene.workspace.layers.keys = ["*"]) := by
  have given : ∀ id ∈ ids, Identifier.IsGiven id :=
    fun id member => reachable.hasGivenIds id (stored id member)
  have present : ∀ id ∈ ids, (validated scene).workspace.layers.contains id = true :=
    fun id member => OrderedMap.contains_iff_mem_keys.mpr (stored id member)
  rw [asks.execute_eq (not_allBlank_intercalate nonempty given)]
  have star := trim_intercalate_eq_star_iff nonempty given
  split
  · next all =>
      obtain rfl := star.mp all
      have only := without_eq_empty_iff_keys_eq (stored "*" (List.mem_singleton_self _))
      constructor
      · intro same
        have layers : OrderedMap.empty = scene.workspace.layers.without ["*"] :=
          congrArg (fun scene : Scene => scene.workspace.layers) same
        exact ⟨by decide, fun _ => only.mp layers.symm⟩
      · rintro ⟨-, keys⟩
        rw [only.mpr (keys rfl)]
        rfl
  · next notAll =>
      constructor
      · intro same
        have layers : ((Text.items (",".intercalate ids)).foldl free
            (validated scene)).workspace.layers = scene.workspace.layers.without ids :=
          congrArg (fun scene : Scene => scene.workspace.layers) same
        exact ⟨noComma_of_freed present layers, fun only => absurd (star.mpr only) notAll⟩
      · rintro ⟨noComma, -⟩
        rw [foldl_items_eq distinct present given noComma]
        rfl

/-- A file with a bare geometry. -/
def pointFiles : FileSystem :=
  { FileSystem.empty [] "/" with
    files := [(["p.json"], "\x7b\"type\":\"Point\"\x7d".toUTF8)] }

/-- A processor that has read a geolayer and copied it twice. -/
def layered : Processor :=
  ((Processor.create registry {} pointFiles 0).loadText
    "ReadGeoLayerFromGeoJSON(InputFile=p.json,GeoLayerID=a)
CopyGeoLayer(GeoLayerID=a,CopiedGeoLayerID=b)
CopyGeoLayer(GeoLayerID=a,CopiedGeoLayerID=c)").runAll pointFiles |>.processor

/-- A scene in front of a command. -/
def sceneWith (workspace : Workspace) : Scene where
  workspace := workspace
  files := pointFiles
  cancelled := false
  haltOnFailure := false
  exitRequested := false
  status := .fresh

theorem workspace_sceneWith (workspace : Workspace) : (sceneWith workspace).workspace = workspace :=
  rfl

/-- A line that frees two geolayers. -/
def freeingLine : Command where
  name := "FreeGeoLayers"
  line := 1
  text := "FreeGeoLayers(GeoLayerIDs=\"c,a\")"
  parameters := .ofList [("GeoLayerIDs", "c,a")]
  kind := .known definition (.action unchecked perform)

theorem frees_exactly_iff_layered :
    layered.Reachable ∧ layered.workspace.layers.keys = ["a", "b", "c"] ∧
      (Run.execute alone freeingLine (sceneWith layered.workspace)).workspace.layers.keys =
        ["b"] ∧
      (Run.execute alone freeingLine (sceneWith layered.workspace)).status.records = [] := by
  have session : layered.Reachable := by
    rw [layered]
    exact .ranAll _ (.loadedText _ (.created _ _ _))
  have keys : layered.workspace.layers.keys = ["a", "b", "c"] := by decide +kernel
  have reachable : (sceneWith layered.workspace).workspace.IsReachable := by
    rw [workspace_sceneWith]
    exact .behind session
  have stored : ∀ id ∈ ["c", "a"], id ∈ (sceneWith layered.workspace).workspace.layers.keys := by
    rw [workspace_sceneWith, keys]
    decide
  have asks : Asks (sceneWith layered.workspace) freeingLine (",".intercalate ["c", "a"]) :=
    ⟨rfl, by decide, Run.get?_expanded rfl (by decide) _⟩
  have frees := (frees_exactly_iff alone reachable (by decide) (by decide) stored asks).mpr
    ⟨by decide, nofun⟩
  have left := OrderedMap.keys_without layered.workspace.layers ["c", "a"]
  rw [keys] at left
  refine ⟨session, keys, ?_, ?_⟩
  · rw [frees]
    exact left.trans (by decide)
  · rw [frees]
    rfl

/-- Two lines that read a geolayer under an id with a comma and free it. -/
def commaInId : Processor.Run :=
  ((Processor.create registry {} pointFiles 0).loadText
    "ReadGeoLayerFromGeoJSON(InputFile=p.json,GeoLayerID=\"a,b\")
FreeGeoLayers(GeoLayerIDs=\"a,b\")").runAll pointFiles

/-- The geolayer is there, and it is taken for two others that are not. -/
theorem id_with_comma_not_freed :
    commaInId.processor.workspace.layers.keys = ["a,b"] ∧
      (commaInId.result.outcomes.map fun outcome => (outcome.status, outcome.messages)) =
        [(.success, ["SUCCESS: Read GeoLayer `a,b` with 1 features"]),
          (.warning, ["WARNING: GeoLayer `a` does not exist (Check the GeoLayer ID)",
            "WARNING: GeoLayer `b` does not exist (Check the GeoLayer ID)"])] := by
  decide +kernel

end Builtin.FreeGeoLayers

end Workflow
