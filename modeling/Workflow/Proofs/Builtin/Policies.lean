import Workflow.Proofs.Builtin.Storing
import Workflow.Proofs.Run.Acceptance

/-!
# Policies about objects in the way

A command that stores an object does what its policy says: it stores the new object if there is
room for it and it can be had, and otherwise it leaves the workspace alone.  A warning that the
object in the way was kept is always true.  A warning that it was replaced is true of the copy,
which has its geolayer at hand; a command that reads a file may give the warning and then find
nothing to replace the object with.
-/

namespace Workflow.Builtin

open Validation (exists_path?_of_ensures exists_text?_of_ensures)

/-- Whether some warning among the records has the given text. -/
def IsWarned (records : List Record) (text : String) : Prop :=
  ∃ record ∈ records, record.severity = .warning ∧ record.problem = text

@[simp] theorem isWarned_append_iff {first second : List Record} {text : String} :
    IsWarned (first ++ second) text ↔ IsWarned first text ∨ IsWarned second text := by
  simp [IsWarned, or_and_right, exists_or]

namespace Storing

variable {α : Type} {storing : Storing α} {before after : Workspace} {added : List Record}
  {object : α}

/-- What the policy promises about the objects of a workspace. -/
structure Honors (storing : Storing α) (before after : Workspace) : Prop where
  /-- The new object is stored if there is room for it, and nothing else is changed. -/
  stores : ∀ object, storing.hasRoom before = true → storing.source = .ok object →
    (storing.collection.objects after).get? storing.id = some object ∧
      after = storing.collection.withObjects before (storing.collection.objects after)
  /-- Without room or without a new object nothing is changed. -/
  keeps : (storing.hasRoom before = false ∨ ∃ error, storing.source = .error error) →
    after = before
  /-- All other objects are there in the same order. -/
  others : (storing.collection.objects after).entries.filter (·.1 != storing.id) =
    (storing.collection.objects before).entries.filter (·.1 != storing.id)

/-- Whether an object in the way is replaced under the policy that warns about it. -/
def Replaces (storing : Storing α) (before : Workspace) : Prop :=
  storing.isInUse before = true ∧ storing.policy = .replaceAndWarn ∧
    ∃ object, storing.source = .ok object

/-- Whether an object in the way would be replaced if only there were a new one. -/
def Misses (storing : Storing α) (before : Workspace) : Prop :=
  storing.isInUse before = true ∧ storing.policy = .replaceAndWarn ∧
    ∃ error, storing.source = .error error

theorem honors_of_ends (ends : storing.Ends before after added) : storing.Honors before after where
  stores object room found := by
    obtain rfl := ends.eq_stored room found
    rw [objects_stored, OrderedMap.get?_insert, if_pos rfl]
    exact ⟨rfl, rfl⟩
  keeps none := by
    cases ends with
    | missing | refused | kept | unreadable => rfl
    | stored room found =>
        rw [room, found] at none
        rcases none with full | ⟨error, missing⟩
        · cases full
        · cases missing
  others := by
    cases ends with
    | missing | refused | kept | unreadable => rfl
    | stored room found =>
        rw [objects_stored]
        exact OrderedMap.filter_write ..

theorem keptText_ne_replacedText (storing : Storing α) :
    storing.keptText ≠ storing.replacedText := by
  intro same
  exact absurd ((String.append_right_inj _).mp same) (by decide)

@[simp] theorem isWarned_failure (error : Error) (text : String) :
    ¬IsWarned [failure error] text := by
  rintro ⟨record, member, severity, -⟩
  rw [List.mem_singleton.mp member] at severity
  cases severity

@[simp] theorem isWarned_news (object : α) (text : String) :
    ¬IsWarned (storing.news object) text := by
  rintro ⟨record, member, severity, -⟩
  obtain ⟨message, -, rfl⟩ := List.mem_map.mp member
  cases severity

@[simp] theorem isWarned_keptNotice_iff {text : String} :
    IsWarned [storing.keptNotice] text ↔ storing.keptText = text := by
  simp [IsWarned, keptNotice]

@[simp] theorem isWarned_notice_iff {text : String} :
    IsWarned (storing.notice before) text ↔
      storing.isInUse before = true ∧ storing.policy = .replaceAndWarn ∧
        storing.replacedText = text := by
  rw [notice]
  split
  · next both => simp [IsWarned, both]
  · next neither =>
      refine iff_of_false (by simp [IsWarned]) ?_
      rintro ⟨occupied, chosen, -⟩
      exact neither ⟨occupied, chosen⟩

/-- The warning that an object was kept is true. -/
theorem kept_of_isWarned (ends : storing.Ends before after added)
    (warned : IsWarned added storing.keptText) :
    storing.isInUse before = true ∧ after = before := by
  have other := storing.keptText_ne_replacedText.symm
  cases ends with
  | missing first absent => simp at warned
  | refused occupied fails => exact ⟨occupied, rfl⟩
  | kept occupied keeps => exact ⟨occupied, rfl⟩
  | unreadable later room absent => simp [other] at warned
  | stored room found => simp [other] at warned

/-- The warning that an object was replaced is given once the command comes to its policy, which
the copy only does with its geolayer at hand. -/
theorem isWarned_replaced_iff (ends : storing.Ends before after added) :
    IsWarned added storing.replacedText ↔
      storing.isInUse before = true ∧ storing.policy = .replaceAndWarn ∧
        (storing.looksFirst = true → ∃ object, storing.source = .ok object) := by
  have other := storing.keptText_ne_replacedText
  cases ends with
  | missing first absent => simp [first, absent]
  | refused occupied chosen => simp [chosen]
  | kept occupied chosen => simp [chosen, other]
  | unreadable later room absent => simp [later]
  | stored room found => simp [found]

/-- The warning that an object was replaced is there exactly if one was, unless the command did not
look first and there is none to replace it with. -/
theorem truthful_iff (ends : storing.Ends before after added) :
    (IsWarned added storing.replacedText ↔ storing.Replaces before) ↔
      storing.looksFirst = true ∨ ¬storing.Misses before := by
  rw [isWarned_replaced_iff ends, Replaces, Misses]
  cases storing.source with
  | ok object => simp
  | error error => cases storing.looksFirst <;> simp

end Storing

/-! ## Commands that store objects -/

/-- The commands that store an object under an id. -/
inductive StoresObjects : CommandKind → Prop where
  | readLayer : StoresObjects
      (.known ReadGeoLayer.definition (.action unchecked ReadGeoLayer.perform))
  | copyLayer : StoresObjects
      (.known CopyGeoLayer.definition (.action unchecked CopyGeoLayer.perform))
  | readTable : StoresObjects
      (.known ReadTable.definition (.action ReadTable.problems ReadTable.perform))

theorem exists_policy_of_validate {place : Validation.Place} {raw : OrderedMap String}
    {definition : Definition} {parameters : ParameterSet} (name : String)
    (distinct : definition.parameterNames.Nodup)
    (validated : validate place definition raw = .ok parameters)
    (asked : ExistsPolicy.parameter name ∈ definition.parameters) :
    ∃ policy : ExistsPolicy, ParameterSet.text? parameters name = some policy.name := by
  obtain ⟨value, ⟨text, -, accepts⟩, held⟩ :=
    Validation.exists_given_of_validate distinct validated asked rfl
  have own : (ExistsPolicy.parameter name).name = name := rfl
  rw [own] at held
  rw [ParameterSet.text?, held]
  rcases accepts with ⟨none, -, -⟩ | ⟨none, -, -⟩ | ⟨among, others, same, spells⟩
  · cases none
  · cases none
  · have member := among ▸ List.mem_append_right _ List.mem_cons_self
    obtain ⟨policy, rfl⟩ := ExistsPolicy.exists_name_of_mem member
    cases spells
    exact ⟨policy, rfl⟩

theorem exists_describes {scene prepared : Scene} {command : Command} {parameters : ParameterSet}
    (stores : StoresObjects command.kind)
    (accepted : Run.prepare scene command = (prepared, some parameters)) :
    ∃ (α : Type) (storing : Storing α), Describes scene parameters command.kind storing := by
  generalize known : command.kind = kind at stores
  cases stores with
  | readLayer =>
      have distinct : ReadGeoLayer.definition.parameterNames.Nodup := by decide
      obtain ⟨validated, -⟩ := Run.validated_of_accepted known accepted
      obtain ⟨path, file⟩ := exists_path?_of_ensures "InputFile" distinct validated (by decide)
      obtain ⟨id, named⟩ := exists_text?_of_ensures "GeoLayerID" distinct validated
        (by decide)
      obtain ⟨policy, chosen⟩ := exists_policy_of_validate layerPolicy distinct validated
        (by decide)
      exact ⟨_, _, .readLayer file named chosen⟩
  | copyLayer =>
      have distinct : CopyGeoLayer.definition.parameterNames.Nodup := by decide
      obtain ⟨validated, -⟩ := Run.validated_of_accepted known accepted
      obtain ⟨id, named⟩ := exists_text?_of_ensures "GeoLayerID" distinct validated
        (by decide)
      obtain ⟨copyId, copied⟩ := exists_text?_of_ensures "CopiedGeoLayerID" distinct validated
        (by decide)
      obtain ⟨policy, chosen⟩ := exists_policy_of_validate layerPolicy distinct validated
        (by decide)
      exact ⟨_, _, .copyLayer named copied chosen⟩
  | readTable =>
      have distinct : ReadTable.definition.parameterNames.Nodup := by decide
      obtain ⟨validated, fine⟩ := Run.validated_of_accepted known accepted
      obtain ⟨path, file⟩ := exists_path?_of_ensures "InputFile" distinct validated (by decide)
      obtain ⟨id, named⟩ := exists_text?_of_ensures "TableID" distinct validated
        (by decide)
      obtain ⟨policy, chosen⟩ := exists_policy_of_validate ReadTable.policy distinct validated
        (by decide)
      obtain ⟨delimiter, cuts⟩ :=
        Delimiter.exists_ofParameters_eq (List.append_eq_nil_iff.mp fine).1
      exact ⟨_, _, .readTable file named cuts chosen⟩

/-- A command that stores an object honors its policy.  If it is refused, nothing is changed and no
warning is given.  Otherwise it stores the new object exactly if there is room for it and the object
can be had, all other objects stay in their order, and a warning that an object was kept is true.
A warning that an object was replaced is given exactly if one was, unless the command comes to its
policy before it finds that there is nothing to replace the object with. -/
theorem execute_honors_policy (setting : Run.Setting) {command : Command}
    (stores : StoresObjects command.kind) (scene : Scene) :
    ∃ added, (Run.execute setting command scene).status.records = scene.status.records ++ added ∧
      ((Run.prepare scene command).2 = none →
        (Run.execute setting command scene).workspace = scene.workspace ∧
          ∀ text, ¬IsWarned added text) ∧
      ∀ parameters, (Run.prepare scene command).2 = some parameters →
        ∃ (α : Type) (storing : Storing α), Describes scene parameters command.kind storing ∧
          storing.Honors scene.workspace (Run.execute setting command scene).workspace ∧
          (IsWarned added storing.keptText → storing.isInUse scene.workspace = true ∧
            (Run.execute setting command scene).workspace = scene.workspace) ∧
          ((IsWarned added storing.replacedText ↔ storing.Replaces scene.workspace) ↔
            storing.looksFirst = true ∨ ¬storing.Misses scene.workspace) := by
  rw [Run.execute]
  split
  · next prepared refused =>
      obtain ⟨added, records, failures⟩ := Run.exists_records_of_refused refused
      obtain ⟨status, same⟩ := Run.prepare_eq scene command
      rw [refused] at same ⊢
      obtain rfl : prepared = { scene with status } := same
      refine ⟨added, records, fun _ => ⟨rfl, ?_⟩, fun _ given => ?_⟩
      · rintro text ⟨record, member, severity, -⟩
        rw [failures record member] at severity
        cases severity
      · cases given
  · next prepared parameters accepted =>
      obtain ⟨α, storing, describes⟩ := exists_describes stores accepted
      obtain rfl := Run.prepared_eq accepted
      rw [accepted, act_of_describes _ describes]
      obtain ⟨added, records, ends⟩ := storing.ends_perform
        { scene with status := scene.status.promote .validation .success }
      rw [StatusRecord.records_promote] at records
      refine ⟨added, records, fun none => ?_, ?_⟩
      · cases none
      · rintro _ ⟨⟩
        exact ⟨α, storing, describes, Storing.honors_of_ends ends, Storing.kept_of_isWarned ends,
          Storing.truthful_iff ends⟩

/-- A line that reads a table under an id in use. -/
def rereading : Command where
  name := "ReadTableFromDelimitedFile"
  line := 1
  text := "ReadTableFromDelimitedFile(InputFile=t.csv,TableID=T,IfTableIDExists=replaceandwarn)"
  parameters := .ofList
    [("InputFile", "t.csv"), ("TableID", "T"), ("IfTableIDExists", "replaceandwarn")]
  kind := .known ReadTable.definition (.action ReadTable.problems ReadTable.perform)

/-- Two tables, and a file for the first of them. -/
def rereadingScene : Scene where
  workspace := { tables := .ofList [("T", ⟨"T", ["a"], [], none⟩), ("U", ⟨"U", ["u"], [], none⟩)] }
  files := { FileSystem.empty ["work"] "/home" with
    files := [(["work", "t.csv"], "a,b\n1,2\n".toUTF8)] }
  cancelled := false
  haltOnFailure := false
  exitRequested := false
  status := .fresh

theorem execute_honors_policy_rereading :
    ∃ added parameters, (Run.execute alone rereading rereadingScene).status.records = added ∧
      IsWarned added "Table `T` already exists and was replaced" ∧
      (Run.execute alone rereading rereadingScene).workspace.tables.keys = ["T", "U"] ∧
      (Run.execute alone rereading rereadingScene).workspace.tables.get? "T" =
        some ⟨"T", ["a", "b"], [["1", "2"]], some ⟨"./t.csv"⟩⟩ ∧
      ∃ (α : Type) (storing : Storing α),
        Describes rereadingScene parameters rereading.kind storing ∧
          storing.Honors rereadingScene.workspace
            (Run.execute alone rereading rereadingScene).workspace := by
  have stores : StoresObjects rereading.kind := .readTable
  obtain ⟨added, records, -, accepted⟩ := execute_honors_policy alone stores rereadingScene
  have given : (Run.prepare rereadingScene rereading).2.isSome = true := by decide +kernel
  obtain ⟨parameters, prepared⟩ := Option.isSome_iff_exists.mp given
  obtain ⟨α, storing, describes, honors, -⟩ := accepted parameters prepared
  have same : (Run.execute alone rereading rereadingScene).status.records = added := records
  refine ⟨added, parameters, same, ?_, by decide +kernel, by decide +kernel, α, storing, describes,
    honors⟩
  rw [← same, IsWarned]
  decide +kernel

/-- A line that reads a geolayer under an id in use. -/
def rereadingLayer : Command where
  name := "ReadGeoLayerFromGeoJSON"
  line := 1
  text := "ReadGeoLayerFromGeoJSON(InputFile=l.json,GeoLayerID=L,IfGeoLayerIDExists=ReplaceAndWarn)"
  parameters := .ofList
    [("InputFile", "l.json"), ("GeoLayerID", "L"), ("IfGeoLayerIDExists", "ReplaceAndWarn")]
  kind := .known ReadGeoLayer.definition (.action unchecked ReadGeoLayer.perform)

/-- A geolayer, and a file for it that cannot be read. -/
def unreadableScene : Scene where
  workspace := { layers := .ofList [("L", ⟨"L", "old", "", none, .null⟩)] }
  files := { FileSystem.empty ["work"] "/home" with
    files := [(["work", "l.json"], "no geolayer".toUTF8)] }
  cancelled := false
  haltOnFailure := false
  exitRequested := false
  status := .fresh

/-- The command warns that the geolayer was replaced, and it was not. -/
theorem warning_without_replacement :
    StoresObjects rereadingLayer.kind ∧
      (Run.execute alone rereadingLayer unreadableScene).status.records.map
          (fun record => (record.severity, record.problem)) =
        [(.warning, "GeoLayer `L` already exists and was replaced"),
          (.failure,
            "Error parsing GeoJSON file at `./l.json`: expected ident at line 1 column 2")] ∧
      ((Run.execute alone rereadingLayer unreadableScene).workspace.layers.get? "L").map (·.name) =
        some "old" :=
  ⟨.readLayer, by decide +kernel, by decide +kernel⟩

end Workflow.Builtin
