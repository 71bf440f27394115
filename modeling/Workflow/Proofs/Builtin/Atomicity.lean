import Workflow.Builtin
import Workflow.Nested
import Workflow.Proofs.Builtin.Downloads

/-!
# Commands that fail leave the workspace alone

A built-in command changes the workspace, if at all, when nothing can go wrong any more.  So the
workspace is as it was whenever the command is ended by an error or leaves a failure in its record.
-/

namespace Workflow

@[simp] theorem StatusRecord.hasFailure_promote (status : StatusRecord) (phase : Phase)
    (level : Status) : (status.promote phase level).hasFailure = status.hasFailure := by
  simp only [hasFailure, records_promote]

@[simp] theorem StatusRecord.hasFailure_add (status : StatusRecord) (record : Record) :
    (status.add record).hasFailure =
      (status.hasFailure || decide (record.severity = .failure)) := by
  simp [hasFailure]

@[simp] theorem Scene.hasFailure_report (scene : Scene) (severity : Status) (problem : String)
    (recommendation : Option String) :
    (scene.report severity problem recommendation).status.hasFailure =
      (scene.status.hasFailure || decide (severity = .failure)) := by
  simp [report]

@[simp] theorem Scene.hasFailure_inform (scene : Scene) (message : String) :
    (scene.inform message).status.hasFailure = scene.status.hasFailure := by
  simp [inform]

namespace Performance

/-- A command changes the workspace only if it comes to its end without a failure. -/
def IsAtomic (scene : Scene) (performance : Performance) : Prop :=
  performance.1.workspace = scene.workspace ∨
    (performance.2 = none ∧ performance.1.status.hasFailure = scene.status.hasFailure)

variable {scene other : Scene} {performance : Performance}

/-- A record that is not a failure may come before an atomic performance. -/
theorem IsAtomic.congr (workspace : other.workspace = scene.workspace)
    (failure : other.status.hasFailure = scene.status.hasFailure)
    (atomic : IsAtomic other performance) : IsAtomic scene performance := by
  rwa [IsAtomic, workspace, failure] at atomic

theorem isAtomic_failed (scene : Scene) (error : Error) : IsAtomic scene (failed scene error) :=
  .inl rfl

theorem isAtomic_attempt {α : Type} (result : Except Error α) {rest : α → Performance}
    (each : ∀ value, IsAtomic scene (rest value)) :
    IsAtomic scene (attempt scene result rest) := by
  cases result with
  | error error => exact isAtomic_failed scene error
  | ok value => exact each value

theorem isAtomic_guard {policy : Builtin.ExistsPolicy} {kind id : String} {inUse : Bool}
    {error : Error} {rest : Scene → Performance} (each : ∀ scene, IsAtomic scene (rest scene)) :
    IsAtomic scene (policy.guard scene kind id inUse error rest) := by
  simp only [Builtin.ExistsPolicy.guard]
  split
  · exact each scene
  · cases policy with
    | replace => exact each scene
    | replaceAndWarn =>
        apply IsAtomic.congr _ _ (each _)
        · rfl
        · simp
    | warn => exact .inl rfl
    | fail => exact isAtomic_failed scene error

end Performance

open Performance

/-- An action that changes the workspace only if it comes to its end without a failure. -/
def Action.IsAtomic (action : Action) : Prop :=
  ∀ surroundings parameters scene,
    Performance.IsAtomic scene (action surroundings parameters scene)

namespace Builtin

theorem SetProperty.isAtomic_perform : perform.IsAtomic := fun _ _ _ =>
  isAtomic_attempt _ fun _ => isAtomic_attempt _ fun _ => .inr ⟨rfl, rfl⟩

theorem Message.isAtomic_perform : perform.IsAtomic := fun _ _ _ =>
  isAtomic_attempt _ fun _ => .inl rfl

theorem ReadGeoLayer.isAtomic_perform : perform.IsAtomic := fun _ _ _ =>
  isAtomic_attempt _ fun _ => isAtomic_attempt _ fun _ => isAtomic_guard fun _ =>
    isAtomic_attempt _ fun _ => .inr ⟨rfl, Scene.hasFailure_inform _ _⟩

theorem WriteGeoLayer.isAtomic_perform : perform.IsAtomic := fun _ _ _ =>
  isAtomic_attempt _ fun _ => isAtomic_attempt _ fun _ => isAtomic_attempt _ fun _ =>
    isAtomic_attempt _ fun _ => .inl rfl

theorem CopyGeoLayer.isAtomic_perform : perform.IsAtomic := fun _ _ _ =>
  isAtomic_attempt _ fun _ => isAtomic_attempt _ fun _ => isAtomic_attempt _ fun _ =>
    isAtomic_guard fun _ => .inr ⟨rfl, rfl⟩

/-- A geolayer that is not there is not a failure. -/
theorem FreeGeoLayers.hasFailure_foldl_free (ids : List String) (scene : Scene) :
    (ids.foldl free scene).status.hasFailure = scene.status.hasFailure := by
  induction ids generalizing scene with
  | nil => rfl
  | cons id ids ih =>
      rw [List.foldl_cons, ih, free]
      split
      · rfl
      · simp

theorem FreeGeoLayers.isAtomic_perform : perform.IsAtomic := by
  intro _ parameters scene
  refine isAtomic_attempt _ fun ids => ?_
  split
  · exact .inr ⟨rfl, rfl⟩
  · exact .inr ⟨rfl, hasFailure_foldl_free _ scene⟩

theorem ReadTable.isAtomic_perform : perform.IsAtomic := fun _ _ _ =>
  isAtomic_attempt _ fun _ => isAtomic_attempt _ fun _ => isAtomic_attempt _ fun _ =>
    isAtomic_guard fun _ => isAtomic_attempt _ fun _ => .inr ⟨rfl, Scene.hasFailure_inform _ _⟩

theorem WriteTable.isAtomic_perform : perform.IsAtomic := fun _ _ _ =>
  isAtomic_attempt _ fun _ => isAtomic_attempt _ fun _ => isAtomic_attempt _ fun _ =>
    isAtomic_attempt _ fun _ => isAtomic_attempt _ fun _ => .inl rfl

theorem FreeTable.isAtomic_perform : perform.IsAtomic := fun _ _ _ =>
  isAtomic_attempt _ fun _ => isAtomic_attempt _ fun _ => .inr ⟨rfl, rfl⟩

theorem WebGet.isAtomic_perform : perform.IsAtomic := fun _ _ _ =>
  isAtomic_attempt _ fun _ => isAtomic_attempt _ fun _ => .inl (ends_download ..).workspace_eq

end Builtin

/-- A behavior whose action is atomic; what running a command file does is up to the engine. -/
def Behavior.IsAtomic : Behavior → Prop
  | .action _ perform => perform.IsAtomic
  | .runFile => True

namespace Builtin

theorem isAtomic_structural (check : ParameterSet → List Problem) :
    (structural check).IsAtomic := fun _ _ _ => .inl rfl

theorem isAtomic_exit : exit.behavior.IsAtomic := fun _ _ _ => .inl rfl

theorem isAtomic_setErrorPolicy : setErrorPolicy.behavior.IsAtomic := fun _ _ _ =>
  isAtomic_attempt _ fun _ => .inl rfl

/-- Every built-in command is atomic. -/
theorem isAtomic_of_mem_commands :
    ∀ registration ∈ commands, registration.behavior.IsAtomic := by
  simp only [commands, control, properties, geoLayers, tables, downloads, commandFiles,
    List.cons_append, List.nil_append, List.forall_mem_cons]
  refine ⟨isAtomic_structural _, isAtomic_structural _, isAtomic_structural _,
    isAtomic_structural _, isAtomic_exit, isAtomic_setErrorPolicy, SetProperty.isAtomic_perform,
    Message.isAtomic_perform, ReadGeoLayer.isAtomic_perform, WriteGeoLayer.isAtomic_perform,
    CopyGeoLayer.isAtomic_perform, FreeGeoLayers.isAtomic_perform, ReadTable.isAtomic_perform,
    WriteTable.isAtomic_perform, FreeTable.isAtomic_perform, WebGet.isAtomic_perform, trivial, ?_⟩
  exact fun _ member => nomatch member

end Builtin

namespace Nested

theorem workspace_judge (scene : Scene) (path : FilePath) (expected : Status)
    (result : RunResult) : (judge scene path expected result).workspace = scene.workspace := by
  simp only [judge]
  split
  · rfl
  · split <;> rfl

/-- A command file that is run has a workspace of its own. -/
theorem isAtomic_runFile (registry : Registry) (levels : Nat) :
    (runFile registry levels).IsAtomic := by
  intro surroundings parameters scene
  cases levels with
  | zero => exact isAtomic_attempt _ fun _ => isAtomic_failed scene _
  | succ levels =>
      exact isAtomic_attempt _ fun _ => isAtomic_attempt _ fun _ => isAtomic_attempt _ fun _ =>
        .inl (workspace_judge ..)

end Nested

end Workflow
