import Workflow.Builtin
import Workflow.Nested
import Workflow.Proofs.Builtin.Downloads

/-!
# Commands only add to their records

A running command may add entries to the record of its execution, and it cannot take any away,
change one, or set a status that no entry explains.  Every built-in command keeps to this, and so
does a command that runs another command file.  What these commands add belongs to the run: they
leave alone what validation has found.
-/

namespace Workflow

/-- A status record that has only grown: entries were added, and phases were raised to success. -/
inductive StatusRecord.Grows (start : StatusRecord) : StatusRecord → Prop where
  | same : start.Grows start
  | succeeds {status : StatusRecord} (phase : Phase) (before : start.Grows status) :
      start.Grows (status.promote phase .success)
  | adds {status : StatusRecord} (record : Record) (before : start.Grows status) :
      start.Grows (status.add record)

theorem StatusRecord.Grows.trans {first second third : StatusRecord} (before : first.Grows second)
    (after : second.Grows third) : first.Grows third := by
  induction after with
  | same => exact before
  | succeeds phase _ ih => exact .succeeds phase ih
  | adds record _ ih => exact .adds record ih

/-- A status record that has grown in the run of its command: validation has no part in it. -/
inductive StatusRecord.Proceeds (start : StatusRecord) : StatusRecord → Prop where
  | same : start.Proceeds start
  | succeeds {status : StatusRecord} (before : start.Proceeds status) :
      start.Proceeds (status.promote .run .success)
  | adds {status : StatusRecord} (record : Record) (during : record.phase = .run)
      (before : start.Proceeds status) : start.Proceeds (status.add record)

namespace StatusRecord.Proceeds

variable {first second third : StatusRecord}

theorem grows (proceeds : first.Proceeds second) : first.Grows second := by
  induction proceeds with
  | same => exact .same
  | succeeds _ ih => exact .succeeds .run ih
  | adds record _ _ ih => exact .adds record ih

theorem trans (before : first.Proceeds second) (after : second.Proceeds third) :
    first.Proceeds third := by
  induction after with
  | same => exact before
  | succeeds _ ih => exact .succeeds ih
  | adds record during _ ih => exact .adds record during ih

/-- The run of a command adds no entry about its validation. -/
theorem filter_records (proceeds : first.Proceeds second) {counts : Record → Bool}
    (validates : ∀ record, counts record = true → record.phase = .validation) :
    second.records.filter counts = first.records.filter counts := by
  induction proceeds with
  | same => rfl
  | succeeds _ ih => rw [records_promote, ih]
  | adds record during _ ih =>
      have other : ¬ counts record = true := by
        intro counted
        rw [validates record counted] at during
        cases during
      rw [records_add, List.filter_append, ih, List.filter_cons_of_neg other, List.filter_nil,
        List.append_nil]

end StatusRecord.Proceeds

theorem Scene.proceeds_report (scene : Scene) (severity : Status) (problem : String)
    (recommendation : Option String) :
    scene.status.Proceeds (scene.report severity problem recommendation).status :=
  .adds _ rfl .same

/-- What a command makes of the scene adds to the record of its execution. -/
def Performance.Reports (scene : Scene) (performance : Performance) : Prop :=
  scene.status.Grows performance.1.status

/-- An action that only adds to the record of the execution. -/
def Action.Reports (action : Action) : Prop :=
  ∀ surroundings parameters scene,
    Performance.Reports scene (action surroundings parameters scene)

/-- A behavior whose action only adds to the record; what running a command file does is up to the
engine. -/
def Behavior.Reports : Behavior → Prop
  | .action _ perform => perform.Reports
  | .runFile => True

/-- A command that only adds to the record of its execution, if it is known at all. -/
def Command.Reports (command : Command) : Prop :=
  ∀ definition behavior, command.kind = .known definition behavior → behavior.Reports

/-- What a command makes of the scene adds to the run in the record of its execution. -/
def Performance.Proceeds (scene : Scene) (performance : Performance) : Prop :=
  scene.status.Proceeds performance.1.status

/-- An action that only adds to the run in the record of the execution. -/
def Action.Proceeds (action : Action) : Prop :=
  ∀ surroundings parameters scene,
    Performance.Proceeds scene (action surroundings parameters scene)

/-- A behavior whose action only adds to the run in the record. -/
def Behavior.Proceeds : Behavior → Prop
  | .action _ perform => perform.Proceeds
  | .runFile => True

/-- A command that only adds to the run in its record, if it is known at all. -/
def Command.Proceeds (command : Command) : Prop :=
  ∀ definition behavior, command.kind = .known definition behavior → behavior.Proceeds

theorem Action.Proceeds.reports {action : Action} (proceeds : action.Proceeds) : action.Reports :=
  fun surroundings parameters scene => (proceeds surroundings parameters scene).grows

theorem Behavior.Proceeds.reports {behavior : Behavior} (proceeds : behavior.Proceeds) :
    behavior.Reports := by
  cases behavior with
  | action _ perform => exact Action.Proceeds.reports proceeds
  | runFile => trivial

namespace Performance

variable {scene : Scene}

theorem proceeds_attempt {α : Type} (result : Except Error α) {rest : α → Performance}
    (each : ∀ value, Proceeds scene (rest value)) : Proceeds scene (attempt scene result rest) := by
  cases result with
  | error error => exact .same
  | ok value => exact each value

theorem proceeds_inform (scene : Scene) (message : String) {start : Scene}
    (same : scene.status = start.status) : Proceeds start (done (scene.inform message)) := by
  rw [Proceeds, ← same]
  exact scene.proceeds_report _ _ _

theorem proceeds_guard {policy : Builtin.ExistsPolicy} {kind id : String} {inUse : Bool}
    {error : Error} {rest : Scene → Performance} (each : ∀ scene, Proceeds scene (rest scene)) :
    Proceeds scene (policy.guard scene kind id inUse error rest) := by
  simp only [Builtin.ExistsPolicy.guard]
  split
  · exact each scene
  · cases policy with
    | replace => exact each scene
    | replaceAndWarn => exact (scene.proceeds_report _ _ _).trans (each _)
    | warn => exact scene.proceeds_report _ _ _
    | fail => exact .same

end Performance

open Performance

namespace Builtin

theorem SetProperty.proceeds_perform : perform.Proceeds := fun _ _ _ =>
  proceeds_attempt _ fun _ => proceeds_attempt _ fun _ => .same

theorem Message.proceeds_perform : perform.Proceeds := fun _ _ scene =>
  proceeds_attempt _ fun _ => scene.proceeds_report _ _ _

theorem ReadGeoLayer.proceeds_perform : perform.Proceeds := fun _ _ _ =>
  proceeds_attempt _ fun _ => proceeds_attempt _ fun _ => proceeds_guard fun _ =>
    proceeds_attempt _ fun _ => proceeds_inform _ _ rfl

theorem WriteGeoLayer.proceeds_perform : perform.Proceeds := fun _ _ _ =>
  proceeds_attempt _ fun _ => proceeds_attempt _ fun _ => proceeds_attempt _ fun _ =>
    proceeds_attempt _ fun _ => proceeds_inform _ _ rfl

theorem CopyGeoLayer.proceeds_perform : perform.Proceeds := fun _ _ _ =>
  proceeds_attempt _ fun _ => proceeds_attempt _ fun _ => proceeds_attempt _ fun _ =>
    proceeds_guard fun _ => .same

/-- Every geolayer that is not there adds a warning. -/
theorem FreeGeoLayers.proceeds_foldl_free (ids : List String) (scene : Scene) :
    scene.status.Proceeds (ids.foldl free scene).status := by
  induction ids generalizing scene with
  | nil => exact .same
  | cons id ids ih =>
      refine StatusRecord.Proceeds.trans ?_ (ih (free scene id))
      rw [free]
      split
      · exact .same
      · exact scene.proceeds_report _ _ _

theorem FreeGeoLayers.proceeds_perform : perform.Proceeds := by
  intro _ parameters scene
  refine proceeds_attempt _ fun ids => ?_
  split
  · exact .same
  · exact proceeds_foldl_free _ scene

theorem ReadTable.proceeds_perform : perform.Proceeds := fun _ _ _ =>
  proceeds_attempt _ fun _ => proceeds_attempt _ fun _ => proceeds_attempt _ fun _ =>
    proceeds_guard fun _ => proceeds_attempt _ fun _ => proceeds_inform _ _ rfl

theorem WriteTable.proceeds_perform : perform.Proceeds := fun _ _ _ =>
  proceeds_attempt _ fun _ => proceeds_attempt _ fun _ => proceeds_attempt _ fun _ =>
    proceeds_attempt _ fun _ => proceeds_attempt _ fun _ => proceeds_inform _ _ rfl

theorem FreeTable.proceeds_perform : perform.Proceeds := fun _ _ _ =>
  proceeds_attempt _ fun _ => proceeds_attempt _ fun _ => .same

theorem WebGet.proceeds_save (address : String) (path : FilePath) (scene : Scene)
    (fetched : ByteArray × Nat) : Proceeds scene (save address path scene fetched) := by
  refine proceeds_attempt _ fun files => ?_
  split
  · exact proceeds_inform _ _ rfl
  · exact .same

/-- Waiting for the network adds nothing to the record. -/
theorem WebGet.Ends.proceeds {address : String} {path : FilePath} {scene : Scene}
    {performance : Performance} (ends : Ends address path scene performance) :
    Proceeds scene performance := by
  cases ends with
  | refused waits =>
      rw [Proceeds, failed, waits.status_eq]
      exact .same
  | saved waits bytes failed =>
      rw [Proceeds, ← waits.status_eq]
      exact proceeds_save address path _ _

theorem WebGet.proceeds_perform : perform.Proceeds := fun _ _ _ =>
  proceeds_attempt _ fun _ => proceeds_attempt _ fun _ => (ends_download ..).proceeds

theorem proceeds_structural (check : ParameterSet → List Problem) : (structural check).Proceeds :=
  fun _ _ _ => .same

theorem proceeds_exit : exit.behavior.Proceeds := fun _ _ _ => .same

theorem proceeds_setErrorPolicy : setErrorPolicy.behavior.Proceeds := fun _ _ _ =>
  proceeds_attempt _ fun _ => .same

/-- Every built-in command only adds to the run in its record. -/
theorem proceeds_of_mem_commands :
    ∀ registration ∈ commands, registration.behavior.Proceeds := by
  simp only [commands, control, properties, geoLayers, tables, downloads, commandFiles,
    List.cons_append, List.nil_append, List.forall_mem_cons]
  refine ⟨proceeds_structural _, proceeds_structural _, proceeds_structural _,
    proceeds_structural _, proceeds_exit, proceeds_setErrorPolicy, SetProperty.proceeds_perform,
    Message.proceeds_perform, ReadGeoLayer.proceeds_perform, WriteGeoLayer.proceeds_perform,
    CopyGeoLayer.proceeds_perform, FreeGeoLayers.proceeds_perform, ReadTable.proceeds_perform,
    WriteTable.proceeds_perform, FreeTable.proceeds_perform, WebGet.proceeds_perform, trivial, ?_⟩
  exact fun _ member => nomatch member

end Builtin

namespace Nested

theorem proceeds_judge (scene : Scene) (path : FilePath) (expected : Status) (result : RunResult)
    {start : Scene} (same : scene.status = start.status) :
    Performance.Proceeds start (.done (judge scene path expected result)) := by
  rw [Performance.Proceeds, ← same]
  simp only [Performance.done, judge]
  split
  · exact scene.proceeds_report _ _ _
  · split <;> exact scene.proceeds_report _ _ _

/-- A command file that is run keeps its own records, and only the judgement on it is added. -/
theorem proceeds_runFile (registry : Registry) (levels : Nat) :
    (runFile registry levels).Proceeds := by
  intro surroundings parameters scene
  cases levels with
  | zero => exact proceeds_attempt _ fun _ => .same
  | succ levels =>
      exact proceeds_attempt _ fun _ => proceeds_attempt _ fun _ => proceeds_attempt _ fun _ =>
        proceeds_judge _ _ _ _ rfl

theorem reports_runFile (registry : Registry) (levels : Nat) :
    (runFile registry levels).Reports :=
  (proceeds_runFile registry levels).reports

end Nested

end Workflow
