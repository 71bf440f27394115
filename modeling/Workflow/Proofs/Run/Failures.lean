import Workflow.Proofs.Builtin.Atomicity
import Workflow.Proofs.Run.Frames
import Workflow.Proofs.Run.Outcomes
import Workflow.Proofs.Run.Trace

/-!
# Steps that fail leave the workspace alone

A step that adds a failure to the record of its command has the same properties, geolayers and
tables behind it as in front of it.  The one exception is the terminator of a loop, which may have
failed its own validation and still start another pass.
-/

namespace Workflow

namespace StatusRecord

theorem hasFailure_iff {status : StatusRecord} :
    status.hasFailure = true ↔ 0 < status.failureCount := by
  simp [hasFailure, failureCount, List.length_pos_iff_exists_mem]

theorem hasFailure_congr {status other : StatusRecord} (same : status.records = other.records) :
    status.hasFailure = other.hasFailure := by
  rw [hasFailure, same, hasFailure]

theorem failureCount_combine_concat (executions : List StatusRecord) (status : StatusRecord) :
    (combine (executions ++ [status])).failureCount =
      (combine executions).failureCount + status.failureCount := by
  simp [combine, failureCount]

end StatusRecord

namespace Run

variable {setting : Setting} {command : Command} {scene : Scene}

theorem isAtomic_act (recognized : command.RecognizedBy Builtin.registry)
    (nested : setting.runFile.IsAtomic) : (act setting command).IsAtomic := by
  simp only [act]
  split
  · next known =>
      have member := Builtin.mem_commands_of_mem_registry (recognized _ _ known)
      exact Builtin.isAtomic_of_mem_commands _ member
  · exact nested
  · exact fun _ _ _ => .inl rfl

/-- A command that is ended by an error or leaves a failure has not changed the workspace. -/
theorem workspace_conclude {performance : Performance} (atomic : performance.IsAtomic scene)
    (clean : scene.status.hasFailure = false)
    (fails : (conclude performance).status.hasFailure = true) :
    (conclude performance).workspace = scene.workspace := by
  obtain ⟨after, error⟩ := performance
  rcases atomic with same | ⟨done, quiet⟩
  · cases error <;> exact same
  · cases done
    simp only [conclude, StatusRecord.hasFailure_promote] at fails
    rw [quiet, clean] at fails
    cases fails

theorem workspace_execute (recognized : command.RecognizedBy Builtin.registry)
    (nested : setting.runFile.IsAtomic) (clean : scene.status.hasFailure = false)
    (fails : (execute setting command scene).status.hasFailure = true) :
    (execute setting command scene).workspace = scene.workspace := by
  simp only [execute] at fails ⊢
  split at fails
  · next prepared refused =>
      obtain ⟨status, same⟩ := prepare_eq scene command
      rw [refused] at same
      rw [show prepared = _ from same]
  · next prepared parameters accepted =>
      have same := prepared_eq accepted
      subst same
      exact workspace_conclude (isAtomic_act recognized nested _ _ _) (by simpa using clean) fails

/-- A turn fails if it leaves a failure in the record or ends the run. -/
def Turn.Fails {budget : Nat} (turn : Turn budget) : Prop :=
  turn.scene.status.hasFailure = true ∨ ∃ fault, turn.move = .error fault

/-- A turn that fails has not changed the workspace, unless it is that of a loop terminator. -/
theorem Standing.Comes.workspace_eq {standing : Standing} {budget : Nat} {turn : Turn budget}
    (comes : standing.Comes scene turn)
    (recognized : standing.command.RecognizedBy Builtin.registry)
    (nested : standing.setting.runFile.IsAtomic) (clean : scene.status.hasFailure = false)
    (other : standing.command.role? ≠ some .closeLoop) (fails : turn.Fails) :
    turn.scene.workspace = scene.workspace := by
  cases comes with
  | skipped | unterminated | forbidden | entersCondition | unmatched | leaves => rfl
  | executed =>
      obtain failure | ⟨fault, ends⟩ := fails
      · exact workspace_execute recognized nested clean failure
      · cases ends
  | entersLoop _ quiet =>
      obtain failure | ⟨fault, ends⟩ := fails
      · rw [StatusRecord.hasFailure_congr quiet, clean] at failure
        cases failure
      · cases ends
  | repeats closes => exact absurd closes other

section

variable {machine after : Machine} {position : Nat} {status : StatusRecord}

/-- An execution adds no more failures to the record of a command than it has itself. -/
theorem failureCount_recordAt_le
    (adds : after.executions = machine.executions.modify position (status :: ·)) :
    (Processor.recordAt after position).failureCount ≤
      (Processor.recordAt machine position).failureCount + status.failureCount := by
  simp only [Processor.recordAt, adds, Array.getD_eq_getD_getElem?, Array.getElem?_modify, if_pos]
  cases machine.executions[position]? with
  | none => exact Nat.le_add_right _ _
  | some executions =>
      simp only [Option.map_some, Option.getD_some, List.reverse_cons]
      exact Nat.le_of_eq (StatusRecord.failureCount_combine_concat _ _)

end

/-- The step has added a failure to the record of its command. -/
def Stride.Fails (stride : Stride) : Prop :=
  (Processor.recordAt stride.before stride.before.position).failureCount <
    (Processor.recordAt stride.after stride.before.position).failureCount

theorem fails_of_settle_go {machine : Machine} {planned : Planned} {turn : Turn machine.budget}
    {move : Move machine.budget}
    (fails : (Stride.mk machine planned ((settle machine turn turn.scene).go move)).Fails) :
    turn.Fails := by
  left
  rw [StatusRecord.hasFailure_iff]
  have bound := failureCount_recordAt_le (executions_settle_go machine turn turn.scene move)
  simp only [Stride.Fails] at fails
  omega

variable {plan : Plan} {stride : Stride}

/-- A step that has added a failure leads to the workspace that it started from. -/
theorem workspace_eq_of_step
    (recognized : stride.planned.command.RecognizedBy Builtin.registry)
    (nested : setting.runFile.IsAtomic) (other : stride.planned.command.role? ≠ some .closeLoop)
    (steps : (step setting plan stride.before stride.planned).machine = stride.after)
    (fails : stride.Fails) : stride.after.workspace = stride.before.workspace := by
  obtain ⟨machine, planned, after⟩ := stride
  -- the record of a new execution is fresh, so every failure in it is one of this turn
  have keeps : (turnAt setting plan machine planned.command).Fails →
      (turnAt setting plan machine planned.command).scene.workspace = machine.workspace :=
    (comes_turnAt setting plan machine planned.command).workspace_eq recognized nested rfl other
  cases progress : step setting plan machine planned with
  | goes next =>
      simp only [progress, Progress.machine] at steps
      subst steps
      obtain ⟨-, rfl⟩ | ⟨-, -, move, -, rfl⟩ := step_eq_goes progress
      · rfl
      · rw [workspace_settle_go]
        exact keeps (fails_of_settle_go fails)
  | ends last ending =>
      simp only [progress, Progress.machine] at steps
      subst steps
      obtain ⟨-, rfl⟩ | ⟨fault, faults, -, rfl⟩ | ⟨move, -, -, rfl⟩ := step_eq_ends progress
      · rfl
      · exact keeps (.inr ⟨fault, faults⟩)
      · rw [workspace_settle_go]
        exact keeps (fails_of_settle_go fails)

end Run

namespace Processor

open CommandFile (builtinLine)

/-- A step of a run that adds a failure to the record of its command leaves all properties,
geolayers and tables as they were, if the command is a built-in one and no terminator of a loop. -/
theorem workspace_eq_of_fails (processor : Processor) (files : FileSystem) (chosen : Nat → Bool)
    (recognized : ∀ command ∈ processor.commands, command.RecognizedBy Builtin.registry)
    {stride : Run.Stride} (member : stride ∈ processor.trace processor.runFile files chosen)
    (other : stride.planned.command.role? ≠ some .closeLoop) (fails : stride.Fails) :
    stride.after.workspace = stride.before.workspace := by
  obtain ⟨here, steps⟩ := Run.step_of_mem_trace member
  exact Run.workspace_eq_of_step (recognized _ (mem_commands_of_plan here))
    (Nested.isAtomic_runFile _ _) other steps fails

/-- A command that may not copy a geolayer over another one. -/
def refusedCopy : Command :=
  builtinLine 1 "CopyGeoLayer(GeoLayerID=a,CopiedGeoLayerID=b,IfGeoLayerIDExists=Fail)"

/-- A geolayer without features. -/
def emptyLayer (id : String) : GeoLayer :=
  { id, name := id, description := "", source := none, document := .null }

/-- A processor with both geolayers and the command. -/
def copying : Processor :=
  { create Builtin.registry {} (.empty [] "/") 0 with
    commands := [refusedCopy]
    workspace := { layers := .ofList [("a", emptyLayer "a"), ("b", emptyLayer "b")] } }

/-- The copy is refused. -/
theorem workspace_eq_of_fails_copying :
    (∀ command ∈ copying.commands, command.RecognizedBy Builtin.registry) ∧
      ∃ stride ∈ copying.trace copying.runFile (.empty [] "/") fun _ => true,
        stride.planned.command.role? ≠ some .closeLoop ∧ stride.Fails ∧
          stride.after.workspace = stride.before.workspace := by
  have recognized : ∀ command ∈ copying.commands, command.RecognizedBy Builtin.registry :=
    List.forall_mem_singleton.mpr (CommandFile.recognizedBy_readLenient _ _)
  let setting := copying.setting copying.runFile
  let plan := plan copying.commands fun _ => true
  let machine := copying.machine (.empty [] "/") plan
  have here : plan[machine.position]? = some ⟨0, refusedCopy⟩ := rfl
  have goesOn : (Run.step setting plan machine ⟨0, refusedCopy⟩).goesOn = true := by
    decide +kernel
  have failures : (recordAt machine 0).failureCount <
      (recordAt (Run.step setting plan machine ⟨0, refusedCopy⟩).machine 0).failureCount := by
    decide +kernel
  obtain ⟨next, goes⟩ := Run.Progress.exists_eq_goes goesOn
  rw [goes] at failures
  have member : (⟨machine, ⟨0, refusedCopy⟩, next⟩ : Run.Stride) ∈
      copying.trace copying.runFile (.empty [] "/") fun _ => true := by
    rw [trace, Run.trace_of_goes here goes]
    exact List.mem_cons_self
  have other : refusedCopy.role? ≠ some .closeLoop := by decide +kernel
  exact ⟨recognized, _, member, other, failures,
    workspace_eq_of_fails _ _ _ recognized member other failures⟩

end Processor

end Workflow
