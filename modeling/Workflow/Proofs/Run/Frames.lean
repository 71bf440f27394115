import Workflow.Proofs.Run.Dispatch

/-!
# Open blocks and the plan

Every open block was opened by a command of its kind that stands in the plan, and behind that
command stands a terminator whose written name is the name of the block.
-/

namespace Workflow.Run

section

variable (machine : Machine) {budget : Nat} (turn : Turn budget) (scene : Scene)
variable (move : Move machine.budget)

@[simp] theorem frames_go : (machine.go move).frames = machine.frames := by
  cases move <;> rfl

theorem frames_settle_go : ((settle machine turn scene).go move).frames = turn.frames := by
  cases move <;> rfl

theorem workspace_settle_go :
    ((settle machine turn scene).go move).workspace = scene.workspace := by
  cases move <;> rfl

theorem executions_settle_go :
    ((settle machine turn scene).go move).executions =
      machine.executions.modify machine.position (scene.status :: ·) := by
  cases move <;> rfl

end

theorem comes_turnAt (setting : Setting) (plan : Plan) (machine : Machine) (command : Command) :
    (standingAt setting plan machine command).Comes machine.scene
      (turnAt setting plan machine command) :=
  Standing.comes_dispatch _ _ _

variable {setting : Setting} {plan : Plan} {machine next : Machine} {planned : Planned}

/-- Whether a terminator of the kind with the written name stands behind a position of a plan. -/
def Plan.TerminatesBehind (plan : Plan) (position : Nat) (kind : BlockKind) (name : String) :
    Prop :=
  ∃ (behind : Nat) (closer : Planned), position < behind ∧ plan[behind]? = some closer ∧
    closes kind name closer = true

/-- The search for a terminator finds one exactly when there is one. -/
theorem bodyLength?_eq_none_iff {position : Nat} {kind : BlockKind} {name : String} :
    bodyLength? plan position kind name = none ↔ ¬ plan.TerminatesBehind position kind name := by
  rw [bodyLength?_eq, List.findIdx?_eq_none_iff]
  constructor
  · rintro absent ⟨behind, closer, later, here, terminates⟩
    have member : closer.command ∈ plan.commands.drop (position + 1) := by
      rw [List.mem_drop_iff_getElem]
      obtain ⟨inside, same⟩ := Array.getElem?_eq_some_iff.mp here
      refine ⟨behind - (position + 1), by simp [Plan.commands]; omega, ?_⟩
      have place : position + 1 + (behind - (position + 1)) = behind := by omega
      simp [Plan.commands, place, same]
    exact Bool.false_ne_true ((absent _ member).symm.trans terminates)
  · intro absent command member
    rw [List.mem_drop_iff_getElem] at member
    obtain ⟨distance, inside, rfl⟩ := member
    rw [Bool.eq_false_iff]
    intro terminates
    simp only [Plan.commands, List.length_map, Array.length_toList] at inside
    simp only [Plan.commands, List.getElem_map, Array.getElem_toList] at terminates
    have within : position + 1 + distance < plan.size := by omega
    exact absent ⟨_, _, by omega, Array.getElem?_eq_getElem within, terminates⟩

theorem terminatesBehind_of_bodyLength? {position bodyLength : Nat} {kind : BlockKind}
    {name : String} (found : bodyLength? plan position kind name = some bodyLength) :
    plan.TerminatesBehind position kind name := by
  by_contra absent
  rw [← bodyLength?_eq_none_iff, found] at absent
  cases absent

/-- The opener of an open block stands in the plan, with a terminator for it somewhere behind. -/
structure Frame.IsPlaced (plan : Plan) (frame : Frame) : Prop where
  opener : ∃ planned, plan[frame.start]? = some planned ∧
    planned.command.role? = some frame.kind.opener
  terminator : plan.TerminatesBehind frame.start frame.kind frame.name

/-- A step that goes on keeps the open blocks in their places, and a block that it opens has its
place at the command. -/
theorem isPlaced_of_goes (here : plan[machine.position]? = some planned)
    (goes : step setting plan machine planned = .goes next)
    (before : ∀ frame ∈ machine.frames, frame.IsPlaced plan) :
    ∀ frame ∈ next.frames, frame.IsPlaced plan := by
  obtain ⟨-, rfl⟩ | ⟨-, -, move, -, rfl⟩ := step_eq_goes goes
  · simpa using before
  · rw [frames_settle_go]
    have comes := comes_turnAt setting plan machine planned.command
    generalize turnAt setting plan machine planned.command = turn at comes
    cases comes with
    | executed | skipped | unterminated | forbidden | unmatched => exact before
    | entersCondition opens _ found =>
        refine List.forall_mem_cons.mpr ⟨?_, before⟩
        exact ⟨⟨planned, here, opens⟩, terminatesBehind_of_bodyLength? found⟩
    | entersLoop opens _ found =>
        refine List.forall_mem_cons.mpr ⟨?_, before⟩
        exact ⟨⟨planned, here, opens⟩, terminatesBehind_of_bodyLength? found⟩
    | leaves _ front =>
        rw [show machine.frames = _ from front] at before
        exact (List.forall_mem_cons.mp before).2
    | repeats _ front =>
        rw [show machine.frames = _ from front] at before
        obtain ⟨⟨opener, terminator⟩, outer⟩ := List.forall_mem_cons.mp before
        exact List.forall_mem_cons.mpr ⟨⟨opener, terminator⟩, outer⟩

end Workflow.Run

namespace Workflow.Processor

theorem isPlaced_machine (processor : Processor) (files : FileSystem)
    (plan : Run.Plan) : ∀ frame ∈ (processor.machine files plan).frames, frame.IsPlaced plan :=
  fun _ member => nomatch member

end Workflow.Processor
