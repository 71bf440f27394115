import Mathlib.Data.List.Nodup
import Workflow.Processor

/-!
# Plans and outcomes

A plan holds the chosen commands in the order of the list, each with its index.  Behind a run every
command has an outcome: the one that the plan has at some position takes the records that the
machine holds there, and every other one takes none.
-/

namespace Workflow.Processor

variable {commands : List Command} {chosen : Nat → Bool} {plan : Run.Plan}

theorem indices_plan (commands : List Command) (chosen : Nat → Bool) :
    (Processor.plan commands chosen).toList.map (·.index) =
      (List.range commands.length).filter chosen := by
  have indices : (commands.mapIdx fun index command =>
      (⟨index, command⟩ : Run.Planned)).map (·.index) = List.range commands.length := by
    apply List.ext_getElem
    · simp
    · intro index left right
      simp
  rw [← indices, List.filter_map]
  rfl

/-- No command stands in a plan twice. -/
theorem nodup_indices_plan (commands : List Command) (chosen : Nat → Bool) :
    ((Processor.plan commands chosen).toList.map (·.index)).Nodup := by
  rw [indices_plan]
  exact List.nodup_range.filter _

theorem getElem?_index_of_plan {position : Nat} {planned : Run.Planned}
    (here : (Processor.plan commands chosen)[position]? = some planned) :
    commands[planned.index]? = some planned.command := by
  have member := Array.mem_of_getElem? here
  simp only [Processor.plan, List.mem_toArray, List.mem_filter, List.mem_mapIdx] at member
  obtain ⟨⟨index, inside, rfl⟩, -⟩ := member
  exact List.getElem?_eq_getElem inside

theorem mem_commands_of_plan {position : Nat} {planned : Run.Planned}
    (here : (Processor.plan commands chosen)[position]? = some planned) :
    planned.command ∈ commands :=
  List.mem_of_getElem? (getElem?_index_of_plan here)

/-- In a plan that holds no command twice, an index is found at the position where it stands. -/
theorem findIdx?_of_getElem? (distinct : (plan.toList.map (·.index)).Nodup) {position : Nat}
    {planned : Run.Planned} (here : plan[position]? = some planned) :
    plan.findIdx? (fun other => other.index == planned.index) = some position := by
  obtain ⟨inside, rfl⟩ := Array.getElem?_eq_some_iff.mp here
  rw [Array.findIdx?_eq_some_iff_getElem]
  refine ⟨inside, beq_self_eq_true _, ?_⟩
  intro earlier before same
  have equal : (plan.toList.map (·.index))[earlier]? = (plan.toList.map (·.index))[position]? := by
    simpa [Nat.lt_trans before inside, inside] using same
  have inList : earlier < (plan.toList.map (·.index)).length := by
    simpa using Nat.lt_trans before inside
  exact absurd ((List.getElem?_inj inList distinct).mp equal) (Nat.ne_of_lt before)

/-- The record of the command at an index behind a run. -/
def statusAt (plan : Run.Plan) (machine : Run.Machine) (index : Nat) : StatusRecord :=
  match plan.findIdx? fun planned => planned.index == index with
  | some position => recordAt machine position
  | none => .fresh

/-- The machine at the end of the run of the commands at the chosen indices, and how it ended. -/
def walked (processor : Processor) (runFile : Action) (files : FileSystem)
    (chosen : Nat → Bool) : Run.Machine × Run.Ending :=
  let plan := Processor.plan processor.commands chosen
  Run.walk (processor.setting runFile) plan (processor.machine files plan)

theorem getElem?_outcomes (processor : Processor) (runFile : Action) (files : FileSystem)
    (chosen : Nat → Bool) (index : Nat) :
    (runWith runFile processor files chosen).result.outcomes[index]? =
      processor.commands[index]?.map fun command =>
        .ofCommand index
          { command with
            status := statusAt (Processor.plan processor.commands chosen)
              (processor.walked runFile files chosen).1 index } := by
  simp only [runWith, walked, RunResult.ofCommands, withRecords, List.getElem?_mapIdx,
    Option.map_map]
  congr 1
  funext command
  simp only [Function.comp, statusAt]
  cases (Processor.plan processor.commands chosen).findIdx? fun planned =>
    planned.index == index <;> rfl

section

variable (processor : Processor) (runFile : Action) (files : FileSystem) (chosen : Nat → Bool)

theorem length_outcomes :
    (runWith runFile processor files chosen).result.outcomes.length =
      processor.commands.length := by
  simp [runWith, RunResult.ofCommands, withRecords]

variable {processor runFile files chosen} in
/-- Every outcome is that of a command, with the record that the run has left of it. -/
theorem exists_of_mem_outcomes {outcome : Outcome}
    (member : outcome ∈ (runWith runFile processor files chosen).result.outcomes) :
    ∃ index command, processor.commands[index]? = some command ∧
      outcome = .ofCommand index
        { command with
          status := statusAt (Processor.plan processor.commands chosen)
            (processor.walked runFile files chosen).1 index } := by
  obtain ⟨index, here⟩ := List.mem_iff_getElem?.mp member
  rw [getElem?_outcomes] at here
  obtain ⟨command, stands, same⟩ := Option.map_eq_some_iff.mp here
  exact ⟨index, command, stands, same.symm⟩

theorem getElem?_of_mem_outcomes {outcome : Outcome}
    (member : outcome ∈ (runWith runFile processor files chosen).result.outcomes) :
    (runWith runFile processor files chosen).result.outcomes[outcome.index]? = some outcome := by
  obtain ⟨index, command, stands, rfl⟩ := exists_of_mem_outcomes member
  exact (getElem?_outcomes ..).trans (congrArg (Option.map _) stands)

theorem indices_outcomes :
    (runWith runFile processor files chosen).result.outcomes.map (·.index) =
      List.range processor.commands.length := by
  apply List.ext_getElem
  · simp [length_outcomes]
  · intro index left right
    simp [runWith, RunResult.ofCommands, withRecords, Outcome.ofCommand]

end

end Workflow.Processor
