import Mathlib.Data.List.Dedup
import Mathlib.Data.List.Sort
import Workflow.Nested
import Workflow.Proofs.Run.Outcomes
import Workflow.Proofs.Run.Simulation
import Workflow.Proofs.Run.Trace
import Workflow.Proofs.Status

/-!
# Runs of selected commands

A walk reads its plan only through the commands at its positions; the places of the commands in
their list matter to nothing but the index with which a run stops.  So the run of selected commands
is the run of a list that holds these commands alone.
-/

namespace Workflow.Run

/-- The same end, with its index taken to another place. -/
def Ending.placed? (place : Nat → Option Nat) : Ending → Option Ending
  | .exited index => (place index).map .exited
  | .haltedOnFailure index => (place index).map .haltedOnFailure
  | ending => some ending

/-- The same progress, with the index of an end taken to another place. -/
def Progress.placed? (place : Nat → Option Nat) : Progress → Option Progress
  | .goes next => some (.goes next)
  | .ends last ending => (ending.placed? place).map (.ends last)

/-- A plan with the commands of another one, each of them at the place that it is taken to. -/
structure Plan.IsPlacedAs (place : Nat → Option Nat) (part whole : Plan) : Prop where
  commands : part.commands = whole.commands
  places : ∀ (position : Nat) (own planned : Planned), part[position]? = some own →
    whole[position]? = some planned → place own.index = some planned.index

variable {setting : Setting} {part whole : Plan} {place : Nat → Option Nat} {machine : Machine}

theorem Plan.size_eq_of_commands (same : part.commands = whole.commands) :
    part.size = whole.size := by
  simpa [Plan.commands] using congrArg List.length same

theorem Plan.getElem?_commands (plan : Plan) (position : Nat) :
    plan.commands[position]? = plan[position]?.map (·.command) := by
  rw [Plan.commands, List.getElem?_map, Array.getElem?_toList]

theorem bodyLength?_congr (same : part.commands = whole.commands) (position : Nat)
    (kind : BlockKind) (name : String) :
    bodyLength? part position kind name = bodyLength? whole position kind name := by
  rw [bodyLength?_eq, bodyLength?_eq, same]

theorem openBlock_congr (same : part.commands = whole.commands) (standing : Standing)
    (budget : Nat) (scene : Scene) (kind : BlockKind) :
    ({ standing with plan := part }).openBlock budget scene kind =
      ({ standing with plan := whole }).openBlock budget scene kind := by
  simp only [Standing.openBlock, skipBlock, enclosedBody, bodyLength?_congr same]
  rfl

/-- A dispatch reads its plan only in the search for a terminator. -/
theorem dispatch_congr (same : part.commands = whole.commands) (standing : Standing)
    (budget : Nat) (scene : Scene) :
    ({ standing with plan := part }).dispatch budget scene =
      ({ standing with plan := whole }).dispatch budget scene := by
  simp only [Standing.dispatch]
  split
  · exact openBlock_congr same standing budget scene .loop
  · rfl
  · exact openBlock_congr same standing budget scene .conditional
  · rfl
  · rfl

/-- The place of a command in its list is only the index with which its turn may end the run. -/
theorem finish_placed {turn : Turn machine.budget} {own other : Nat}
    (taken : place own = some other) :
    (finish machine own turn).placed? place = some (finish machine other turn) := by
  simp only [finish]
  split
  · rfl
  · split
    · simp [Progress.placed?, Ending.placed?, taken]
    · split
      · simp [Progress.placed?, Ending.placed?, taken]
      · rfl

theorem step_placed (setting : Setting) (machine : Machine)
    (same : part.commands = whole.commands) {own planned : Planned}
    (command : own.command = planned.command) (taken : place own.index = some planned.index) :
    (step setting part machine own).placed? place = some (step setting whole machine planned) := by
  have turns := dispatch_congr same
    (standingAt setting part machine planned.command) machine.budget machine.scene
  simp only [standingAt] at turns
  simp only [step, command]
  split
  · rfl
  · split
    · rfl
    · rw [turns]
      exact finish_placed taken

theorem close_congr (same : part.commands = whole.commands) (machine : Machine) :
    close part machine = close whole machine := by
  simp only [close]
  split
  · rfl
  · next innermost outer front =>
      have stands := congrArg (·[innermost.start]?) same
      simp only [Plan.getElem?_commands] at stands
      cases own : part[innermost.start]? <;> cases planned : whole[innermost.start]? <;>
        simp_all

theorem placed?_close (plan : Plan) (machine : Machine) :
    (close plan machine).2.placed? place = some (close plan machine).2 := by
  simp only [close]
  split
  · rfl
  · split <;> rfl

theorem Plan.IsPlacedAs.exists_planned (placed : part.IsPlacedAs place whole) {position : Nat}
    {own : Planned} (here : part[position]? = some own) :
    ∃ planned, whole[position]? = some planned ∧ own.command = planned.command ∧
      place own.index = some planned.index := by
  have stands := congrArg (·[position]?) placed.commands
  simp only [Plan.getElem?_commands, here, Option.map_some] at stands
  obtain ⟨planned, there, same⟩ := Option.map_eq_some_iff.mp stands.symm
  exact ⟨planned, there, same.symm, placed.places _ _ _ here there⟩

/-- Walks through plans with the same commands go the same way, and an index with which one of them
stops is taken to its place in the other one. -/
theorem walk_placed (placed : part.IsPlacedAs place whole) (machine : Machine) :
    (walk setting part machine).1 = (walk setting whole machine).1 ∧
      (walk setting part machine).2.placed? place = some (walk setting whole machine).2 := by
  induction machine using walk_induction setting part with
  | outside machine outside =>
      have outsideToo : whole.size ≤ machine.position :=
        Plan.size_eq_of_commands placed.commands ▸ outside
      rw [walk_of_end outside, walk_of_end outsideToo, close_congr placed.commands]
      exact ⟨rfl, placed?_close _ _⟩
  | ends machine own last ending here ends =>
      obtain ⟨planned, there, command, taken⟩ := placed.exists_planned here
      have steps := step_placed setting machine placed.commands command taken
      rw [ends] at steps
      obtain ⟨other, same, endsToo⟩ := Option.map_eq_some_iff.mp steps
      rw [walk_of_ends here ends, walk_of_ends there endsToo.symm]
      exact ⟨rfl, same⟩
  | goes machine own next here goes ih =>
      obtain ⟨planned, there, command, taken⟩ := placed.exists_planned here
      have steps := step_placed setting machine placed.commands command taken
      rw [goes] at steps
      rw [walk_of_goes here goes, walk_of_goes there (Option.some.inj steps).symm]
      exact ih

theorem Ending.abortReason?_of_placed? {ending other : Ending}
    (same : ending.placed? place = some other) : other.abortReason? = ending.abortReason? := by
  cases ending with
  | exited index | haltedOnFailure index =>
      obtain ⟨there, -, rfl⟩ := Option.map_eq_some_iff.mp same
      rfl
  | finished | cancelled | faulted fault =>
      cases same
      rfl

end Workflow.Run

namespace Workflow.Processor

/-- The given indices of a list of some length in order, each of them once and without those that
are out of range. -/
def picked (length : Nat) (indices : List Nat) : List Nat :=
  ((indices.filter (· < length)).dedup).mergeSort

/-- They are the places that a plan takes from the list. -/
theorem picked_eq_filter (length : Nat) (indices : List Nat) :
    picked length indices = (List.range length).filter indices.contains := by
  have distinct : (picked length indices).Nodup :=
    (List.mergeSort_perm _ _).nodup_iff.mpr (List.nodup_dedup _)
  have sorted : (picked length indices).SortedLT :=
    List.sortedLE_mergeSort.sortedLT_of_nodup distinct
  have ranged : ((List.range length).filter indices.contains).SortedLT :=
    (List.pairwise_lt_range.filter _).sortedLT
  refine sorted.eq_of_mem_iff ranged fun index => ?_
  simp [picked, and_comm]

example : picked 4 [3, 0, 9, 3] = [0, 3] := by cbv

/-- The processor with the commands at the given indices alone.  They keep their line numbers. -/
def restrict (processor : Processor) (indices : List Nat) : Processor :=
  { processor with
    commands :=
      (picked processor.commands.length indices).filterMap (processor.commands[·]?) }

variable (processor : Processor) (files : FileSystem) (indices : List Nat)

theorem getElem?_picked {position : Nat} {planned : Run.Planned}
    (here : (plan processor.commands indices.contains)[position]? = some planned) :
    (picked processor.commands.length indices)[position]? = some planned.index := by
  rw [picked_eq_filter, ← indices_plan, List.getElem?_map, Array.getElem?_toList, here]
  rfl

/-- The plan of the selected commands holds the commands that are left alone. -/
theorem commands_plan_selected :
    (plan processor.commands indices.contains).commands =
      (processor.restrict indices).commands := by
  rw [restrict, picked_eq_filter, ← indices_plan, Run.Plan.commands, List.filterMap_map,
    ← List.filterMap_eq_map]
  refine List.filterMap_congr fun planned member => ?_
  obtain ⟨position, here⟩ := Array.mem_iff_getElem?.mp (Array.mem_toList_iff.mp member)
  exact (getElem?_index_of_plan here).symm

theorem isPlacedAs_restrict :
    (plan (processor.restrict indices).commands fun _ => true).IsPlacedAs
      ((picked processor.commands.length indices)[·]?)
      (plan processor.commands indices.contains) := by
  constructor
  · rw [Run.commands_plan, commands_plan_selected]
  · intro position own planned here there
    rw [Run.isWhole_plan _ _ _ here]
    exact getElem?_picked processor indices there

theorem machine_congr {part whole : Run.Plan} (same : part.commands = whole.commands) :
    processor.machine files part = processor.machine files whole := by
  have executions : part.map (fun _ => ([] : List StatusRecord)) = whole.map fun _ => [] := by
    apply Array.ext
    · simpa using Run.Plan.size_eq_of_commands same
    · simp
  simp only [machine, executions]

theorem statusAt_placed {part whole : Run.Plan} (machine : Run.Machine) {position : Nat}
    {own planned : Run.Planned} (distinct : (part.toList.map (·.index)).Nodup)
    (distinctToo : (whole.toList.map (·.index)).Nodup)
    (here : part[position]? = some own) (there : whole[position]? = some planned) :
    statusAt part machine own.index = statusAt whole machine planned.index := by
  rw [statusAt, statusAt, findIdx?_of_getElem? distinct here,
    findIdx?_of_getElem? distinctToo there]

theorem statusAt_of_notMem {plan : Run.Plan} (machine : Run.Machine) {index : Nat}
    (absent : index ∉ plan.toList.map (·.index)) : statusAt plan machine index = .fresh := by
  have missing : (plan.findIdx? fun planned => planned.index == index) = none := by
    rw [Array.findIdx?_eq_none_iff]
    intro planned member
    rw [beq_eq_false_iff_ne]
    rintro rfl
    exact absent (List.mem_map_of_mem (Array.mem_toList_iff.mpr member))
  rw [statusAt, missing]

theorem walked_restrict (runFile : Action) :
    let own := (processor.restrict indices).walked runFile files fun _ => true
    let whole := processor.walked runFile files indices.contains
    own.1 = whole.1 ∧
      own.2.placed? ((picked processor.commands.length indices)[·]?) = some whole.2 := by
  have placed := isPlacedAs_restrict processor indices
  simp only [walked]
  rw [← processor.machine_congr files placed.commands]
  exact Run.walk_placed placed _

/-- A selected command has the same outcome behind both runs. -/
theorem exists_outcome_of_picked {position index : Nat}
    (taken : (picked processor.commands.length indices)[position]? = some index) :
    ∃ outcome, (processor.runSelected files indices).result.outcomes[index]? = some outcome ∧
      ((processor.restrict indices).runAll files).result.outcomes[position]? =
        some { outcome with index := position } := by
  have placed := isPlacedAs_restrict processor indices
  rw [picked_eq_filter, ← indices_plan, List.getElem?_map, Array.getElem?_toList] at taken
  obtain ⟨planned, there, rfl⟩ := Option.map_eq_some_iff.mp taken
  have stands := congrArg (·[position]?) placed.commands
  simp only [Run.Plan.getElem?_commands, there, Option.map_some] at stands
  obtain ⟨own, here, same⟩ := Option.map_eq_some_iff.mp stands
  have sameIndex := Run.isWhole_plan _ _ _ here
  have records := statusAt_placed (processor.walked processor.runFile files indices.contains).1
    (nodup_indices_plan _ _) (nodup_indices_plan _ _) here there
  have listed := getElem?_index_of_plan here
  rw [sameIndex, same] at listed
  rw [sameIndex] at records
  have whole := processor.getElem?_outcomes processor.runFile files indices.contains planned.index
  have alone := (processor.restrict indices).getElem?_outcomes processor.runFile files
    (fun _ => true) position
  rw [getElem?_index_of_plan there] at whole
  rw [listed, (walked_restrict processor files indices processor.runFile).1, records] at alone
  exact ⟨_, whole, alone⟩

/-- A command that was not selected has no status and no messages behind the run. -/
theorem unknown_of_notMem_picked {outcome : Outcome}
    (member : outcome ∈ (processor.runSelected files indices).result.outcomes)
    (absent : outcome.index ∉ picked processor.commands.length indices) :
    outcome.status = .unknown ∧ outcome.messages = [] := by
  obtain ⟨index, command, -, rfl⟩ := exists_of_mem_outcomes member
  rw [picked_eq_filter, ← indices_plan] at absent
  simp only [Outcome.ofCommand] at absent ⊢
  rw [statusAt_of_notMem _ absent]
  exact ⟨rfl, rfl⟩

theorem length_restrict :
    (processor.restrict indices).commands.length =
      (picked processor.commands.length indices).length := by
  rw [← commands_plan_selected, picked_eq_filter, ← indices_plan, Run.Plan.commands,
    List.length_map, List.length_map]

theorem status_runSelected :
    (processor.runSelected files indices).result.status =
      ((processor.restrict indices).runAll files).result.status := by
  refine eq_of_forall_ge_iff fun bound => ?_
  rw [RunResult.status, RunResult.status, Status.worstOf_le_iff, Status.worstOf_le_iff,
    List.forall_mem_map, List.forall_mem_map]
  constructor
  · intro bounded own member
    obtain ⟨position, here⟩ := List.mem_iff_getElem?.mp member
    have inside : position < (picked processor.commands.length indices).length := by
      obtain ⟨inside, -⟩ := List.getElem?_eq_some_iff.mp here
      rwa [runAll, length_outcomes, length_restrict] at inside
    obtain ⟨outcome, there, same⟩ :=
      exists_outcome_of_picked processor files indices (List.getElem?_eq_getElem inside)
    rw [here] at same
    cases same
    exact bounded outcome (List.mem_of_getElem? there)
  · intro bounded outcome member
    by_cases selected : outcome.index ∈ picked processor.commands.length indices
    · obtain ⟨position, taken⟩ := List.mem_iff_getElem?.mp selected
      obtain ⟨other, there, same⟩ := exists_outcome_of_picked processor files indices taken
      rw [runSelected, getElem?_of_mem_outcomes processor _ files _ member] at there
      cases there
      exact bounded { outcome with index := position } (List.mem_of_getElem? same)
    · rw [(unknown_of_notMem_picked processor files indices member selected).1]
      exact Status.unknown_le bound

/-- Running the commands at the given indices is running the list that holds these commands
alone. -/
theorem runSelected_eq_runAll_restrict (processor : Processor) (files : FileSystem)
    (indices : List Nat) :
    let places := picked processor.commands.length indices
    let selected := processor.runSelected files indices
    let alone := (processor.restrict indices).runAll files
    selected.processor.workspace = alone.processor.workspace ∧
    selected.processor.state = alone.processor.state ∧
    selected.processor.cancelled = alone.processor.cancelled ∧
    selected.files = alone.files ∧
    selected.result.status = alone.result.status ∧
    selected.result.ending.abortReason? = alone.result.ending.abortReason? ∧
    alone.result.ending.placed? (places[·]?) = some selected.result.ending ∧
    (∀ position index : Nat, places[position]? = some index →
      ∃ outcome, selected.result.outcomes[index]? = some outcome ∧
        alone.result.outcomes[position]? = some { outcome with index := position }) ∧
    (∀ outcome ∈ selected.result.outcomes, outcome.index ∉ places →
      outcome.status = .unknown ∧ outcome.messages = []) := by
  intro places selected alone
  obtain ⟨machines, endings⟩ := walked_restrict processor files indices processor.runFile
  have reasons : selected.result.ending.abortReason? = alone.result.ending.abortReason? :=
    Run.Ending.abortReason?_of_placed? endings
  refine ⟨congrArg (·.workspace) machines.symm, ?_, congrArg (·.cancelled) machines.symm,
    congrArg (·.files) machines.symm, status_runSelected processor files indices, reasons,
    endings, fun position index => exists_outcome_of_picked processor files indices,
    fun outcome => unknown_of_notMem_picked processor files indices⟩
  have aborted : selected.result.ending.isAborted = alone.result.ending.isAborted :=
    congrArg Option.isSome reasons
  change (if selected.result.ending.isAborted then RunState.aborted else .completed) =
    if alone.result.ending.isAborted then RunState.aborted else .completed
  rw [aborted]

end Workflow.Processor
