import Workflow.Proofs.Run.Program
import Workflow.Proofs.Run.Trace
import Workflow.Proofs.Sessions

/-!
# Repeated runs

A run reads everything of its commands but the status of their last run, and it starts with a
machine of its own.  So a processor runs in the same way whatever it has run before, as soon as its
workspace and its cancellation are again what they were.
-/

namespace Workflow

namespace Run

/-- A command of a plan without the status of its last run. -/
def Planned.withoutStatus (planned : Planned) : Planned :=
  { planned with command := planned.command.withoutStatus }

/-- A plan without the statuses of the last run. -/
def Plan.withoutStatuses (plan : Plan) : Plan := plan.map Planned.withoutStatus

/-- A stride without the status that its command has from the last run. -/
def Stride.withoutStatus (stride : Stride) : Stride :=
  { stride with planned := stride.planned.withoutStatus }

variable {setting : Setting} {plan : Plan} {machine : Machine} {planned : Planned}

theorem Plan.size_withoutStatuses (plan : Plan) : plan.withoutStatuses.size = plan.size :=
  Array.size_map

theorem Plan.getElem?_withoutStatuses (plan : Plan) (position : Nat) :
    plan.withoutStatuses[position]? = plan[position]?.map Planned.withoutStatus :=
  Array.getElem?_map

theorem bodyLength?_withoutStatuses (plan : Plan) (position : Nat) (kind : BlockKind)
    (name : String) :
    bodyLength? plan.withoutStatuses position kind name = bodyLength? plan position kind name := by
  have commands : plan.withoutStatuses.commands = plan.commands.map Command.withoutStatus := by
    simp only [Plan.commands, Plan.withoutStatuses, Array.toList_map, List.map_map]
    rfl
  rw [bodyLength?_eq, bodyLength?_eq, commands, ← List.map_drop, List.findIdx?_map]
  rfl

/-- The turn of a command depends on no status of the last run. -/
theorem turnAt_withoutStatuses (setting : Setting) (plan : Plan) (machine : Machine)
    (command : Command) :
    turnAt setting plan.withoutStatuses machine command.withoutStatus =
      turnAt setting plan machine command := by
  have opener (kind : BlockKind) :
      (standingAt setting plan.withoutStatuses machine command.withoutStatus).openBlock
          machine.budget machine.scene kind =
        (standingAt setting plan machine command).openBlock machine.budget machine.scene kind := by
    simp only [Standing.openBlock, standingAt, skipBlock, enclosedBody,
      bodyLength?_withoutStatuses]
    rfl
  have role : command.withoutStatus.role? = command.role? := rfl
  simp only [turnAt, Standing.dispatch, standingAt, role]
  split
  · exact opener .loop
  · rfl
  · exact opener .conditional
  · rfl
  · rfl

theorem step_withoutStatuses (setting : Setting) (plan : Plan) (machine : Machine)
    (planned : Planned) :
    step setting plan.withoutStatuses machine planned.withoutStatus =
      step setting plan machine planned := by
  have turns := turnAt_withoutStatuses setting plan machine planned.command
  cases active : planned.command.isInert with
  | true =>
      have activeToo : planned.withoutStatus.command.isInert = true := active
      rw [step_of_inert active, step_of_inert activeToo]
  | false =>
      have activeToo : planned.withoutStatus.command.isInert = false := active
      cases running : machine.cancelled with
      | true => rw [step_of_cancelled active running, step_of_cancelled activeToo running]
      | false =>
          rw [step_of_running active running, step_of_running activeToo running, ← turns]
          rfl

/-- The fault of a block that is left open names no status. -/
theorem close_withoutStatuses (plan : Plan) (machine : Machine) :
    close plan.withoutStatuses machine = close plan machine := by
  simp only [close]
  split
  · rfl
  · next innermost outer front =>
      rw [Plan.getElem?_withoutStatuses]
      cases plan[innermost.start]? <;> rfl

/-- A walk depends on no status of the last run: it comes to the same commands with the same
machines, and ends in the same way. -/
theorem walk_withoutStatuses (setting : Setting) (plan : Plan) (machine : Machine) :
    walk setting plan.withoutStatuses machine = walk setting plan machine ∧
      trace setting plan.withoutStatuses machine =
        (trace setting plan machine).map Stride.withoutStatus := by
  have found {machine : Machine} {planned : Planned}
      (here : plan[machine.position]? = some planned) :
      plan.withoutStatuses[machine.position]? = some planned.withoutStatus := by
    rw [Plan.getElem?_withoutStatuses, here]
    rfl
  induction machine using walk_induction setting plan with
  | outside machine outside =>
      have outsideToo : plan.withoutStatuses.size ≤ machine.position := by
        rwa [Plan.size_withoutStatuses]
      rw [walk_of_end outside, walk_of_end outsideToo, trace_of_end outside,
        trace_of_end outsideToo]
      exact ⟨close_withoutStatuses plan machine, rfl⟩
  | ends machine planned last ending here ends =>
      have endsToo := ends
      rw [← step_withoutStatuses] at endsToo
      rw [walk_of_ends here ends, walk_of_ends (found here) endsToo, trace_of_ends here ends,
        trace_of_ends (found here) endsToo]
      exact ⟨rfl, rfl⟩
  | goes machine planned next here goes ih =>
      have goesToo := goes
      rw [← step_withoutStatuses] at goesToo
      rw [walk_of_goes here goes, walk_of_goes (found here) goesToo, trace_of_goes here goes,
        trace_of_goes (found here) goesToo, ih.2]
      exact ⟨ih.1, rfl⟩

end Run

namespace Processor

/-- Two processors with everything in common that a run reads.  They may have been loaded from
different files, and their commands may have different statuses from their last runs. -/
structure IsAlike (left right : Processor) : Prop where
  registry : left.registry = right.registry
  configuration : left.configuration = right.configuration
  depth : left.depth = right.depth
  cancelled : left.cancelled = right.cancelled
  workspace : left.workspace = right.workspace
  commands :
    left.commands.map Command.withoutStatus = right.commands.map Command.withoutStatus

/-- A processor after some runs of any of its commands.  Between the runs its workspace and its
cancellation may have been changed, and so what the runs did to them may have been undone. -/
inductive HasRun (start : Processor) : Processor → Prop where
  | never : HasRun start start
  | again {processor : Processor} (files : FileSystem) (chosen : Nat → Bool)
      (workspace : Workspace) (cancelled : Bool) (before : HasRun start processor) :
      HasRun start
        { (runWith processor.runFile processor files chosen).processor with workspace, cancelled }

/-- Two runs with the same result that leave the same behind. -/
structure Run.Agrees (one other : Run) : Prop where
  result : one.result = other.result
  files : one.files = other.files
  workspace : one.processor.workspace = other.processor.workspace
  commands : one.processor.commands = other.processor.commands
  state : one.processor.state = other.processor.state
  cancelled : one.processor.cancelled = other.processor.cancelled

/-- A processor as if it had been given its commands and had never run. -/
def unrun (processor : Processor) : Processor :=
  { processor with
    commands := processor.commands.map Command.withoutStatus
    state := .ready
    commandFile := none }

theorem IsAlike.unrun_eq {left right : Processor} (alike : left.IsAlike right) :
    left.unrun = right.unrun := by
  simp only [unrun, alike.registry, alike.configuration, alike.depth, alike.cancelled,
    alike.workspace, alike.commands]

theorem plan_withoutStatus (commands : List Command) (chosen : Nat → Bool) :
    plan (commands.map Command.withoutStatus) chosen =
      (plan commands chosen).withoutStatuses := by
  have indexed : (commands.map Command.withoutStatus).mapIdx
      (fun index command => (⟨index, command⟩ : Run.Planned)) =
        (commands.mapIdx fun index command => ⟨index, command⟩).map
          Run.Planned.withoutStatus := by
    apply List.ext_getElem
    · simp
    · intro index left right
      simp [Run.Planned.withoutStatus]
  simp only [plan, Run.Plan.withoutStatuses, indexed, List.filter_map, List.map_toArray]
  rfl

theorem withRecords_withoutStatus (commands : List Command) (plan : Run.Plan)
    (machine : Run.Machine) :
    withRecords (commands.map Command.withoutStatus) plan.withoutStatuses machine =
      withRecords commands plan machine := by
  apply List.ext_getElem?
  intro index
  have search : (plan.withoutStatuses.findIdx? fun planned => planned.index == index) =
      plan.findIdx? fun planned => planned.index == index := by
    rw [Run.Plan.withoutStatuses, Array.findIdx?_map]
    rfl
  simp only [withRecords, List.getElem?_mapIdx, List.getElem?_map, search, Option.map_map]
  rfl

section

variable (processor : Processor) (runFile : Action) (files : FileSystem) (chosen : Nat → Bool)

theorem machine_unrun (plan : Run.Plan) :
    processor.unrun.machine files plan.withoutStatuses = processor.machine files plan := by
  simp only [machine, Run.Plan.withoutStatuses, Array.map_map]
  rfl

/-- A run of a processor comes to the same commands with the same machines as one of a processor
that has never run, and ends in the same way. -/
theorem walked_unrun :
    processor.unrun.walked runFile files chosen = processor.walked runFile files chosen ∧
      processor.unrun.trace runFile files chosen =
        (processor.trace runFile files chosen).map Run.Stride.withoutStatus := by
  have commands : processor.unrun.commands = processor.commands.map Command.withoutStatus := rfl
  simp only [walked, trace, commands, plan_withoutStatus, machine_unrun]
  exact Run.walk_withoutStatuses _ _ _

theorem agrees_unrun :
    Run.Agrees (runWith runFile processor.unrun files chosen)
      (runWith runFile processor files chosen) := by
  have walks := (walked_unrun processor runFile files chosen).1
  have commands : processor.unrun.commands = processor.commands.map Command.withoutStatus := rfl
  simp only [walked, commands, plan_withoutStatus] at walks
  constructor <;>
    simp only [runWith, commands, plan_withoutStatus, walks, withRecords_withoutStatus]

end

theorem Run.Agrees.symm {one other : Run} (agrees : one.Agrees other) : other.Agrees one :=
  ⟨agrees.result.symm, agrees.files.symm, agrees.workspace.symm, agrees.commands.symm,
    agrees.state.symm, agrees.cancelled.symm⟩

theorem Run.Agrees.trans {one middle other : Run} (first : one.Agrees middle)
    (second : middle.Agrees other) : one.Agrees other :=
  ⟨first.result.trans second.result, first.files.trans second.files,
    first.workspace.trans second.workspace, first.commands.trans second.commands,
    first.state.trans second.state, first.cancelled.trans second.cancelled⟩

section

variable {left right start later : Processor}

/-- A run changes nothing of what a run reads but the workspace and the cancellation. -/
theorem HasRun.isAlike (ran : start.HasRun later) (workspace : later.workspace = start.workspace)
    (cancelled : later.cancelled = start.cancelled) : later.IsAlike start := by
  have kept : later.registry = start.registry ∧ later.configuration = start.configuration ∧
      later.depth = start.depth ∧
      later.commands.map Command.withoutStatus = start.commands.map Command.withoutStatus := by
    clear workspace cancelled
    induction ran with
    | never => exact ⟨rfl, rfl, rfl, rfl⟩
    | again files chosen _ _ _ ih =>
        obtain ⟨registry, configuration, depth, commands⟩ := ih
        exact ⟨registry, configuration, depth,
          (withoutStatus_withRecords _ _ _).trans commands⟩
  exact ⟨kept.1, kept.2.1, kept.2.2.1, cancelled, workspace, kept.2.2.2⟩

theorem IsAlike.trans {middle : Processor} (first : left.IsAlike middle)
    (second : middle.IsAlike right) : left.IsAlike right :=
  ⟨first.registry.trans second.registry, first.configuration.trans second.configuration,
    first.depth.trans second.depth, first.cancelled.trans second.cancelled,
    first.workspace.trans second.workspace, first.commands.trans second.commands⟩

theorem IsAlike.runFile_eq (alike : left.IsAlike right) : left.runFile = right.runFile := by
  rw [runFile, runFile, alike.registry, alike.depth]

/-- The chosen commands run in the same way on processors that are alike. -/
theorem IsAlike.agrees (alike : left.IsAlike right) (files : FileSystem) (chosen : Nat → Bool) :
    Run.Agrees (runWith left.runFile left files chosen)
      (runWith right.runFile right files chosen) := by
  have first := agrees_unrun left left.runFile files chosen
  have second := agrees_unrun right right.runFile files chosen
  rw [alike.unrun_eq, alike.runFile_eq] at first
  rw [alike.runFile_eq]
  exact first.symm.trans second

/-- A run does not remember earlier runs.  Processors that only differ in the statuses, the state
and the file that were left behind have the same results and leave the same behind, whichever
commands are run, and on the way their machines are the same at every command.  A processor
that has run becomes such a processor as soon as its workspace and its cancellation are restored. -/
theorem runs_forget (alike : left.IsAlike right) (files : FileSystem) :
    Run.Agrees (left.runAll files) (right.runAll files) ∧
    (∀ indices : List Nat,
      Run.Agrees (left.runSelected files indices) (right.runSelected files indices)) ∧
    (∀ chosen : Nat → Bool,
      (left.trace left.runFile files chosen).map Run.Stride.withoutStatus =
        (right.trace right.runFile files chosen).map Run.Stride.withoutStatus) ∧
    ∀ later : Processor, left.HasRun later → later.workspace = left.workspace →
      later.cancelled = left.cancelled → later.IsAlike right := by
  refine ⟨alike.agrees files _, fun indices => alike.agrees files _, ?_, ?_⟩
  · intro chosen
    have first := (walked_unrun left left.runFile files chosen).2
    have second := (walked_unrun right right.runFile files chosen).2
    rw [alike.unrun_eq, alike.runFile_eq] at first
    rw [← second, first, alike.runFile_eq]
  · intro later ran workspace cancelled
    exact (ran.isAlike workspace cancelled).trans alike

end

/-- A text that asks to halt after failures, and then fails. -/
def haltingText : String :=
  "SetErrorPolicy(OnFailure=Halt)
Mesage(Message=a)
Message(Message=b)"

/-- A processor that was halted by its policy runs the rest of its commands without the policy. -/
theorem runs_forget_halted :
    ∃ fresh used : Processor, fresh.HasRun used ∧ used.IsAlike fresh ∧
      used.commands.map (·.status.overall) = [.success, .failure, .unknown] ∧
      (used.runSelected (.empty [] "/") [1, 2]).result =
        (fresh.runSelected (.empty [] "/") [1, 2]).result ∧
      (used.runSelected (.empty [] "/") [1, 2]).result.ending = .finished := by
  let files := FileSystem.empty [] "/"
  let fresh := (create Builtin.registry {} files 0).loadText haltingText
  let used : Processor :=
    { (fresh.runAll files).processor with
      workspace := fresh.workspace
      cancelled := fresh.cancelled }
  have ran : fresh.HasRun used := .again files _ fresh.workspace fresh.cancelled .never
  have alike : used.IsAlike fresh := ran.isAlike rfl rfl
  obtain ⟨-, selected, -⟩ := runs_forget alike files
  refine ⟨fresh, used, ran, alike, by decide +kernel, (selected [1, 2]).result, ?_⟩
  rw [(selected [1, 2]).result]
  decide +kernel

end Processor

end Workflow
