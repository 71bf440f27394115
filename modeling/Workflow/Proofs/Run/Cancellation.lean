import Workflow.Proofs.Run.Accounting
import Workflow.Proofs.Sessions
import Workflow.Script

/-!
# Cancelled runs

A run looks at its cancellation whenever it comes to a command.  So a run that is cancelled while
one command runs, or before its first one, passes over the lines that never run and ends at the
command that it comes to next, with a failure of this command and without running it.  If it comes
to none, the cancellation has no effect: the run ends as it would have ended anyway.
-/

namespace Workflow

theorem StatusRecord.combine_concat_add (executions : List StatusRecord) (record : Record) :
    combine (executions ++ [fresh.add record]) = (combine executions).add record := by
  obtain ⟨phase, severity, problem, recommendation⟩ := record
  have alone (status : Status) : Status.worstOf [status] = status := by
    cases status <;> rfl
  cases phase <;>
    simp [combine, add, promote, fresh, Status.worstOf_append, alone, Status.worst_eq_max]

namespace Run

variable {setting : Setting} {plan : Plan} {machine next last : Machine} {planned own : Planned}
variable {ending : Ending} {position : Nat}

/-- The next command of a plan that is no line that never runs. -/
def Plan.next? (plan : Plan) (position : Nat) : Option Planned :=
  (plan.toList.drop position).find? fun planned => !planned.command.isInert

theorem Plan.next?_of_end (outside : plan.size ≤ position) : plan.next? position = none := by
  rw [next?, List.drop_eq_nil_of_le (by simpa using outside)]
  rfl

theorem Plan.next?_of_inert (here : plan[position]? = some planned)
    (inert : planned.command.isInert = true) :
    plan.next? position = plan.next? (position + 1) := by
  rw [next?, drop_of_getElem? here, List.find?_cons_of_neg (by simp [inert])]
  rfl

theorem Plan.next?_of_active (here : plan[position]? = some planned)
    (active : planned.command.isInert = false) : plan.next? position = some planned := by
  rw [next?, drop_of_getElem? here, List.find?_cons_of_pos (by simp [active])]

/-- A command that was dispatched does not cancel its run at once. -/
theorem ending_ne_cancelled (active : planned.command.isInert = false)
    (running : machine.cancelled = false)
    (ends : step setting plan machine planned = .ends last ending) : ending ≠ .cancelled := by
  rintro rfl
  rw [step_of_running active running] at ends
  simp only [finish] at ends
  split at ends
  · cases ends
  · split at ends
    · cases ends
    · split at ends <;> cases ends

/-! ## The rest of a cancelled walk -/

/-- A walk that runs no command any more.  It ends at the command that it comes to next, to which
alone it adds something, and otherwise for another reason than the cancellation. -/
structure IsIdle (setting : Setting) (plan : Plan) (machine : Machine) : Prop where
  idle : ∀ stride ∈ trace setting plan machine,
    ¬ stride.Dispatches ∧ stride.after.workspace = machine.workspace
  workspace : (walk setting plan machine).1.workspace = machine.workspace
  cancelled : ∀ planned, plan.next? machine.position = some planned →
    (walk setting plan machine).2 = .cancelled ∧
    ∃ position : Nat, plan[position]? = some planned ∧
      (walk setting plan machine).1.executions =
        machine.executions.modify position (failureRecord "Run cancelled" :: ·)
  spared : plan.next? machine.position = none → (walk setting plan machine).2 ≠ .cancelled

/-- At the end of its plan a walk only looks for blocks that are still open. -/
theorem isIdle_of_end (outside : plan.size ≤ machine.position) : IsIdle setting plan machine := by
  constructor
  case idle =>
    rw [trace_of_end outside]
    intro stride member
    cases member
  case workspace =>
    rw [walk_of_end outside, close]
    split
    · rfl
    · split <;> rfl
  case cancelled =>
    rw [Plan.next?_of_end outside]
    intro planned none
    cases none
  case spared =>
    intro _ cancelled
    rw [walk_of_end outside, close] at cancelled
    split at cancelled
    · cases cancelled
    · split at cancelled <;> cases cancelled

theorem isIdle_of_active (here : plan[machine.position]? = some planned)
    (active : planned.command.isInert = false) (cancelled : machine.cancelled = true) :
    IsIdle setting plan machine := by
  have ends : step setting plan machine planned =
      .ends (machine.recordAt machine.position (failureRecord "Run cancelled")) .cancelled :=
    step_of_cancelled active cancelled
  have next := Plan.next?_of_active here active
  constructor
  case idle =>
    rw [trace_of_ends here ends]
    intro stride member
    rw [List.mem_singleton.mp member]
    refine ⟨fun dispatches => ?_, rfl⟩
    exact absurd cancelled (Bool.eq_false_iff.mp dispatches.2)
  case workspace =>
    rw [walk_of_ends here ends]
    rfl
  case cancelled =>
    rw [next, walk_of_ends here ends]
    intro other same
    cases same
    exact ⟨rfl, machine.position, here, rfl⟩
  case spared =>
    rw [next]
    intro none
    cases none

theorem isIdle_of_inert (here : plan[machine.position]? = some planned)
    (inert : planned.command.isInert = true)
    (later : IsIdle setting plan (machine.go (.ahead 0))) : IsIdle setting plan machine := by
  have goes : step setting plan machine planned = .goes (machine.go (.ahead 0)) :=
    step_of_inert inert
  have next := Plan.next?_of_inert here inert
  constructor
  case idle =>
    rw [trace_of_goes here goes, List.forall_mem_cons]
    refine ⟨⟨fun dispatches => ?_, rfl⟩, later.idle⟩
    exact absurd inert (Bool.eq_false_iff.mp dispatches.1)
  case workspace =>
    rw [walk_of_goes here goes]
    exact later.workspace
  case cancelled =>
    rw [next, walk_of_goes here goes]
    exact later.cancelled
  case spared =>
    rw [next, walk_of_goes here goes]
    exact later.spared

/-- A cancelled walk runs no command any more. -/
theorem isIdle_of_cancelled (cancelled : machine.cancelled = true) :
    IsIdle setting plan machine := by
  induction machine using walk_induction setting plan with
  | outside machine outside => exact isIdle_of_end outside
  | ends machine planned last ending here ends =>
      refine isIdle_of_active here ?_ cancelled
      by_contra inert
      rw [step_of_inert (by simpa using inert)] at ends
      cases ends
  | goes machine planned next here goes ih =>
      -- only a line that never runs lets a cancelled walk go on
      cases active : planned.command.isInert with
      | true =>
          rw [step_of_inert active] at goes
          cases goes
          exact isIdle_of_inert here active (ih cancelled)
      | false => exact isIdle_of_active here active cancelled

/-! ## Commands that were not dispatched -/

theorem executionsAt_of_ne {status : StatusRecord} {other : Nat}
    (notes : next.executions = machine.executions.modify position (status :: ·))
    (differ : position ≠ other) : next.executionsAt other = machine.executionsAt other := by
  simp [Machine.executionsAt, notes, Array.getD_eq_getD_getElem?, Array.getElem?_modify, differ]

/-- A step that does not dispatch a command and goes on, or dispatches another one, leaves the
executions of the command as they were. -/
theorem executionsAt_step (distinct : (plan.toList.map (·.index)).Nodup)
    (here : plan[machine.position]? = some planned) (stands : plan[position]? = some own)
    (other : planned.command.isInert = true ∨ planned.index ≠ own.index) :
    (step setting plan machine planned).machine.executionsAt position =
      machine.executionsAt position := by
  have notes := executions_step setting plan machine planned
  cases executes : execution? setting plan machine planned.command with
  | none =>
      rw [executes] at notes
      simp only [Machine.executionsAt, notes]
  | some status =>
      rw [executes] at notes
      refine executionsAt_of_ne notes fun same => ?_
      rcases other with inert | differ
      · rw [execution?_of_inert inert] at executes
        cases executes
      · exact differ ((index_eq_iff distinct here stands).mpr same)

/-- Up to the end of a dispatch nothing is executed of a command that was not dispatched. -/
theorem executionsAt_of_split (distinct : (plan.toList.map (·.index)).Nodup)
    (stands : plan[position]? = some own) {earlier later : List Stride} {stride : Stride}
    (splits : trace setting plan machine = earlier ++ stride :: later)
    (dispatches : stride.Dispatches)
    (others : ∀ other ∈ earlier ++ [stride], other.Dispatches → other.planned.index ≠ own.index) :
    stride.after.executionsAt position = machine.executionsAt position := by
  refine holds_of_split (motive := fun last => last.executionsAt position =
    machine.executionsAt position) splits rfl ?_
  intro other member here steps goes kept
  have differ : other.planned.command.isInert = true ∨ other.planned.index ≠ own.index := by
    rcases goes with goes | rfl
    · obtain ⟨inert, -⟩ | ⟨active, running, -⟩ := step_eq_goes goes
      · exact .inl inert
      · exact .inr (others other member ⟨active, running⟩)
    · exact .inr (others other member dispatches)
  rw [← steps, executionsAt_step distinct here stands differ, kept]

theorem size_executions_of_split {earlier later : List Stride} {stride : Stride}
    (splits : trace setting plan machine = earlier ++ stride :: later) :
    stride.after.executions.size = machine.executions.size := by
  refine holds_of_split (motive := fun last => last.executions.size = machine.executions.size)
    splits rfl ?_
  intro other _ _ steps _ kept
  rw [← steps, size_executions_step, kept]

end Run

namespace Processor

/-- The failure of the command at which a cancelled run ends. -/
def cancellation : Record := ⟨.run, .failure, "Run cancelled", none⟩

/-- A run that was found cancelled at a machine, with the strides before and behind it.  Nothing is
dispatched any more, and the command that the run comes to next, if there is one, has the
cancellation as its one more entry. -/
structure Run.EndsCancelled (run : Run) (plan : Run.Plan) (machine : Run.Machine)
    (earlier later : List Run.Stride) : Prop where
  idle : ∀ stride ∈ later, ¬ stride.Dispatches ∧ stride.after.workspace = machine.workspace
  workspace : run.processor.workspace = machine.workspace
  aborted : ∀ planned, plan.next? machine.position = some planned →
    run.processor.state = .aborted ∧ run.result.ending = .cancelled
  charged : ∀ planned, plan.next? machine.position = some planned →
    ∀ (index : Nat) (command : Command), run.processor.commands[index]? = some command →
      command.status = if planned.index = index then (statusAt plan machine index).add cancellation
        else statusAt plan machine index
  /-- Of every other command nothing is known, unless it was dispatched before. -/
  untouched : ∀ planned, plan.next? machine.position = some planned →
    ∀ outcome ∈ run.result.outcomes, outcome.index ≠ planned.index →
      (∀ stride ∈ earlier, stride.Dispatches → stride.planned.index ≠ outcome.index) →
      outcome.status = .unknown ∧ outcome.messages = []
  spared : plan.next? machine.position = none → run.result.ending ≠ .cancelled

section

variable {plan : Run.Plan} {machine last : Run.Machine} {position : Nat} {planned : Run.Planned}

/-- One more entry for the command at a position of a plan. -/
theorem statusAt_of_modify (distinct : (plan.toList.map (·.index)).Nodup)
    (sized : machine.executions.size = plan.size) (here : plan[position]? = some planned)
    {record : Record}
    (notes : last.executions =
      machine.executions.modify position (StatusRecord.fresh.add record :: ·)) (index : Nat) :
    statusAt plan last index =
      if planned.index = index then (statusAt plan machine index).add record
      else statusAt plan machine index := by
  obtain ⟨inside, -⟩ := Array.getElem?_eq_some_iff.mp here
  have recordAt_eq (machine : Run.Machine) (position : Nat) :
      recordAt machine position = StatusRecord.combine (machine.executionsAt position) := rfl
  split
  · next same =>
      subst same
      simp only [statusAt, findIdx?_of_getElem? distinct here, recordAt_eq,
        Run.executionsAt_of_modify notes (sized ▸ inside), if_pos]
      exact StatusRecord.combine_concat_add _ _
  · next differ =>
      simp only [statusAt]
      split
      · next other found =>
          obtain ⟨within, matched, -⟩ := Array.findIdx?_eq_some_iff_getElem.mp found
          have elsewhere : position ≠ other := by
            rintro rfl
            have same := Array.getElem?_eq_getElem within
            rw [here] at same
            cases same
            exact differ (beq_iff_eq.mp matched)
          rw [recordAt_eq, recordAt_eq, Run.executionsAt_of_ne notes elsewhere]
      · rfl

theorem statusAt_of_not_executed {index : Nat}
    (quiet : ∀ (position : Nat) (planned : Run.Planned), plan[position]? = some planned →
      planned.index = index → machine.executionsAt position = []) :
    statusAt plan machine index = .fresh := by
  simp only [statusAt]
  split
  · next position found =>
      obtain ⟨inside, matched, -⟩ := Array.findIdx?_eq_some_iff_getElem.mp found
      have none := quiet position _ (Array.getElem?_eq_getElem inside) (beq_iff_eq.mp matched)
      change StatusRecord.combine (machine.executionsAt position) = .fresh
      rw [none, StatusRecord.combine_nil]
  · rfl

end

section

variable (processor : Processor) (files : FileSystem) (chosen : Nat → Bool)

/-- A run that is idle from a machine on ends as it was found there. -/
theorem endsCancelled_of_isIdle {machine : Run.Machine} {earlier : List Run.Stride}
    (idle : Run.IsIdle (processor.setting processor.runFile) (plan processor.commands chosen)
      machine)
    (walks : processor.walked processor.runFile files chosen =
      Run.walk (processor.setting processor.runFile) (plan processor.commands chosen) machine)
    (sized : machine.executions.size = (plan processor.commands chosen).size)
    (quiet : ∀ (position : Nat) (planned : Run.Planned),
      (plan processor.commands chosen)[position]? = some planned →
      (∀ stride ∈ earlier, stride.Dispatches → stride.planned.index ≠ planned.index) →
      machine.executionsAt position = []) :
    (runWith processor.runFile processor files chosen).EndsCancelled
      (plan processor.commands chosen) machine earlier
      (Run.trace (processor.setting processor.runFile) (plan processor.commands chosen)
        machine) := by
  let plan := plan processor.commands chosen
  let walked := processor.walked processor.runFile files chosen
  have status {planned : Run.Planned} (next : plan.next? machine.position = some planned)
      (index : Nat) :
      statusAt plan walked.1 index =
        if planned.index = index then (statusAt plan machine index).add cancellation
        else statusAt plan machine index := by
    obtain ⟨-, position, here, notes⟩ := idle.cancelled planned next
    rw [← walks] at notes
    exact statusAt_of_modify (nodup_indices_plan _ _) sized here notes index
  constructor
  case idle => exact idle.idle
  case workspace =>
    change walked.1.workspace = machine.workspace
    rw [← idle.workspace, ← walks]
  case aborted =>
    intro planned next
    have cancelled : walked.2 = .cancelled := by
      rw [← (idle.cancelled planned next).1, ← walks]
    refine ⟨?_, cancelled⟩
    change (if walked.2.isAborted then RunState.aborted else .completed) = .aborted
    rw [cancelled]
    rfl
  case charged =>
    intro planned next index command here
    obtain ⟨before, -, rfl⟩ := getElem?_of_withRecords here
    exact status next index
  case untouched =>
    intro planned next outcome member other undispatched
    obtain ⟨index, command, -, rfl⟩ := exists_of_mem_outcomes member
    have fresh : statusAt plan machine index = .fresh := by
      apply statusAt_of_not_executed
      rintro position own stands rfl
      exact quiet position own stands undispatched
    have unknown : statusAt plan walked.1 index = .fresh := by
      rw [status next, if_neg fun same => other same.symm, fresh]
    have outcome : Outcome.ofCommand index { command with status := statusAt plan walked.1 index } =
        Outcome.ofCommand index { command with status := .fresh } := by
      rw [unknown]
    exact ⟨congrArg (·.status) outcome, congrArg (·.messages) outcome⟩
  case spared =>
    intro none
    change walked.2 ≠ .cancelled
    have spared := idle.spared none
    rwa [← walks] at spared

/-- A run that is cancelled before its first command, or by one, runs no further command and leaves
the workspace alone.  If it comes to another command, it is aborted there, with one more failure of
this command and of no other; and if it does not, the cancellation does not end it. -/
theorem cancellation_stops_run :
    let plan := plan processor.commands chosen
    let setting := processor.setting processor.runFile
    let run := runWith processor.runFile processor files chosen
    let trace := processor.trace processor.runFile files chosen
    (processor.cancelled = true →
      run.EndsCancelled plan (processor.machine files plan) [] trace) ∧
    ∀ earlier stride later, trace = earlier ++ stride :: later → stride.Dispatches →
      stride.after.cancelled = true →
      match Run.step setting plan stride.before stride.planned with
      | .goes _ => run.EndsCancelled plan stride.after (earlier ++ [stride]) later
      | .ends _ ending => later = [] ∧ run.processor.workspace = stride.after.workspace ∧
          run.result.ending = ending ∧ ending ≠ .cancelled := by
  intro plan setting run trace
  have distinct := nodup_indices_plan processor.commands chosen
  have sized := size_executions_machine processor files plan
  constructor
  · intro cancelled
    apply endsCancelled_of_isIdle processor files chosen (Run.isIdle_of_cancelled cancelled) rfl
      sized
    intro position planned _ _
    exact executionsAt_machine processor files plan position
  · intro earlier stride later splits dispatches cancelled
    obtain ⟨goes, rfl, walks⟩ | ⟨ending, ends, last, walks⟩ := Run.trace_split splits
    · rw [goes]
      apply endsCancelled_of_isIdle processor files chosen (Run.isIdle_of_cancelled cancelled) walks
      · rw [Run.size_executions_of_split splits, sized]
      · intro position planned stands others
        rw [Run.executionsAt_of_split distinct stands splits dispatches others,
          executionsAt_machine]
    · rw [ends]
      refine ⟨last, ?_, ?_, Run.ending_ne_cancelled dispatches.1 dispatches.2 ends⟩
      · exact congrArg (·.1.workspace) walks
      · exact congrArg (·.2) walks

end

/-- A command file whose only command cancels the run. -/
def stoppingFile : FileSystem :=
  (FileSystem.empty ["work"] "/home").store ["work", "stop.gp"] "Stop()".toUTF8

/-- The built-in commands with one that cancels the run, in a list that comes to it through a
command file. -/
def stopping : Processor :=
  let stop : Definition := { name := "Stop", description := "", parameters := [] }
  (create (Builtin.registry.insert "Stop" (Script.command stop [] [.cancel])) {} stoppingFile
    0).loadText
      "RunCommands(CommandFile=stop.gp)\n# then\nMessage(Message=next)\nMessage(Message=last)"

/-- The run ends at the command behind the comment, and the last one is not known of. -/
theorem cancellation_stops_run_stopping :
    ∃ stride later,
      stopping.trace stopping.runFile stoppingFile (fun _ => true) = [] ++ stride :: later ∧
      stride.Dispatches ∧ stride.after.cancelled = true ∧
      (let run := runWith stopping.runFile stopping stoppingFile fun _ => true
       run.EndsCancelled (plan stopping.commands fun _ => true) stride.after [stride] later ∧
        run.result.ending = .cancelled ∧
        run.result.outcomes.map (·.status) = [.success, .unknown, .failure, .unknown]) := by
  have shape : (stopping.trace stopping.runFile stoppingFile fun _ => true).map (fun stride =>
      (stride.planned.command.isInert, stride.before.cancelled, stride.after.cancelled)) =
        [(false, false, true), (true, true, true), (false, true, true)] := by
    decide +kernel
  obtain ⟨stride, later, splits, first, rest⟩ := List.map_eq_cons_iff.mp shape
  simp only [Prod.mk.injEq] at first
  have front : stopping.trace stopping.runFile stoppingFile (fun _ => true) =
      [] ++ stride :: later := splits
  have dispatches : stride.Dispatches := ⟨first.1, first.2.1⟩
  obtain ⟨-, stops⟩ := cancellation_stops_run stopping stoppingFile fun _ => true
  have stopped := stops [] stride later front dispatches first.2.2
  obtain ⟨goes, -⟩ | ⟨ending, -, none, -⟩ := Run.trace_split front
  · rw [goes] at stopped
    exact ⟨stride, later, front, dispatches, first.2.2, stopped, by decide +kernel,
      by decide +kernel⟩
  · rw [none] at rest
    cases rest

end Processor

end Workflow
