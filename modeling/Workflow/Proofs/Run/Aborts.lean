import Workflow.Console.Program
import Workflow.Proofs.Run.Accounting
import Workflow.Proofs.Run.Termination
import Workflow.Proofs.Sessions

/-!
# Runs that are aborted

A run ends in one of five ways, and two of them abort it: it was cancelled, or its blocks are at
fault.  Either way the abort is a failure of one command, noted behind all that the dispatches of
the run have made their commands record, and the failure of this one command is enough for whoever
judges the run.
-/

namespace Workflow.Run

/-- The index of the command at which a run was stopped before the end of its plan. -/
def Ending.stop? : Ending → Option Nat
  | .exited index | .haltedOnFailure index => some index
  | .finished | .cancelled | .faulted _ => none

/-- The failure with which a run is aborted. -/
def Ending.record? : Ending → Option Record
  | .cancelled => some ⟨.run, .failure, "Run cancelled", none⟩
  | .faulted fault => some ⟨.run, .failure, fault.message, none⟩
  | .finished | .exited _ | .haltedOnFailure _ => none

theorem Ending.isSome_record? (ending : Ending) :
    ending.record?.isSome = ending.abortReason?.isSome := by
  cases ending <;> rfl

theorem Ending.severity_of_record? {ending : Ending} {record : Record}
    (aborts : ending.record? = some record) : record.severity = .failure := by
  cases ending <;> cases aborts <;> rfl

theorem Ending.stop?_of_aborted {ending : Ending}
    (aborts : ending.abortReason?.isSome = true) : ending.stop? = none := by
  cases ending <;> first | rfl | cases aborts

/-- The failure with which a step aborts its run. -/
def Progress.record? : Progress → Option Record
  | .goes _ => none
  | .ends _ ending => ending.record?

/-- What a dispatch makes its command record.  The failure with which a run is aborted is not part
of it. -/
def Stride.report? (setting : Setting) (plan : Plan) (stride : Stride) : Option Entry :=
  if stride.planned.command.isInert || stride.before.cancelled then none
  else some ⟨stride.planned.index,
    (turnAt setting plan stride.before stride.planned.command).scene.status.records⟩

/-- What the dispatches of a walk make their commands record, in order. -/
def reports (setting : Setting) (plan : Plan) (machine : Machine) : List Entry :=
  (trace setting plan machine).filterMap (Stride.report? setting plan)

variable {setting : Setting} {plan : Plan} {machine next last : Machine} {planned : Planned}
variable {ending : Ending} {record : Record}

theorem reports_of_end (outside : plan.size ≤ machine.position) :
    reports setting plan machine = [] := by
  rw [reports, trace_of_end outside]
  rfl

theorem reports_of_goes (here : plan[machine.position]? = some planned)
    (goes : step setting plan machine planned = .goes next) :
    reports setting plan machine =
      (Stride.report? setting plan ⟨machine, planned, next⟩).toList ++
        reports setting plan next := by
  rw [reports, trace_of_goes here goes, reports, List.filterMap_cons]
  cases Stride.report? setting plan ⟨machine, planned, next⟩ <;> rfl

theorem reports_of_ends (here : plan[machine.position]? = some planned)
    (ends : step setting plan machine planned = .ends last ending) :
    reports setting plan machine =
      (Stride.report? setting plan ⟨machine, planned, last⟩).toList := by
  rw [reports, trace_of_ends here ends, List.filterMap_cons]
  cases Stride.report? setting plan ⟨machine, planned, last⟩ <;> rfl

/-! ## What an abort adds to a record -/

theorem flatten_addedAt_append (front back : List Entry) (index : Nat) :
    (addedAt (front ++ back) index).flatten =
      (addedAt front index).flatten ++ (addedAt back index).flatten := by
  rw [addedAt_append, List.flatten_append]

theorem flatten_addedAt_singleton (entry : Entry) (index : Nat) :
    (addedAt [entry] index).flatten = if entry.index = index then entry.added else [] := by
  by_cases same : entry.index = index <;> simp [addedAt, same]

theorem records_status_turn (index : Nat) (turn : Turn machine.budget) :
    turn.status.records =
      turn.scene.status.records ++ (finish machine index turn).record?.toList := by
  obtain ⟨scene, frames, move⟩ := turn
  cases move with
  | error fault => exact StatusRecord.records_add _ _
  | ok move =>
      simp only [finish, Turn.status]
      split
      · exact (List.append_nil _).symm
      · split <;> exact (List.append_nil _).symm

/-- A turn that aborts its run has failed, whatever its command has recorded. -/
theorem overall_status_turn {index : Nat} {turn : Turn machine.budget}
    (aborts : (finish machine index turn).record? = some record) :
    turn.status.overall = .failure := by
  obtain ⟨scene, frames, move⟩ := turn
  cases move with
  | error fault =>
      change (scene.status.add _).overall = .failure
      rw [StatusRecord.overall_add]
      exact max_eq_right (Status.le_failure _)
  | ok move =>
      simp only [finish] at aborts
      split at aborts
      · cases aborts
      · split at aborts <;> cases aborts

/-- A step adds what its dispatch makes the command record, and then the failure with which it
aborts the run. -/
theorem addition?_eq_report? (setting : Setting) (plan : Plan) (machine next : Machine)
    (planned : Planned) (index : Nat) :
    (addedAt (Stride.addition? setting plan ⟨machine, planned, next⟩).toList index).flatten =
      (addedAt (Stride.report? setting plan ⟨machine, planned, next⟩).toList index).flatten ++
        if planned.index = index then (step setting plan machine planned).record?.toList
        else [] := by
  cases active : planned.command.isInert with
  | true => simp [Stride.addition?, Stride.report?, active, step_of_inert, Progress.record?,
      execution?_of_inert, addedAt]
  | false =>
      cases running : machine.cancelled with
      | true =>
          rw [step_of_cancelled active running]
          simp only [Stride.addition?, Stride.report?, execution?, active, running]
          exact flatten_addedAt_singleton _ _
      | false =>
          rw [step_of_running active running]
          simp only [Stride.addition?, Stride.report?, execution?_of_running active running, active,
            running, Option.map_some, Option.toList_some, Bool.or_self, Bool.false_eq_true,
            if_false, flatten_addedAt_singleton, records_status_turn planned.index]
          split
          · rfl
          · rfl

/-- An execution with which a run is aborted has failed, whatever its command had recorded. -/
theorem exists_execution_of_record?
    (aborts : (step setting plan machine planned).record? = some record) :
    ∃ status, execution? setting plan machine planned.command = some status ∧
      status.overall = .failure := by
  cases active : planned.command.isInert with
  | true =>
      rw [step_of_inert active] at aborts
      cases aborts
  | false =>
      cases running : machine.cancelled with
      | true =>
          refine ⟨failureRecord "Run cancelled", ?_, rfl⟩
          simp [execution?, active, running]
      | false =>
          refine ⟨_, execution?_of_running active running, ?_⟩
          rw [step_of_running active running] at aborts
          exact overall_status_turn aborts

/-! ## What an abort adds to a walk -/

/-- A walk charges the command at an index with its end.  To every other command it only adds what
its dispatches make the command record; to this one it also adds the failure with which it is
aborted, if it is, and then the command has failed. -/
structure Charges (setting : Setting) (plan : Plan) (machine : Machine) (charged : Nat) : Prop where
  added : ∀ index, (addedAt (account setting plan machine) index).flatten =
    (addedAt (reports setting plan machine) index).flatten ++
      if charged = index then (walk setting plan machine).2.record?.toList else []
  failed : (walk setting plan machine).2.record?.isSome = true →
    ∃ (position : Nat) (planned : Planned), plan[position]? = some planned ∧
      planned.index = charged ∧
      ∃ status ∈ (walk setting plan machine).1.executionsAt position, status.overall = .failure

theorem mem_executionsAt_of_modify {position : Nat} {status : StatusRecord}
    (notes : next.executions = machine.executions.modify position (status :: ·))
    (inside : position < machine.executions.size) : status ∈ next.executionsAt position := by
  rw [executionsAt_of_modify notes inside, if_pos rfl]
  exact List.mem_append_right _ List.mem_cons_self

/-- At the end of its plan a walk is aborted for a block that is still open, if there is one. -/
theorem exists_charges_of_end (sized : machine.executions.size = plan.size)
    (outside : plan.size ≤ machine.position) : ∃ charged, Charges setting plan machine charged := by
  have quiet (ended : (close plan machine).2.record? = none)
      (clean : leftOpen? plan machine = none) :
      Charges setting plan machine 0 := by
    constructor
    · intro index
      rw [account_of_end outside, reports_of_end outside, walk_of_end outside, ended, clean]
      split <;> rfl
    · rw [walk_of_end outside, ended]
      intro aborts
      cases aborts
  -- without an open block any command may be charged, for nothing is added
  cases frames : machine.frames with
  | nil => exact ⟨0, quiet (by simp [close, frames, Ending.record?]) (by simp [leftOpen?, frames])⟩
  | cons innermost outer =>
      cases stands : plan[innermost.start]? with
      | none =>
          exact ⟨0, quiet (by simp [close, frames, stands, Ending.record?])
            (by simp [leftOpen?, frames, stands])⟩
      | some opener =>
          obtain ⟨inside, -⟩ := Array.getElem?_eq_some_iff.mp stands
          let fault := missingTerminator opener.command innermost.kind innermost.name
          have closes : close plan machine =
              (machine.recordAt innermost.start (failureRecord fault.message), .faulted fault) := by
            simp only [close, frames, stands, fault]
          have blames : leftOpen? plan machine =
              some ⟨opener.index, (failureRecord fault.message).records⟩ := by
            simp [leftOpen?, frames, stands, fault]
          refine ⟨opener.index, ?_, ?_⟩
          · intro index
            rw [account_of_end outside, reports_of_end outside, walk_of_end outside, closes, blames]
            exact flatten_addedAt_singleton _ _
          · intro
            rw [walk_of_end outside, closes]
            exact ⟨_, _, stands, rfl, _, mem_executionsAt_of_modify rfl (sized ▸ inside), rfl⟩

/-- A step that ends a walk charges its own command. -/
theorem charges_of_ends (sized : machine.executions.size = plan.size)
    (here : plan[machine.position]? = some planned)
    (ends : step setting plan machine planned = .ends last ending) :
    Charges setting plan machine planned.index := by
  obtain ⟨inside, -⟩ := Array.getElem?_eq_some_iff.mp here
  constructor
  · intro index
    rw [account_of_ends here ends, reports_of_ends here ends, walk_of_ends here ends,
      addition?_eq_report?, ends]
    rfl
  · rw [walk_of_ends here ends]
    intro aborts
    obtain ⟨record, aborts⟩ := Option.isSome_iff_exists.mp aborts
    have aborting : (step setting plan machine planned).record? = some record := by
      rw [ends]
      exact aborts
    obtain ⟨status, executes, failed⟩ := exists_execution_of_record? aborting
    have notes := executions_step setting plan machine planned
    rw [ends, executes] at notes
    exact ⟨_, _, here, rfl, status, mem_executionsAt_of_modify notes (sized ▸ inside), failed⟩

theorem charges_of_goes (here : plan[machine.position]? = some planned)
    (goes : step setting plan machine planned = .goes next) {charged : Nat}
    (charges : Charges setting plan next charged) : Charges setting plan machine charged := by
  constructor
  · intro index
    rw [account_of_goes here goes, reports_of_goes here goes, walk_of_goes here goes,
      flatten_addedAt_append, flatten_addedAt_append, charges.added, addition?_eq_report?, goes]
    simp [Progress.record?]
  · rw [walk_of_goes here goes]
    exact charges.failed

theorem exists_charges (sized : machine.executions.size = plan.size) :
    ∃ charged, Charges setting plan machine charged := by
  induction machine using walk_induction setting plan with
  | outside machine outside => exact exists_charges_of_end sized outside
  | ends machine planned last ending here ends =>
      exact ⟨planned.index, charges_of_ends sized here ends⟩
  | goes machine planned next here goes ih =>
      have sizedToo := size_executions_step setting plan machine planned
      rw [goes] at sizedToo
      obtain ⟨charged, charges⟩ := ih (sizedToo.trans sized)
      exact ⟨charged, charges_of_goes here goes charges⟩

end Workflow.Run

namespace Workflow.Processor

open Console

/-- What the dispatches of a run make their commands record. -/
def reports (processor : Processor) (files : FileSystem) (chosen : Nat → Bool) : List Run.Entry :=
  let plan := plan processor.commands chosen
  Run.reports (processor.setting processor.runFile) plan (processor.machine files plan)

/-- A run that is aborted with a failure of the command at an index.  The failure is the last entry
of this command; apart from it every command has the entries that its dispatches have recorded. -/
structure Run.AbortsAt (run : Run) (reports : List Run.Entry) (charged : Nat)
    (failure : Record) : Prop where
  reason : run.result.ending.record? = some failure
  severity : failure.severity = .failure
  records : ∀ (index : Nat) (command : Command), run.processor.commands[index]? = some command →
    command.status.records = (Run.addedAt reports index).flatten ++
      if charged = index then [failure] else []
  outcome : ∃ outcome, run.result.outcomes[charged]? = some outcome ∧ outcome.inert = false ∧
    outcome.status = .failure

/-- A run of commands whose state, ending, outcomes and records are in keeping with each other. -/
structure Run.IsConsistent (run : Run) (commands : List Command) (reports : List Run.Entry) :
    Prop where
  state : run.processor.state =
    if run.result.ending.abortReason?.isSome then .aborted else .completed
  notStopped : run.result.ending.abortReason?.isSome = true → run.result.ending.stop? = none
  /-- There is one outcome for every command, in the order of the list. -/
  outcomes : run.result.outcomes = run.processor.commands.mapIdx Outcome.ofCommand
  commands : run.processor.commands.map Command.withoutStatus = commands.map Command.withoutStatus
  aborted : run.result.ending.abortReason?.isSome = true →
    run.result.status = .failure ∧ ∃ charged failure, run.AbortsAt reports charged failure
  /-- A run counts as a failure exactly when one of the commands that are not passed over failed. -/
  failed : run.result.isFailure = true ↔
    ∃ outcome ∈ run.result.executable, outcome.status = .failure
  /-- No expectation is met by a run that was aborted. -/
  rejected : run.result.ending.abortReason?.isSome = true →
    ∀ (expectation : ExpectedCase) (expected : Status),
      (expectation.judge expected run.result).verdict = .fail

section

variable (processor : Processor) (files : FileSystem) (chosen : Nat → Bool)

theorem overall_statusAt_of_failed {plan : Run.Plan} {machine : Run.Machine} {position : Nat}
    {planned : Run.Planned} {status : StatusRecord}
    (distinct : (plan.toList.map (·.index)).Nodup) (here : plan[position]? = some planned)
    (member : status ∈ machine.executionsAt position) (failed : status.overall = .failure) :
    (statusAt plan machine planned.index).overall = .failure := by
  simp only [statusAt, findIdx?_of_getElem? distinct here]
  change (StatusRecord.combine (machine.executionsAt position)).overall = .failure
  rw [StatusRecord.overall_combine, Status.worstOf_eq_failure_iff, ← failed]
  exact List.mem_map_of_mem member

theorem inert_of_failed {outcome : Outcome}
    (member : outcome ∈ (runWith processor.runFile processor files chosen).result.outcomes)
    (failed : outcome.status = .failure) : outcome.inert = false := by
  obtain ⟨index, command, stands, rfl⟩ := exists_of_mem_outcomes member
  obtain ⟨executions, status, added, -⟩ := exists_executions processor files chosen index
  have charged : executions ≠ [] := by
    rintro rfl
    rw [StatusRecord.combine_nil] at status
    simp only [Outcome.ofCommand, status] at failed
    cases failed
  have some : Run.addedAt (processor.account files chosen) index ≠ [] := by
    rw [← added]
    exact mt List.map_eq_nil_iff.mp charged
  rw [ne_eq, Run.addedAt_eq_nil_iff, not_forall] at some
  obtain ⟨entry, others⟩ := some
  rw [Classical.not_imp, not_not] at others
  obtain ⟨-, other, there, active⟩ := chosen_of_mem_account processor files chosen others.1
  rw [others.2, stands] at there
  cases there
  exact active

/-- An aborted run is charged to a command, which has failed. -/
theorem exists_abortsAt {failure : Record}
    (reason : (runWith processor.runFile processor files chosen).result.ending.record? =
      some failure) :
    ∃ charged, (runWith processor.runFile processor files chosen).AbortsAt
      (processor.reports files chosen) charged failure := by
  let plan := plan processor.commands chosen
  let start := processor.machine files plan
  have ended : (Run.walk (processor.setting processor.runFile) plan start).2.record? =
      some failure := reason
  obtain ⟨charged, charges⟩ : ∃ charged,
      Run.Charges (processor.setting processor.runFile) plan start charged :=
    Run.exists_charges (size_executions_machine processor files plan)
  refine ⟨charged, reason, Run.Ending.severity_of_record? reason, ?_, ?_⟩
  · intro index command stands
    obtain ⟨before, -, rfl⟩ := getElem?_of_withRecords stands
    have added := charges.added index
    rw [ended] at added
    exact (records_statusAt processor files chosen index).trans added
  · have aborts : (Run.walk (processor.setting processor.runFile) plan start).2.record?.isSome =
        true := by
      rw [ended]
      rfl
    obtain ⟨position, planned, here, rfl, status, member, fails⟩ := charges.failed aborts
    have found := getElem?_outcomes processor processor.runFile files chosen planned.index
    rw [getElem?_index_of_plan here, Option.map_some] at found
    have failed := overall_statusAt_of_failed (nodup_indices_plan _ _) here member fails
    exact ⟨_, found,
      inert_of_failed processor files chosen (List.mem_of_getElem? found) failed, failed⟩

/-- The verdict on an aborted run does not depend on what was expected. -/
theorem verdict_judge_of_aborted {result : RunResult}
    (aborts : result.ending.abortReason?.isSome = true) (expectation : ExpectedCase)
    (expected : Status) : (expectation.judge expected result).verdict = .fail := by
  obtain ⟨reason, aborted⟩ := Option.isSome_iff_exists.mp aborts
  simp [ExpectedCase.judge, RunResult.deviations, RunResult.abortDeviation?, aborted]

theorem exists_failed_of_aborted
    (aborts : (runWith processor.runFile processor files chosen).result.ending.abortReason?.isSome =
      true) :
    ∃ outcome ∈ (runWith processor.runFile processor files chosen).result.executable,
      outcome.status = .failure := by
  rw [← Run.Ending.isSome_record?] at aborts
  obtain ⟨failure, reason⟩ := Option.isSome_iff_exists.mp aborts
  obtain ⟨charged, abortsAt⟩ := exists_abortsAt processor files chosen reason
  obtain ⟨outcome, here, active, failed⟩ := abortsAt.outcome
  exact ⟨outcome, List.mem_filter.mpr ⟨List.mem_of_getElem? here, by simp [active]⟩, failed⟩

/-- The status of a run is that of a failure exactly when a command that is not passed over has
failed. -/
theorem status_eq_failure_iff :
    (runWith processor.runFile processor files chosen).result.status = .failure ↔
      ∃ outcome ∈ (runWith processor.runFile processor files chosen).result.executable,
        outcome.status = .failure := by
  rw [RunResult.status, Status.worstOf_eq_failure_iff, List.mem_map]
  constructor
  · rintro ⟨outcome, member, failed⟩
    have active := inert_of_failed processor files chosen member failed
    exact ⟨outcome, List.mem_filter.mpr ⟨member, by simp [active]⟩, failed⟩
  · rintro ⟨outcome, member, failed⟩
    exact ⟨outcome, (List.mem_filter.mp member).1, failed⟩

theorem isConsistent_runWith :
    (runWith processor.runFile processor files chosen).IsConsistent processor.commands
      (processor.reports files chosen) := by
  constructor
  case state => rfl
  case notStopped => exact Run.Ending.stop?_of_aborted
  case outcomes => rfl
  case commands => exact withoutStatus_withRecords _ _ _
  case aborted =>
    intro aborts
    have failed := exists_failed_of_aborted processor files chosen aborts
    rw [← Run.Ending.isSome_record?] at aborts
    obtain ⟨failure, reason⟩ := Option.isSome_iff_exists.mp aborts
    obtain ⟨charged, abortsAt⟩ := exists_abortsAt processor files chosen reason
    exact ⟨(status_eq_failure_iff processor files chosen).mpr failed, charged, failure, abortsAt⟩
  case failed =>
    rw [RunResult.isFailure, Bool.or_eq_true, decide_eq_true_eq, status_eq_failure_iff,
      or_iff_right_iff_imp]
    exact exists_failed_of_aborted processor files chosen
  case rejected =>
    intro aborts
    exact verdict_judge_of_aborted aborts

end

/-- The program runs all commands or the selected ones. -/
theorem exists_of_start {processor : Processor} {files : FileSystem} {select : Option String}
    {run : Run} (starts : Program.start processor files select = .ok run) :
    ∃ chosen, run = runWith processor.runFile processor files chosen := by
  cases select with
  | none =>
      cases starts
      exact ⟨_, rfl⟩
  | some selection =>
      obtain ⟨indices, -, selected⟩ := exists_of_bind_eq_ok starts
      cases selected
      exact ⟨_, rfl⟩

/-- The exit code of the program tells whether the run counts as a failure, if its report could be
written. -/
theorem exitCode_run {configuration : Configuration} {files written : FileSystem}
    {file : FilePath} {options : RunOptions} {processor : Processor} {run : Run}
    (useColor : Bool) (loads : Program.load configuration files file options = .ok processor)
    (starts : Program.start processor files options.select = .ok run)
    (writes : Program.writeReport run.files options.report (Report.write run.result) =
      .ok written) :
    (Program.run useColor configuration files file options).1.exitCode =
      if run.result.isFailure then 1 else 0 := by
  have started : (do
      let processor ← Program.load configuration files file options
      Program.start processor files options.select) = .ok run := by
    rw [loads]
    exact starts
  simp only [Program.run, started, writes, Reply.done]

/-- A case whose file could be read only passes if the run was not aborted. -/
theorem not_aborted_of_runLoaded {expectation : ExpectedCase} {processor : Processor}
    {files : FileSystem} (passes : (expectation.runLoaded processor files).1.verdict = .pass) :
    (processor.runAll files).result.ending.abortReason?.isSome = false := by
  rw [ExpectedCase.runLoaded] at passes
  cases enabled : CommandFile.isEnabled processor.commands with
  | false =>
      rw [enabled] at passes
      cases passes
  | true =>
      rw [enabled] at passes
      by_contra aborts
      rw [Bool.not_eq_false] at aborts
      have rejected := verdict_judge_of_aborted aborts expectation
        (expectation.statusFor processor.commands)
      exact absurd (passes.symm.trans rejected) (by decide)

/-- A case only passes if its file could be read and the run of it was not aborted. -/
theorem exists_of_passes {expectation : ExpectedCase} {folder : FilePath} {registry : Registry}
    {configuration : Configuration} {files : FileSystem}
    (passes : (expectation.run folder registry configuration files).1.verdict = .pass) :
    ∃ processor,
      (create registry configuration files 0).loadFile files
        (files.resolve folder expectation.commandFile.text) = .ok processor ∧
      (processor.runAll files).result.ending.abortReason?.isSome = false := by
  unfold ExpectedCase.run at passes
  dsimp only at passes
  split at passes
  · next processor loads => exact ⟨processor, loads, not_aborted_of_runLoaded passes⟩
  · cases passes

/-- Every run is consistent: it is either completed or aborted, and an abort is a failure of one of
its commands.  So the program fails for a run exactly when a command of the run has failed, and a
regression run passes no case whose run was aborted. -/
theorem runs_are_consistent :
    (∀ (processor : Processor) (files : FileSystem) (chosen : Nat → Bool),
      (runWith processor.runFile processor files chosen).IsConsistent processor.commands
        (processor.reports files chosen)) ∧
    (∀ (useColor : Bool) (configuration : Configuration) (files written : FileSystem)
        (file : FilePath) (options : RunOptions) (processor : Processor) (run : Run),
      Program.load configuration files file options = .ok processor →
      Program.start processor files options.select = .ok run →
      Program.writeReport run.files options.report (Report.write run.result) = .ok written →
      ((Program.run useColor configuration files file options).1.exitCode ≠ 0 ↔
        ∃ outcome ∈ run.result.executable, outcome.status = .failure)) ∧
    (∀ (expectation : ExpectedCase) (folder : FilePath) (registry : Registry)
        (configuration : Configuration) (files : FileSystem),
      (expectation.run folder registry configuration files).1.verdict = .pass →
      ∃ processor,
        (create registry configuration files 0).loadFile files
          (files.resolve folder expectation.commandFile.text) = .ok processor ∧
        (processor.runAll files).result.ending.abortReason?.isSome = false) := by
  refine ⟨isConsistent_runWith, ?_, ?_⟩
  · intro useColor configuration files written file options processor run loads starts writes
    obtain ⟨chosen, rfl⟩ := exists_of_start starts
    rw [← (isConsistent_runWith processor files chosen).failed,
      exitCode_run useColor loads starts writes]
    simp
  · intro expectation folder registry configuration files passes
    exact exists_of_passes passes

/-- A file system with a command file whose second command opens a block that is never closed. -/
def unclosedFile : FileSystem :=
  (FileSystem.empty ["work"] "/home").store ["work", "w.gp"]
    "Message(Message=before)\nIf(Name=x,Condition=true)".toUTF8

/-- The open block aborts the run with a failure of its command, the program fails, and the file
passes under no expectation. -/
theorem runs_are_consistent_unclosed :
    ∃ loaded, Program.load {} unclosedFile ⟨"w.gp"⟩ {} = .ok loaded ∧
      (let run := loaded.runAll unclosedFile
       run.result.ending.abortReason?.isSome = true ∧ run.result.status = .failure ∧
        run.result.outcomes.map (·.status) = [.success, .failure] ∧
        (∃ charged failure,
          run.AbortsAt (loaded.reports unclosedFile fun _ => true) charged failure)) ∧
      (Program.run false {} unclosedFile ⟨"w.gp"⟩ {}).1.exitCode ≠ 0 ∧
      ∀ expectedStatus, (ExpectedCase.run ⟨⟨"w.gp"⟩, expectedStatus, []⟩ ⟨"."⟩ Builtin.registry {}
        unclosedFile).1.verdict ≠ .pass := by
  obtain ⟨consistent, exits, passes⟩ := runs_are_consistent
  obtain ⟨loaded, loads⟩ : ∃ loaded, Program.load {} unclosedFile ⟨"w.gp"⟩ {} = .ok loaded :=
    ⟨_, rfl⟩
  have aborts : (loaded.runAll unclosedFile).result.ending.abortReason?.isSome = true := by
    cases loads
    decide +kernel
  have aborted := (consistent loaded unclosedFile fun _ => true).aborted aborts
  refine ⟨loaded, loads, ⟨aborts, aborted.1, ?_, aborted.2⟩, ?_, ?_⟩
  · cases loads
    decide +kernel
  · have failed : ∃ outcome ∈ (loaded.runAll unclosedFile).result.executable,
        outcome.status = .failure :=
      (consistent loaded unclosedFile fun _ => true).failed.mp (by
        rw [RunResult.isFailure, Bool.or_eq_true]
        exact .inl aborts)
    exact (exits false {} unclosedFile _ ⟨"w.gp"⟩ {} loaded _ loads rfl rfl).mpr failed
  · intro expectedStatus accepted
    obtain ⟨processor, opened, completed⟩ := passes _ _ _ _ _ accepted
    have abortsToo : (processor.runAll unclosedFile).result.ending.abortReason?.isSome = true := by
      dsimp only at opened
      cases opened
      decide +kernel
    rw [completed] at abortsToo
    cases abortsToo

end Workflow.Processor
