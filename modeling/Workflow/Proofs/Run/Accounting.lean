import Workflow.Proofs.CommandFile.Recognition
import Workflow.Proofs.Run.Account

/-!
# The statuses of a run

Behind a run every command has the status that is explained by what the run has added to its
record, and the status of the run is the worst one of them.
-/

namespace Workflow.Run

variable {setting : Setting} {plan : Plan} {machine next : Machine} {planned : Planned}
variable {position : Nat} {status : StatusRecord}

/-- Every status that a machine holds is explained by its entries. -/
def Machine.IsExplained (machine : Machine) : Prop :=
  ∀ position, ∀ status ∈ machine.executionsAt position, status.IsExplained

theorem isExplained_execution {command : Command} (reports : command.Reports)
    (nested : setting.runFile.Reports)
    (executes : execution? setting plan machine command = some status) : status.IsExplained := by
  simp only [execution?] at executes
  split at executes
  · cases executes
  · next active =>
      split at executes
      · cases executes
        exact StatusRecord.isExplained_add_fresh rfl
      · cases executes
        exact isExplained_turn (by simpa using active) reports nested

theorem isExplained_of_modify (explained : machine.IsExplained)
    (notes : next.executions = machine.executions.modify position (status :: ·))
    (inside : position < machine.executions.size) (noted : status.IsExplained) :
    next.IsExplained := by
  intro other found member
  rw [executionsAt_of_modify notes inside, List.mem_append] at member
  rcases member with before | last
  · exact explained other found before
  · split at last
    · rw [List.mem_singleton.mp last]
      exact noted
    · cases last

theorem isExplained_step (sized : machine.executions.size = plan.size)
    (here : plan[machine.position]? = some planned) (reports : planned.command.Reports)
    (nested : setting.runFile.Reports) (explained : machine.IsExplained) :
    (step setting plan machine planned).machine.IsExplained := by
  obtain ⟨inside, -⟩ := Array.getElem?_eq_some_iff.mp here
  have notes := executions_step setting plan machine planned
  cases executes : execution? setting plan machine planned.command with
  | none =>
      rw [executes] at notes
      intro position
      rw [Machine.executionsAt, notes]
      exact explained position
  | some status =>
      rw [executes] at notes
      exact isExplained_of_modify explained notes (sized ▸ inside)
        (isExplained_execution reports nested executes)

theorem isExplained_close (sized : machine.executions.size = plan.size)
    (explained : machine.IsExplained) : (close plan machine).1.IsExplained := by
  simp only [close]
  split
  · exact explained
  · split
    · exact explained
    · next opener here =>
        obtain ⟨inside, -⟩ := Array.getElem?_eq_some_iff.mp here
        exact isExplained_of_modify explained rfl (sized ▸ inside)
          (StatusRecord.isExplained_add_fresh rfl)

/-- A walk through commands that only add to their records leaves no status unexplained. -/
theorem isExplained_walk
    (reporting : ∀ (position : Nat) (planned : Planned), plan[position]? = some planned →
      planned.command.Reports)
    (nested : setting.runFile.Reports) (sized : machine.executions.size = plan.size)
    (explained : machine.IsExplained) : (walk setting plan machine).1.IsExplained := by
  induction machine using walk_induction setting plan with
  | outside machine outside =>
      rw [walk_of_end outside]
      exact isExplained_close sized explained
  | ends machine planned last ending here ends =>
      rw [walk_of_ends here ends]
      have stepped := isExplained_step sized here (reporting _ _ here) nested explained
      rwa [ends] at stepped
  | goes machine planned next here goes ih =>
      rw [walk_of_goes here goes]
      have stepped := isExplained_step sized here (reporting _ _ here) nested explained
      have sizedToo := size_executions_step setting plan machine planned
      rw [goes] at stepped sizedToo
      exact ih (sizedToo.trans sized) stepped

/-! ## The account of a command -/

theorem addedAt_eq_nil_iff {account : List Entry} {index : Nat} :
    addedAt account index = [] ↔ ∀ entry ∈ account, entry.index ≠ index := by
  simp [addedAt, List.filter_eq_nil_iff]

theorem mem_flatten_addedAt {account : List Entry} {index : Nat} {record : Record} :
    record ∈ (addedAt account index).flatten ↔
      ∃ entry ∈ account, entry.index = index ∧ record ∈ entry.added := by
  simp only [addedAt, List.mem_flatten, List.mem_map, List.mem_filter, beq_iff_eq]
  constructor
  · rintro ⟨_, ⟨entry, ⟨member, same⟩, rfl⟩, within⟩
    exact ⟨entry, member, same, within⟩
  · rintro ⟨entry, member, same, within⟩
    exact ⟨_, ⟨entry, ⟨member, same⟩, rfl⟩, within⟩

theorem active_of_mem_addition? {stride : Stride} {entry : Entry}
    (member : entry ∈ (stride.addition? setting plan).toList) :
    stride.planned.index = entry.index ∧ stride.planned.command.isInert = false := by
  obtain ⟨status, executes, rfl⟩ := Option.map_eq_some_iff.mp (Option.mem_toList.mp member)
  refine ⟨rfl, ?_⟩
  simp only [execution?] at executes
  split at executes
  · cases executes
  · next active => simpa using active

theorem active_of_mem_leftOpen? {entry : Entry}
    (placed : ∀ frame ∈ machine.frames, frame.IsPlaced plan)
    (member : entry ∈ (leftOpen? plan machine).toList) :
    ∃ (position : Nat) (planned : Planned), plan[position]? = some planned ∧
      planned.index = entry.index ∧ planned.command.isInert = false := by
  obtain ⟨innermost, front, blamed⟩ := Option.bind_eq_some_iff.mp (Option.mem_toList.mp member)
  obtain ⟨opener, here, same⟩ := Option.bind_eq_some_iff.mp blamed
  cases same
  obtain ⟨stands, sameOpener, opens⟩ := (placed innermost (List.mem_of_mem_head? front)).opener
  rw [here] at sameOpener
  cases sameOpener
  exact ⟨_, _, here, rfl, isInert_of_role opens⟩

/-- An account only names commands of the plan, and no line that never runs. -/
theorem active_of_mem_account (placed : ∀ frame ∈ machine.frames, frame.IsPlaced plan)
    {entry : Entry} (member : entry ∈ account setting plan machine) :
    ∃ (position : Nat) (planned : Planned), plan[position]? = some planned ∧
      planned.index = entry.index ∧ planned.command.isInert = false := by
  induction machine using walk_induction setting plan with
  | outside machine outside =>
      rw [account_of_end outside] at member
      exact active_of_mem_leftOpen? placed member
  | ends machine planned last ending here ends =>
      rw [account_of_ends here ends] at member
      exact ⟨_, _, here, active_of_mem_addition? member⟩
  | goes machine planned next here goes ih =>
      rw [account_of_goes here goes, List.mem_append] at member
      rcases member with now | later
      · exact ⟨_, _, here, active_of_mem_addition? now⟩
      · exact ih (isPlaced_of_goes here goes placed) later

end Workflow.Run

namespace Workflow

/-- The built-in commands leave alone what validation has found. -/
theorem Command.RecognizedBy.proceeds {command : Command}
    (recognized : command.RecognizedBy Builtin.registry) : command.Proceeds := by
  intro definition behavior known
  have member := Builtin.mem_commands_of_mem_registry (recognized _ _ known)
  exact Builtin.proceeds_of_mem_commands _ member

theorem Command.RecognizedBy.reports {command : Command}
    (recognized : command.RecognizedBy Builtin.registry) : command.Reports :=
  fun definition behavior known => (recognized.proceeds definition behavior known).reports

/-- An outcome that accounts for what a run has added to the record of its command. -/
structure Outcome.Accounts (outcome : Outcome) (account : List Run.Entry) : Prop where
  /-- Nothing is known of a command to which nothing was added. -/
  untouched : (∀ entry ∈ account, entry.index ≠ outcome.index) →
    outcome.status = .unknown ∧ outcome.messages = []
  /-- The status of any other command is the worst one of success and of what was added. -/
  status : (∃ entry ∈ account, entry.index = outcome.index) →
    outcome.status = Status.worstOf
      (.success :: (Run.addedAt account outcome.index).flatten.map (·.severity))
  /-- The messages are all that was added, in the order in which it was. -/
  messages : outcome.messages = (Run.addedAt account outcome.index).flatten.map Record.display

theorem Outcome.Accounts.isFailure_iff {outcome : Outcome} {account : List Run.Entry}
    (accounts : outcome.Accounts account) :
    outcome.status = .failure ↔ ∃ entry ∈ account, entry.index = outcome.index ∧
      ∃ record ∈ entry.added, record.severity = .failure := by
  constructor
  · intro failed
    by_cases charged : ∃ entry ∈ account, entry.index = outcome.index
    · rw [accounts.status charged, Status.worstOf_eq_failure_iff, List.mem_cons] at failed
      obtain ⟨record, among, failure⟩ := List.mem_map.mp (failed.resolve_left (by decide))
      obtain ⟨entry, member, same, within⟩ := Run.mem_flatten_addedAt.mp among
      exact ⟨entry, member, same, record, within, failure⟩
    · have untouched := accounts.untouched fun entry member same => charged ⟨entry, member, same⟩
      rw [untouched.1] at failed
      cases failed
  · rintro ⟨entry, member, same, record, within, failure⟩
    rw [accounts.status ⟨entry, member, same⟩, Status.worstOf_eq_failure_iff]
    apply List.mem_cons_of_mem
    rw [← failure]
    exact List.mem_map_of_mem (Run.mem_flatten_addedAt.mpr ⟨entry, member, same, within⟩)

namespace Processor

open CommandFile (builtinLine)

/-- What the run of the commands at the chosen indices adds to the records of its commands. -/
def account (processor : Processor) (files : FileSystem) (chosen : Nat → Bool) :
    List Run.Entry :=
  let plan := plan processor.commands chosen
  Run.account (processor.setting processor.runFile) plan (processor.machine files plan)

theorem size_executions_machine (processor : Processor) (files : FileSystem) (plan : Run.Plan) :
    (processor.machine files plan).executions.size = plan.size :=
  Array.size_map ..

theorem executionsAt_machine (processor : Processor) (files : FileSystem) (plan : Run.Plan)
    (position : Nat) : (processor.machine files plan).executionsAt position = [] := by
  simp only [Run.Machine.executionsAt, machine, Array.getD_eq_getD_getElem?, Array.getElem?_map]
  cases plan[position]? <;> rfl

variable (processor : Processor) (files : FileSystem) (chosen : Nat → Bool)

theorem chosen_of_mem_account {entry : Run.Entry}
    (member : entry ∈ processor.account files chosen) :
    chosen entry.index = true ∧
      ∃ command, processor.commands[entry.index]? = some command ∧ command.isInert = false := by
  obtain ⟨position, planned, here, same, active⟩ :=
    Run.active_of_mem_account (processor.isPlaced_machine files _) member
  have stands := getElem?_index_of_plan here
  have among : planned.index ∈ (plan processor.commands chosen).toList.map (·.index) :=
    List.mem_map_of_mem (Array.mem_toList_iff.mpr (Array.mem_of_getElem? here))
  rw [indices_plan, List.mem_filter] at among
  rw [← same]
  exact ⟨among.2, _, stands, active⟩

/-- Behind a run the record of a command is that of its executions, each of which has added what
the account has for it and nothing else. -/
theorem exists_executions (index : Nat) :
    let plan := plan processor.commands chosen
    let machine := (processor.walked processor.runFile files chosen).1
    ∃ executions, statusAt plan machine index = StatusRecord.combine executions ∧
      executions.map (·.records) = Run.addedAt (processor.account files chosen) index ∧
      ((∀ command ∈ processor.commands, command.Reports) →
        ∀ status ∈ executions, status.IsExplained) := by
  intro plan machine
  let start := processor.machine files plan
  have distinct := nodup_indices_plan processor.commands chosen
  have sized := size_executions_machine processor files plan
  simp only [statusAt]
  split
  · next position found =>
      obtain ⟨inside, matched, -⟩ := Array.findIdx?_eq_some_iff_getElem.mp found
      have added : (machine.executionsAt position).map (·.records) =
          (start.executionsAt position).map (·.records) ++
            Run.addedAt (processor.account files chosen) plan[position].index :=
        Run.added_walk distinct sized (Array.getElem?_eq_getElem inside)
      rw [executionsAt_machine, beq_iff_eq.mp matched] at added
      refine ⟨machine.executionsAt position, rfl, added, fun reporting => ?_⟩
      apply Run.isExplained_walk _ (Nested.reports_runFile _ _) sized
      · intro position status member
        rw [executionsAt_machine] at member
        cases member
      · intro position planned here
        exact reporting _ (mem_commands_of_plan here)
  · next missing =>
      refine ⟨[], rfl, (Run.addedAt_eq_nil_iff.mpr fun entry member same => ?_).symm,
        fun _ status member => absurd member List.not_mem_nil⟩
      obtain ⟨position, planned, here, index, -⟩ :=
        Run.active_of_mem_account (processor.isPlaced_machine files _) member
      have absent := Array.findIdx?_eq_none_iff.mp missing planned (Array.mem_of_getElem? here)
      simp [index, same] at absent

/-- The record of a command behind a run holds what the account has for it. -/
theorem records_statusAt (index : Nat) :
    (statusAt (plan processor.commands chosen)
      (processor.walked processor.runFile files chosen).1 index).records =
        (Run.addedAt (processor.account files chosen) index).flatten := by
  obtain ⟨executions, status, added, -⟩ := exists_executions processor files chosen index
  rw [status, ← added, ← List.flatMap_def]
  rfl

theorem accounts_ofCommand (reporting : ∀ command ∈ processor.commands, command.Reports)
    (index : Nat) (command : Command) :
    let plan := plan processor.commands chosen
    let machine := (processor.walked processor.runFile files chosen).1
    (Outcome.ofCommand index { command with status := statusAt plan machine index }).Accounts
      (processor.account files chosen) := by
  intro plan machine
  obtain ⟨executions, status, added, explained⟩ := exists_executions processor files chosen index
  have records : (statusAt plan machine index).records =
      (Run.addedAt (processor.account files chosen) index).flatten :=
    records_statusAt processor files chosen index
  refine ⟨fun untouched => ?_, fun ⟨entry, member, same⟩ => ?_, ?_⟩
  · have none : executions = [] :=
      List.map_eq_nil_iff.mp (added.trans (Run.addedAt_eq_nil_iff.mpr untouched))
    have fresh : statusAt plan machine index = .fresh := by
      rw [status, none, StatusRecord.combine_nil]
    simp only [Outcome.ofCommand, fresh]
    exact ⟨rfl, rfl⟩
  · have some : executions ≠ [] := by
      rintro rfl
      exact Run.addedAt_eq_nil_iff.mp added.symm entry member same
    have overall := StatusRecord.isExplained_combine some (explained reporting)
    rw [← status, StatusRecord.IsExplained, records] at overall
    exact overall
  · simp only [Outcome.ofCommand, StatusRecord.messages, records]

/-- Every outcome of a run accounts for it. -/
theorem accounts_of_mem_outcomes (reporting : ∀ command ∈ processor.commands, command.Reports)
    {outcome : Outcome}
    (member : outcome ∈ (runWith processor.runFile processor files chosen).result.outcomes) :
    outcome.Accounts (processor.account files chosen) := by
  obtain ⟨index, command, -, rfl⟩ := exists_of_mem_outcomes member
  exact accounts_ofCommand processor files chosen reporting index command

/-- Behind a run there is an outcome for every command, and each of them accounts for the run: a
command to which the run has added nothing is not known of, and any other one has the worst status
of success and its entries, all of which the run has added, in that order.  The status of the run
is the worst one of its outcomes, so the run has failed exactly when it has added a failure. -/
theorem outcomes_account (reporting : ∀ command ∈ processor.commands, command.Reports) :
    let result := (runWith processor.runFile processor files chosen).result
    let account := processor.account files chosen
    result.outcomes.map (·.index) = List.range processor.commands.length ∧
    (∀ entry ∈ account, chosen entry.index = true ∧
      ∃ command, processor.commands[entry.index]? = some command ∧ command.isInert = false) ∧
    (∀ outcome ∈ result.outcomes, outcome.Accounts account) ∧
    (∀ bound, result.status ≤ bound ↔ ∀ outcome ∈ result.outcomes, outcome.status ≤ bound) ∧
    (result.status = .failure ↔
      ∃ entry ∈ account, ∃ record ∈ entry.added, record.severity = .failure) := by
  intro result account
  have indices := processor.indices_outcomes processor.runFile files chosen
  have accounts (outcome) (member : outcome ∈ result.outcomes) : outcome.Accounts account :=
    accounts_of_mem_outcomes processor files chosen reporting member
  refine ⟨indices, fun entry => chosen_of_mem_account processor files chosen, accounts, ?_, ?_⟩
  · intro bound
    rw [RunResult.status, Status.worstOf_le_iff, List.forall_mem_map]
  · rw [RunResult.status, Status.worstOf_eq_failure_iff, List.mem_map]
    constructor
    · rintro ⟨outcome, member, failed⟩
      obtain ⟨entry, among, -, failure⟩ := (accounts outcome member).isFailure_iff.mp failed
      exact ⟨entry, among, failure⟩
    · rintro ⟨entry, among, failure⟩
      obtain ⟨-, command, here, -⟩ := chosen_of_mem_account processor files chosen among
      obtain ⟨inside, -⟩ := List.getElem?_eq_some_iff.mp here
      have listed : entry.index ∈ result.outcomes.map (·.index) := by
        rw [indices]
        exact List.mem_range.mpr inside
      obtain ⟨outcome, member, same⟩ := List.mem_map.mp listed
      exact ⟨outcome, member,
        (accounts outcome member).isFailure_iff.mpr ⟨entry, among, same.symm, failure⟩⟩

/-- A loop with a message at two levels and a block that is passed over, all of them with a failure
from an earlier run. -/
def leveled : Processor :=
  { create Builtin.registry {} (.empty [] "/") 0 with
    commands :=
      ["# levels",
       "For(Name=level,ListProperty=Levels)",
       "Message(Message=\"At ${level}\",CommandStatus=\"${level}\")",
       "EndFor(Name=level)",
       "If(Name=x,Condition=false)",
       "Message(Message=unseen)",
       "EndIf(Name=x)"].mapIdx fun index line =>
        { builtinLine (index + 1) line with status := Run.failureRecord "Failed before" }
    workspace := { properties := .ofList [("Levels", .list [.text "Warning", .text "Success"])] } }

theorem reports_of_mem_leveled : ∀ command ∈ leveled.commands, command.Reports := by
  intro command member
  obtain ⟨index, inside, rfl⟩ := List.mem_mapIdx.mp member
  exact (CommandFile.recognizedBy_readLenient _ _).reports

/-- The entries of both passes are behind the status of the message, and the earlier failure is
behind none. -/
theorem outcomes_account_leveled :
    (∀ command ∈ leveled.commands, command.Reports) ∧
      (let result := (runWith leveled.runFile leveled (.empty [] "/") fun _ => true).result
       result.outcomes.map (·.status) =
          [.unknown, .success, .warning, .success, .success, .unknown, .unknown] ∧
        result.outcomes[2]?.map (·.messages) =
          some ["WARNING: At Warning", "SUCCESS: At Success"] ∧
        ∀ outcome ∈ result.outcomes,
          outcome.Accounts (leveled.account (.empty [] "/") fun _ => true)) := by
  obtain ⟨-, -, accounts, -, -⟩ :=
    outcomes_account leveled (.empty [] "/") (fun _ => true) reports_of_mem_leveled
  exact ⟨reports_of_mem_leveled, by decide +kernel, by decide +kernel, accounts⟩

end Processor

end Workflow
