import Workflow.Console.Check
import Workflow.Proofs.Builtin.Complaints
import Workflow.Proofs.Run.Accounting
import Workflow.Proofs.Sessions

/-!
# A check foresees what a run refuses

The check of a command file and the validation of a run judge a command on their own: the one by
what its line says, the other by its parameters after expansion.  They agree on unknown commands,
on lines that cannot be read and on parameters that a command does not have.  Whatever the check
lists for a command, every dispatch of the command records as a failure in the same order, and the
command does not run; where the check lists nothing, no dispatch ever records such a failure.
-/

namespace Workflow

/-- What a line was recognized as, with another behavior if it is a known command. -/
def CommandKind.withBehavior (behavior : Behavior) : CommandKind → CommandKind
  | .known definition _ => .known definition behavior
  | kind => kind

/-- The command with another behavior, if it is known. -/
def Command.withBehavior (command : Command) (behavior : Behavior) : Command :=
  { command with kind := command.kind.withBehavior behavior }

theorem Command.role?_withBehavior (command : Command) (behavior : Behavior) :
    (command.withBehavior behavior).role? = command.role? := by
  simp only [role?, definition?, withBehavior]
  cases command.kind <;> rfl

/-- A failure of validation that a check can foresee. -/
def Record.isForeseen (record : Record) : Bool :=
  record.phase = .validation && record.severity = .failure && Check.isOpened record.problem

theorem Record.phase_of_isForeseen {record : Record} (foreseen : record.isForeseen = true) :
    record.phase = .validation := by
  simp only [isForeseen, Bool.and_eq_true, decide_eq_true_eq] at foreseen
  exact foreseen.1.1

theorem Record.severity_of_isForeseen {record : Record} (foreseen : record.isForeseen = true) :
    record.severity = .failure := by
  simp only [isForeseen, Bool.and_eq_true, decide_eq_true_eq] at foreseen
  exact foreseen.1.2

/-- The failure that a problem with the parameters of a command becomes. -/
def Problem.failure (problem : Problem) : Record :=
  ⟨.validation, .failure, problem.problem, some problem.recommendation⟩

theorem Builtin.name_of_get? {name : String} {registration : Registration}
    (found : registry.get? name = some registration) : registration.definition.name = name := by
  have entry := OrderedMap.mem_of_mem_ofList (OrderedMap.get?_eq_some_iff_mem.mp found)
  obtain ⟨command, -, same⟩ := List.mem_map.mp entry
  cases same
  rfl

namespace Check

/-- A problem of a command as a check lists it, behind the number of its line. -/
def listed (command : Command) (problem : String) : String := s!"line {command.line}: {problem}"

/-- The failure of a command that the registry does not have. -/
def unknownCommand (name : String) (suggestion : Option String) : Record :=
  ⟨.validation, .failure, s!"Unknown command `{name}`",
    suggestion.map fun name => s!"Did you mean `{name}`?"⟩

/-- The failure of a line that cannot be read. -/
def unreadable (fault : CallFault) : Record :=
  ⟨.validation, .failure, s!"Could not parse command: {fault.message}",
    some "Fix the command syntax"⟩

/-- The failure of a command with a parameter that it does not have. -/
def unknownParameter (command : Command) (definition : Definition) (name : String) : Record :=
  ⟨.validation, .failure, s!"Unknown parameter `{name}` for command {command.name}",
    some ("Specify only valid parameters: " ++ ", ".intercalate definition.parameterNames)⟩

/-- A problem that a check lists for a command, and the failure that a dispatch records for it. -/
inductive Foresees (command : Command) : String → Record → Prop where
  | unknown (kind : command.kind = .unknown none) :
      Foresees command (listed command s!"unknown command `{command.name}`")
        (unknownCommand command.name none)
  | misspelt {suggestion : String} (kind : command.kind = .unknown (some suggestion)) :
      Foresees command
        (listed command s!"unknown command `{command.name}` (did you mean `{suggestion}`?)")
        (unknownCommand command.name (some suggestion))
  | malformed {fault : CallFault} (kind : command.kind = .malformed fault) :
      Foresees command (listed command fault.message) (unreadable fault)
  | parameter {definition : Definition} {behavior : Behavior} {name : String}
      (kind : command.kind = .known definition behavior)
      (written : name ∈ command.parameters.keys) (absent : definition.recognizes name = false) :
      Foresees command (listed command s!"Parameter `{name}` is not recognized by {command.name}")
        (unknownParameter command definition name)

/-- The failures that are foreseen for a command. -/
def foreseen (command : Command) : List Record :=
  match command.kind with
  | .unknown suggestion => [unknownCommand command.name suggestion]
  | .malformed fault => [unreadable fault]
  | .known definition _ =>
      (Validation.unknownNames definition command.parameters).map Problem.failure
  | .blank | .comment => []

variable {command : Command}

theorem forall₂_foresees (origin : CommandFile.Origin Builtin.registry command) :
    List.Forall₂ (Foresees command) (lineProblems command) (foreseen command) := by
  unfold lineProblems kindProblems Command.warnings foreseen
  cases kind : command.kind with
  | blank => exact .nil
  | comment => exact .nil
  | unknown suggestion =>
      cases suggestion with
      | none => exact .cons (.unknown kind) .nil
      | some suggestion => exact .cons (.misspelt kind) .nil
  | malformed fault => exact .cons (.malformed kind) .nil
  | known definition behavior =>
      have named : definition.name = command.name :=
        Builtin.name_of_get? (origin.get?_of_known kind)
      simp only [Validation.unknownNames, List.nil_append, List.map_map,
        List.forall₂_map_left_iff, List.forall₂_map_right_iff, List.forall₂_same]
      intro name member
      obtain ⟨written, absent⟩ := List.mem_filter.mp member
      have failure : (Problem.failure ∘ Validation.unknownParameter definition) name =
          unknownParameter command definition name := by
        rw [unknownParameter, ← named]
        rfl
      rw [failure]
      exact .parameter kind written (by simpa using absent)

/-- A check lists something for a command exactly when it foresees a failure of it. -/
theorem foreseen_eq_nil_iff (origin : CommandFile.Origin Builtin.registry command) :
    foreseen command = [] ↔ lineProblems command = [] := by
  rw [← List.length_eq_zero_iff, ← List.length_eq_zero_iff, (forall₂_foresees origin).length_eq]

end Check

theorem Check.isForeseen_unknownCommand (name : String) (suggestion : Option String) :
    (unknownCommand name suggestion).isForeseen = true := by
  have starts : "Unknown command".toList <+: (s!"Unknown command `{name}`").toList := by
    simp [toString]
  exact isOpened_of_opening (by simp [openings]) starts

theorem Check.isForeseen_unreadable (fault : CallFault) :
    (unreadable fault).isForeseen = true := by
  have starts : "Could not parse command".toList <+:
      (s!"Could not parse command: {fault.message}").toList := by
    simp [toString]
  exact isOpened_of_opening (by simp [openings]) starts

theorem isForeseen_failure (problem : Problem) :
    problem.failure.isForeseen = Check.isOpened problem.problem := rfl

theorem Validation.isForeseen_unknownParameter (definition : Definition) (name : String) :
    (unknownParameter definition name).failure.isForeseen = true := by
  have starts : "Unknown parameter".toList <+:
      (unknownParameter definition name).problem.toList := by
    simp [unknownParameter, toString]
  exact Check.isOpened_of_opening (by simp [Check.openings]) starts

namespace Run

variable {setting : Setting} {plan : Plan} {machine : Machine} {command : Command} {scene : Scene}

theorem unknownNames_expanded (definition : Definition) (workspace : Workspace)
    (command : Command) :
    Validation.unknownNames definition (expanded workspace command) =
      Validation.unknownNames definition command.parameters := by
  have keys : (expanded workspace command).keys = command.parameters.keys := by
    simp [expanded, OrderedMap.keys]
  rw [Validation.unknownNames, keys, Validation.unknownNames]

section

variable {definition : Definition} {behavior : Behavior} {problems : List Problem}

theorem filter_failures_of_plain
    (plain : ∀ problem ∈ problems, Check.isOpened problem.problem = false) :
    (problems.map Problem.failure).filter Record.isForeseen = [] := by
  rw [List.filter_eq_nil_iff, List.forall_mem_map]
  intro problem member foreseen
  rw [isForeseen_failure, plain problem member] at foreseen
  cases foreseen

theorem filter_failures_unknownNames (definition : Definition) (raw : OrderedMap String) :
    ((Validation.unknownNames definition raw).map Problem.failure).filter Record.isForeseen =
      (Validation.unknownNames definition raw).map Problem.failure := by
  rw [List.filter_eq_self, List.forall_mem_map]
  intro problem member
  obtain ⟨name, -, rfl⟩ := List.mem_map.mp member
  exact Validation.isForeseen_unknownParameter definition name

/-- Among the reasons for which a built-in command is refused, its unknown names are foreseen. -/
theorem filter_of_checked (among : ⟨definition, behavior⟩ ∈ Builtin.commands)
    (refused : checked scene command definition behavior = .error problems) :
    (problems.map Problem.failure).filter Record.isForeseen =
      (Validation.unknownNames definition command.parameters).map Problem.failure := by
  simp only [checked] at refused
  split at refused
  · next invalid =>
      cases refused
      rw [Validation.problems_of_validate invalid, unknownNames_expanded, List.map_append,
        List.filter_append, filter_failures_unknownNames,
        filter_failures_of_plain fun problem => Builtin.isOpened_of_mem_complaints among,
        List.append_nil]
  · next parameters validated =>
      have known := Validation.unknownNames_of_validate validated
      rw [unknownNames_expanded] at known
      rw [known, List.map_nil]
      split at refused
      · cases refused
      · cases refused
        exact filter_failures_of_plain (Builtin.isPlain_of_mem_commands _ among parameters)

theorem unknownNames_of_checked {parameters : ParameterSet}
    (accepted : checked scene command definition behavior = .ok parameters) :
    Validation.unknownNames definition command.parameters = [] := by
  simp only [checked] at accepted
  split at accepted
  · cases accepted
  · next validated =>
      rw [← unknownNames_expanded definition scene.workspace]
      exact Validation.unknownNames_of_validate validated

theorem records_refuseAll (scene : Scene) (problems : List Problem) :
    (refuseAll scene problems).status.records =
      scene.status.records ++ problems.map Problem.failure := by
  induction problems generalizing scene with
  | nil => exact (List.append_nil _).symm
  | cons problem rest ih =>
      have refused : (refuse scene problem.problem (some problem.recommendation)).status.records =
          scene.status.records ++ [problem.failure] := StatusRecord.records_add _ _
      rw [List.map_cons, List.append_cons, ← refused]
      exact ih _

end

/-- Validation records what is foreseen for a command, besides what cannot be foreseen. -/
theorem filter_records_prepare (origin : CommandFile.Origin Builtin.registry command)
    (new : scene.status.records = []) :
    (prepare scene command).1.status.records.filter Record.isForeseen =
      Check.foreseen command := by
  cases kind : command.kind with
  | blank => simp [prepare, Check.foreseen, kind, new]
  | comment => simp [prepare, Check.foreseen, kind, new]
  | unknown suggestion =>
      have foreseen := Check.isForeseen_unknownCommand command.name suggestion
      simp only [prepare, Check.foreseen, kind, refuse, StatusRecord.records_add, new]
      exact List.filter_cons_of_pos foreseen
  | malformed fault =>
      have foreseen := Check.isForeseen_unreadable fault
      simp only [prepare, Check.foreseen, kind, refuse, StatusRecord.records_add, new]
      exact List.filter_cons_of_pos foreseen
  | known definition behavior =>
      have among := Builtin.mem_commands_of_mem_registry (origin.recognizedBy _ _ kind)
      simp only [prepare, Check.foreseen, kind]
      split
      · next problems refused =>
          rw [records_refuseAll, new, List.nil_append, filter_of_checked among refused]
      · next parameters accepted =>
          rw [unknownNames_of_checked accepted, StatusRecord.records_promote, new]
          rfl

theorem filter_records_turn (origin : CommandFile.Origin Builtin.registry command)
    (nested : setting.runFile.Proceeds) :
    (turnAt setting plan machine command).status.records.filter Record.isForeseen =
      Check.foreseen command := by
  have proceeds : (prepare machine.scene command).1.status.Proceeds
      (turnAt setting plan machine command).status :=
    proceeds_turn origin.recognizedBy.proceeds nested
  rw [proceeds.filter_records fun record => Record.phase_of_isForeseen]
  exact filter_records_prepare origin rfl

/-! ## Commands that are refused do not run -/

theorem exists_checked_eq_error (scene : Scene) {definition : Definition}
    (unknown : Validation.unknownNames definition command.parameters ≠ []) :
    ∃ problems, ∀ behavior, checked scene command definition behavior = .error problems := by
  simp only [checked]
  split
  · next problems _ => exact ⟨problems, fun _ => rfl⟩
  · next validated =>
      have known := Validation.unknownNames_of_validate validated
      rw [unknownNames_expanded] at known
      exact absurd known unknown

/-- A command of which a failure is foreseen is refused, whatever it does. -/
theorem exists_prepare_eq_none (scene : Scene) (foreseen : Check.foreseen command ≠ []) :
    ∃ prepared, prepare scene command = (prepared, none) ∧
      ∀ behavior, prepare scene (command.withBehavior behavior) = (prepared, none) := by
  cases kind : command.kind with
  | blank => simp [Check.foreseen, kind] at foreseen
  | comment => simp [Check.foreseen, kind] at foreseen
  | unknown suggestion =>
      simp only [prepare, Command.withBehavior, CommandKind.withBehavior, kind]
      exact ⟨_, rfl, fun _ => rfl⟩
  | malformed fault =>
      simp only [prepare, Command.withBehavior, CommandKind.withBehavior, kind]
      exact ⟨_, rfl, fun _ => rfl⟩
  | known definition behavior =>
      simp only [Check.foreseen, kind, ne_eq, List.map_eq_nil_iff] at foreseen
      obtain ⟨problems, refused⟩ := exists_checked_eq_error scene foreseen
      refine ⟨refuseAll scene problems, ?_, fun other => ?_⟩
      · simp only [prepare, kind, refused]
      · have kindToo : (command.withBehavior other).kind = .known definition other := by
          rw [Command.withBehavior, kind]
          rfl
        have refusedToo : checked scene (command.withBehavior other) definition other =
            .error problems := refused other
        simp only [prepare, kindToo, refusedToo]

/-- A dispatch of a command that is refused depends neither on what the command does nor on what
running a command file does. -/
theorem turnAt_withBehavior (foreseen : Check.foreseen command ≠ []) (runFile : Action)
    (behavior : Behavior) :
    turnAt { setting with runFile } plan machine (command.withBehavior behavior) =
      turnAt setting plan machine command := by
  obtain ⟨prepared, refused, refusedToo⟩ := exists_prepare_eq_none machine.scene foreseen
  simp only [turnAt, standingAt, Standing.dispatch, Command.role?_withBehavior]
  split
  · simp only [Standing.openBlock, refused, refusedToo]
    rfl
  · simp only [Standing.closeBlock, refused, refusedToo]
    rfl
  · simp only [Standing.openBlock, refused, refusedToo]
    rfl
  · simp only [Standing.closeBlock, refused, refusedToo]
    rfl
  · simp only [execute, refused, refusedToo]
    rfl

/-! ## What a run adds -/

/-- What a run adds to a command is foreseen as far as it can be, unless no dispatch has added it:
the end of a cancelled run and a block that is left open are failures of the run. -/
theorem exists_filter_of_mem_account
    (origins : ∀ (position : Nat) (planned : Planned), plan[position]? = some planned →
      CommandFile.Origin Builtin.registry planned.command)
    (nested : setting.runFile.Proceeds) {entry : Entry}
    (member : entry ∈ account setting plan machine) :
    ∃ (position : Nat) (planned : Planned), plan[position]? = some planned ∧
      planned.index = entry.index ∧
      (entry.added.filter Record.isForeseen = Check.foreseen planned.command ∨
        entry.added.filter Record.isForeseen = []) := by
  rw [account, List.mem_append] at member
  rcases member with dispatched | left
  · obtain ⟨stride, taken, adds⟩ := List.mem_filterMap.mp dispatched
    obtain ⟨status, executes, rfl⟩ := Option.map_eq_some_iff.mp adds
    have here := (step_of_mem_trace taken).1
    refine ⟨_, _, here, rfl, ?_⟩
    simp only [execution?] at executes
    split at executes
    · cases executes
    · split at executes
      · cases executes
        exact .inr rfl
      · cases executes
        exact .inl (filter_records_turn (origins _ _ here) nested)
  · obtain ⟨last, -, blamed⟩ := Option.bind_eq_some_iff.mp (Option.mem_toList.mp left)
    obtain ⟨innermost, -, opened⟩ := Option.bind_eq_some_iff.mp blamed
    obtain ⟨opener, here, same⟩ := Option.bind_eq_some_iff.mp opened
    cases same
    exact ⟨_, _, here, rfl, .inr rfl⟩

end Run

namespace Processor

open CommandFile (IsNumbered)

/-- The turn of a command that a run comes to. -/
def turn (processor : Processor) (runFile : Action) (chosen : Nat → Bool) (machine : Run.Machine)
    (command : Command) : Run.Turn machine.budget :=
  Run.turnAt (processor.setting runFile) (plan processor.commands chosen) machine command

/-- What a check says about a command, and what a dispatch of the command makes of it. -/
structure Foretold (processor : Processor) (files : FileSystem) (chosen : Nat → Bool)
    (stride : Run.Stride) : Prop where
  /-- The command stands in the list, and the dispatch adds its record to it. -/
  listed : processor.commands[stride.planned.index]? = some stride.planned.command
  added : ⟨stride.planned.index, (processor.turn processor.runFile chosen stride.before
    stride.planned.command).status.records⟩ ∈ processor.account files chosen
  /-- The problems that a check lists correspond to the failures of the dispatch one by one. -/
  corresponds : List.Forall₂ (Check.Foresees stride.planned.command)
    (Check.lineProblems stride.planned.command)
    ((processor.turn processor.runFile chosen stride.before
      stride.planned.command).status.records.filter Record.isForeseen)
  /-- A command with a problem fails. -/
  fails : Check.lineProblems stride.planned.command ≠ [] →
    ∃ outcome ∈ (runWith processor.runFile processor files chosen).result.outcomes,
      outcome.index = stride.planned.index ∧ outcome.status = .failure
  /-- A command with a problem does not run: nothing would change if it did something else. -/
  idle : Check.lineProblems stride.planned.command ≠ [] →
    ∀ (runFile : Action) (behavior : Behavior),
      processor.turn runFile chosen stride.before
          (stride.planned.command.withBehavior behavior) =
        processor.turn processor.runFile chosen stride.before stride.planned.command

section

variable {text : String} {edits : List Edit} {processor : Processor} {stride : Run.Stride}

theorem Holds.reports (holds : processor.Holds Builtin.registry text edits) :
    ∀ command ∈ processor.commands, command.Reports :=
  fun command member => (holds.origin command member).recognizedBy.reports

theorem exists_outcome_of_failure (holds : processor.Holds Builtin.registry text edits)
    (files : FileSystem) (chosen : Nat → Bool) {entry : Run.Entry}
    (member : entry ∈ processor.account files chosen) {record : Record}
    (added : record ∈ entry.added) (failure : record.severity = .failure) :
    ∃ outcome ∈ (runWith processor.runFile processor files chosen).result.outcomes,
      outcome.index = entry.index ∧ outcome.status = .failure := by
  obtain ⟨-, command, stands, -⟩ := chosen_of_mem_account processor files chosen member
  have found := getElem?_outcomes processor processor.runFile files chosen entry.index
  rw [stands, Option.map_some] at found
  have among := List.mem_of_getElem? found
  have accounts := accounts_of_mem_outcomes processor files chosen holds.reports among
  exact ⟨_, among, rfl, accounts.isFailure_iff.mpr ⟨entry, member, rfl, record, added, failure⟩⟩

/-- Every dispatch in a session with the built-in commands makes of its command what a check says
about it. -/
theorem foretold_of_dispatches (holds : processor.Holds Builtin.registry text edits)
    (files : FileSystem) (chosen : Nat → Bool)
    (member : stride ∈ processor.trace processor.runFile files chosen)
    (dispatches : stride.Dispatches) : processor.Foretold files chosen stride := by
  have stands := getElem?_index_of_plan (Run.step_of_mem_trace member).1
  have origin := holds.origin _ (List.mem_of_getElem? stands)
  have expected := mt (Check.foreseen_eq_nil_iff origin).mp
  have added : ⟨stride.planned.index, (processor.turn processor.runFile chosen stride.before
      stride.planned.command).status.records⟩ ∈ processor.account files chosen := by
    refine List.mem_append_left _ (List.mem_filterMap.mpr ⟨stride, member, ?_⟩)
    rw [Run.Stride.addition?, Run.execution?_of_running dispatches.1 dispatches.2]
    rfl
  have foreseen : (processor.turn processor.runFile chosen stride.before
      stride.planned.command).status.records.filter Record.isForeseen =
        Check.foreseen stride.planned.command :=
    Run.filter_records_turn origin (Nested.proceeds_runFile _ _)
  refine ⟨stands, added, ?_, ?_, ?_⟩
  · rw [foreseen]
    exact Check.forall₂_foresees origin
  · intro problems
    obtain ⟨record, first⟩ := List.exists_mem_of_ne_nil _ (expected problems)
    rw [← foreseen, List.mem_filter] at first
    exact exists_outcome_of_failure holds files chosen added first.1
      (Record.severity_of_isForeseen first.2)
  · intro problems runFile behavior
    have same : Run.turnAt { processor.setting processor.runFile with runFile }
        (plan processor.commands chosen) stride.before
          (stride.planned.command.withBehavior behavior) =
        Run.turnAt (processor.setting processor.runFile) (plan processor.commands chosen)
          stride.before stride.planned.command :=
      Run.turnAt_withBehavior (expected problems) runFile behavior
    exact same

/-- Behind a run no command has a failure that a check would have foreseen but did not list. -/
theorem filter_records_of_unlisted (holds : processor.Holds Builtin.registry text edits)
    (files : FileSystem) (chosen : Nat → Bool) {command : Command}
    (member : command ∈ (runWith processor.runFile processor files chosen).processor.commands)
    (clean : Check.lineProblems command = []) :
    command.status.records.filter Record.isForeseen = [] := by
  obtain ⟨index, here⟩ := List.mem_iff_getElem?.mp member
  obtain ⟨before, found, rfl⟩ := getElem?_of_withRecords here
  have origin := holds.origin before (List.mem_of_getElem? found)
  have unforeseen : Check.foreseen before = [] := (Check.foreseen_eq_nil_iff origin).mpr clean
  have records := records_statusAt processor files chosen index
  rw [List.filter_eq_nil_iff]
  intro record within foreseen
  have added : record ∈ (Run.addedAt (processor.account files chosen) index).flatten := by
    rw [← records]
    exact within
  obtain ⟨entry, among, same, holdsIt⟩ := Run.mem_flatten_addedAt.mp added
  obtain ⟨position, planned, stands, own, filtered⟩ := Run.exists_filter_of_mem_account
    (fun position planned stands => holds.origin _ (mem_commands_of_plan stands))
    (Nested.proceeds_runFile _ _) among
  have command := getElem?_index_of_plan stands
  rw [own, same, found] at command
  cases command
  have none : entry.added.filter Record.isForeseen = [] := by
    rcases filtered with all | none
    · rw [all, unforeseen]
    · exact none
  exact List.filter_eq_nil_iff.mp none record holdsIt foreseen

/-- A check and every run agree on what is wrong with the lines of a text, also after edits.
Without edits a check lists the problems of the commands, each of which is numbered by its place;
whatever was edited, every dispatch of a command is foretold by its problems, and behind a run no
command has a failure that its problems would have foreseen but did not. -/
theorem check_foretells_run (holds : processor.Holds Builtin.registry text edits)
    (files : FileSystem) (chosen : Nat → Bool) :
    (edits = [] → ∀ files path, readCommandFile files path = .ok text →
      Check.file Builtin.registry files path =
        .ok (processor.commands.flatMap Check.lineProblems)) ∧
    IsNumbered processor.commands ∧
    (∀ stride ∈ processor.trace processor.runFile files chosen, stride.Dispatches →
      processor.Foretold files chosen stride) ∧
    ∀ command ∈ (runWith processor.runFile processor files chosen).processor.commands,
      Check.lineProblems command = [] → command.status.records.filter Record.isForeseen = [] := by
  refine ⟨?_, holds.isNumbered, ?_, ?_⟩
  · rintro rfl files path reads
    have problems (commands : List Command) : commands.flatMap Check.lineProblems =
        (commands.map Command.withoutStatus).flatMap Check.lineProblems := by
      rw [List.flatMap_map]
      rfl
    rw [Check.file, reads, problems, holds.withoutStatus_eq, ← problems]
    rfl
  · exact fun stride => foretold_of_dispatches holds files chosen
  · exact fun command => filter_records_of_unlisted holds files chosen

end

/-- A text with a misspelt command, a line that cannot be read, a message, and a property without
a value but with a parameter too many. -/
def drafted : String :=
  "Mesage(Message=a)\nMessage(Message=b\nMessage(Message=c)\nSetProperty(PropertyName=x,Value=1)"

/-- Setting a parameter that the message does not have. -/
def colored : Edit := .setParameter 2 "Colour" "red"

/-- What a check lists for the edited text. -/
def draftedProblems : List String :=
  ["line 1: unknown command `Mesage` (did you mean `Message`?)",
   "line 2: missing closing `)`",
   "line 3: Parameter `Colour` is not recognized by Message",
   "line 4: Parameter `Value` is not recognized by SetProperty"]

/-- What is edited is foretold like the rest of the text. -/
theorem check_foretells_run_drafted :
    ∃ processor,
      ((create Builtin.registry {} (.empty [] "/") 0).loadText drafted).edit colored =
          .ok processor ∧
      processor.commands.flatMap Check.lineProblems = draftedProblems ∧
      (runWith processor.runFile processor (.empty [] "/") fun _ => true).result.outcomes.map
          (·.status) = [.failure, .failure, .failure, .failure] ∧
      ∀ stride ∈ processor.trace processor.runFile (.empty [] "/") fun _ => true,
        stride.Dispatches → processor.Foretold (.empty [] "/") (fun _ => true) stride := by
  let loaded := (create Builtin.registry {} (.empty [] "/") 0).loadText drafted
  have observed : (match loaded.edit colored with
      | .ok processor => decide (
          processor.commands.flatMap Check.lineProblems = draftedProblems ∧
          (runWith processor.runFile processor (.empty [] "/") fun _ => true).result.outcomes.map
            (·.status) = [.failure, .failure, .failure, .failure])
      | .error _ => false) = true := by
    decide +kernel
  cases done : loaded.edit colored with
  | error error =>
      rw [done] at observed
      cases observed
  | ok processor =>
      rw [done] at observed
      obtain ⟨problems, statuses⟩ := of_decide_eq_true observed
      have holds : processor.Holds Builtin.registry drafted ([] ++ [colored]) :=
        .edited colored (.loaded _ rfl) done
      obtain ⟨-, -, foretold, -⟩ := check_foretells_run holds (.empty [] "/") fun _ => true
      exact ⟨processor, rfl, problems, statuses, foretold⟩

end Processor

end Workflow
