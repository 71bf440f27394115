import Workflow.Proofs.Run.Checking
import Workflow.Proofs.Run.Depth
import Workflow.Proofs.Run.NestedRuns
import Workflow.Proofs.Validation.Specification
import Workflow.Regression

/-!
# Two judges of a command file

A command file is judged by the command that runs it and by the case of a regression run.  If the
file does not run command files itself, the depth at which it is run does not matter, and the two
judges agree, whatever becomes of the run.  Only a command with a parameter that is unknown fails
without a look at the file.
-/

namespace Workflow

/-- Only a file has a text. -/
theorem FileSystem.isFile_of_readText {files : FileSystem} {path : FilePath} {text : String}
    (reads : files.readText path = .ok text) : files.isFile path = true := by
  obtain ⟨bytes, reads, -⟩ := exists_of_bind_eq_ok reads
  obtain ⟨location, located, found⟩ := exists_of_bind_eq_ok reads
  rw [isFile, located]
  dsimp only at found ⊢
  split at found
  · next bytes holds => rw [holds, Option.isSome_some]
  · cases found

instance (result : RunResult) (allowed : Status) :
    Decidable (Nested.Disappoints result allowed) :=
  inferInstanceAs (Decidable (_ ∨ _))

theorem Processor.exists_text_of_loadFile {processor loaded : Processor} {files : FileSystem}
    {path : FilePath} (loads : processor.loadFile files path = .ok loaded) :
    ∃ text, files.readText path = .ok text ∧
      loaded.commands = CommandFile.read processor.registry text := by
  obtain ⟨text, reads, made⟩ := exists_of_bind_eq_ok loads
  cases made
  refine ⟨text, ?_, rfl⟩
  rw [readCommandFile] at reads
  cases found : files.readText path with
  | error error =>
      rw [found] at reads
      cases reads
  | ok text =>
      rw [found] at reads
      cases reads
      rfl

/-- A case without expectations about single commands fails exactly if the run ends worse than it
may. -/
theorem ExpectedCase.verdict_judge {expectation : ExpectedCase}
    (plain : expectation.commands = []) (allowed : Status) (result : RunResult) :
    (expectation.judge allowed result).verdict =
      if Nested.Disappoints result allowed then .fail else .pass := by
  have clean : (result.deviations allowed expectation.commands).isEmpty = true ↔
      ¬ Nested.Disappoints result allowed := by
    rw [plain, RunResult.deviations, RunResult.abortDeviation?, RunResult.statusDeviation?,
      Nested.Disappoints, Status.exceeds, List.isEmpty_iff]
    cases result.ending.abortReason? <;> by_cases worse : allowed < result.status <;> simp [worse]
  rw [judge]
  dsimp only
  by_cases worse : Nested.Disappoints result allowed
  · rw [if_pos worse, if_neg (clean.not.mpr (not_not.mpr worse))]
  · rw [if_neg worse, if_pos (clean.mpr worse)]

section

variable {expectation : ExpectedCase} {folder : FilePath} {registry : Registry}
variable {configuration : Configuration} {files : FileSystem}

theorem ExpectedCase.verdict_run_of_loaded {processor : Processor}
    (plain : expectation.commands = [])
    (loads : (Processor.create registry configuration files 0).loadFile files
      (files.resolve folder expectation.commandFile.text) = .ok processor)
    (enabled : CommandFile.isEnabled processor.commands = true) :
    (expectation.run folder registry configuration files).1.verdict =
      if Nested.Disappoints (processor.runAll files).result
          (expectation.statusFor processor.commands) then .fail
      else .pass := by
  unfold run
  dsimp only
  rw [loads]
  dsimp only
  rw [runLoaded, if_pos enabled]
  exact verdict_judge plain _ _

/-- A regression run of a single case has its verdict. -/
theorem Regression.verdicts_singleton (expectation : ExpectedCase) (folder : FilePath)
    (registry : Registry) (configuration : Configuration) (files : FileSystem) :
    (run folder registry configuration [expectation] files).1.map (·.verdict) =
      [(expectation.run folder registry configuration files).1.verdict] := by
  simp only [run, List.map_cons, List.map_nil]

theorem ExpectedCase.verdict_run_of_error {error : Error}
    (loads : (Processor.create registry configuration files 0).loadFile files
      (files.resolve folder expectation.commandFile.text) = .error error) :
    (expectation.run folder registry configuration files).1.verdict = .fail := by
  unfold run
  dsimp only
  rw [loads]
  rfl

end

namespace Nested

open Builtin.RunCommands (maxDepth)

/-- A command that names a command file and says nothing of a status, at its turn among built-in
commands, in a run that was not cancelled and is not nested too deep. -/
structure Order where
  processor : Processor
  plan : Run.Plan
  machine : Run.Machine
  planned : Run.Planned
  text : String
  builtin : processor.registry = Builtin.registry
  shallow : processor.depth < maxDepth
  here : plan[machine.position]? = some planned
  sized : machine.executions.size = plan.size
  running : machine.cancelled = false
  runs : planned.command.kind = .known Builtin.RunCommands.definition .runFile
  names : givenText? (Run.expanded machine.workspace planned.command) "CommandFile" = some text
  silent : givenText? (Run.expanded machine.workspace planned.command) "ExpectedStatus" = none

namespace Order

variable (order : Order)

/-- The path that the command names. -/
def path : FilePath :=
  order.machine.files.resolve order.machine.workspace.workingFolder (Text.trimmed order.text)

/-- The machine behind the step of the command. -/
def after : Run.Machine :=
  (Run.step (order.processor.setting order.processor.runFile) order.plan order.machine
    order.planned).machine

/-- The last record that the step adds to the command. -/
def EndsWith (record : Record) : Prop :=
  ∃ status : StatusRecord,
    order.after.executionsAt order.machine.position =
      order.machine.executionsAt order.machine.position ++ [status] ∧
    status.records.getLast? = some record

/-- The command ends with the record of a successful run. -/
def Succeeds : Prop :=
  ∃ record, order.EndsWith record ∧ record.phase = .run ∧ record.severity = .success

/-- The command ends with the record of a failure. -/
def Fails : Prop := ∃ record, order.EndsWith record ∧ record.severity = .failure

/-- The file does not run command files itself, and is not annotated as not enabled. -/
structure IsPlain : Prop where
  enabled : ∀ text, order.machine.files.readText order.path = .ok text →
    CommandFile.isEnabled (CommandFile.read Builtin.registry text) = true
  flat : ∀ text, order.machine.files.readText order.path = .ok text →
    ∀ command ∈ CommandFile.read Builtin.registry text, ∀ definition,
      command.kind ≠ .known definition .runFile

/-- The command has no unknown parameter. -/
def IsRecognized : Prop :=
  ∀ name ∈ order.planned.command.parameters.keys,
    Builtin.RunCommands.definition.recognizes name = true

/-- The processor of a regression run with the commands of the file. -/
def loaded : Except Error Processor :=
  (Processor.create Builtin.registry order.processor.configuration order.machine.files 0).loadFile
    order.machine.files order.path

/-- On its own, the file cannot be loaded, or its run ends worse than it may. -/
def IsFlawed : Prop :=
  ∀ loaded, order.loaded = .ok loaded →
    Disappoints (loaded.runAll order.machine.files).result
      ((CommandFile.expectedStatus? loaded.commands).getD .success)

variable {order} in
theorem EndsWith.eq {record other : Record} (ends : order.EndsWith record)
    (endsToo : order.EndsWith other) : record = other := by
  obtain ⟨status, added, last⟩ := ends
  obtain ⟨statusToo, addedToo, lastToo⟩ := endsToo
  rw [added, List.append_cancel_left_eq] at addedToo
  cases addedToo
  exact Option.some.inj (last.symm.trans lastToo)

theorem isFlawed_of_unreadable
    (unreadable : ∀ text, order.machine.files.readText order.path ≠ .ok text) :
    order.IsFlawed := by
  intro loaded loads
  obtain ⟨text, reads, -⟩ := Processor.exists_text_of_loadFile loads
  exact absurd reads (unreadable text)

theorem isFlawed_iff {loaded : Processor} (loads : order.loaded = .ok loaded) :
    order.IsFlawed ↔ Disappoints (loaded.runAll order.machine.files).result
      ((CommandFile.expectedStatus? loaded.commands).getD .success) := by
  refine ⟨fun flawed => flawed loaded loads, fun worse other loadsToo => ?_⟩
  rw [loads] at loadsToo
  cases loadsToo
  exact worse

/-! ## Validation -/

/-- What validation makes of the parameters. -/
def validated : Except (List Problem) ParameterSet :=
  validate ⟨order.machine.files, order.machine.workspace.workingFolder⟩
    Builtin.RunCommands.definition (Run.expanded order.machine.workspace order.planned.command)

/-- The command asks for nothing beyond its definition. -/
theorem checked_eq :
    Run.checked order.machine.scene order.planned.command Builtin.RunCommands.definition .runFile =
      order.validated := by
  rw [Run.checked]
  split
  · next problems refused => exact refused.symm
  · next parameters accepted => exact accepted.symm

theorem isRecognized_of_accepted {parameters : ParameterSet}
    (accepted : order.validated = .ok parameters) : order.IsRecognized := by
  have known := Validation.unknownNames_eq_nil_iff.mp (Validation.unknownNames_of_validate accepted)
  rw [Run.expanded, OrderedMap.keys_mapValues] at known
  exact fun name written => Validation.recognizes_iff.mpr (known name written)

/-- With nothing unknown in it the command is only refused if its path is not that of a file. -/
theorem isFile_of_refused (recognized : order.IsRecognized) {problems : List Problem}
    (refused : order.validated = .error problems) :
    order.machine.files.isFile order.path = false := by
  by_contra found
  rw [Bool.not_eq_false] at found
  -- with a file at the path there is nothing left to complain about
  obtain ⟨parameters, accepted⟩ : ∃ parameters, order.validated = .ok parameters := by
    apply Validation.exists_validate_eq_ok
    · intro name written
      rw [Run.expanded, OrderedMap.keys_mapValues] at written
      exact recognized name written
    · rw [parameters_definition]
      intro next member
      rcases List.mem_cons.mp member with rfl | last
      · rw [parameter_file, order.names]
        exact ⟨_, if_pos found⟩
      · rw [List.mem_singleton.mp last]
        exact ⟨_, parameter_status_of_none order.silent⟩
  rw [accepted] at refused
  cases refused

theorem isFlawed_of_refused (recognized : order.IsRecognized) {problems : List Problem}
    (refused : order.validated = .error problems) : order.IsFlawed := by
  apply order.isFlawed_of_unreadable
  intro text reads
  have found := FileSystem.isFile_of_readText reads
  rw [order.isFile_of_refused recognized refused] at found
  cases found

theorem executionsAt_after :
    order.after.executionsAt order.machine.position =
      order.machine.executionsAt order.machine.position ++
        [(Run.turnAt (order.processor.setting order.processor.runFile) order.plan order.machine
          order.planned.command).status] := by
  have added := Run.executionsAt_step_of_running
    (order.processor.setting order.processor.runFile) (isInert_of_runs order.runs) order.running
    order.here order.sized order.machine.position
  rwa [if_pos rfl] at added

theorem exists_endsWith_of_refused {problems : List Problem}
    (refused : order.validated = .error problems) :
    ∃ record, order.EndsWith record ∧ record.severity = .failure := by
  have prepared : Run.prepare order.machine.scene order.planned.command =
      (Run.refuseAll order.machine.scene problems, none) := by
    rw [Run.prepare, order.runs]
    dsimp only
    rw [order.checked_eq, refused]
  have executes : Run.execute (order.processor.setting order.processor.runFile)
      order.planned.command order.machine.scene = Run.refuseAll order.machine.scene problems := by
    rw [Run.execute, prepared]
  have records : (Run.turnAt (order.processor.setting order.processor.runFile) order.plan
      order.machine order.planned.command).status.records = problems.map Problem.failure := by
    rw [Run.turnAt, Run.Standing.dispatch_of_ordinary (role?_of_runs order.runs)]
    change (Run.execute (order.processor.setting order.processor.runFile)
      order.planned.command order.machine.scene).status.records = _
    rw [executes, Run.records_refuseAll]
    rfl
  have complains := Validation.ne_nil_of_validate refused
  refine ⟨(problems.getLast complains).failure, ⟨_, order.executionsAt_after, ?_⟩, rfl⟩
  rw [records, List.getLast?_map, List.getLast?_eq_some_getLast complains]
  rfl

/-! ## An accepted command -/

section

variable {order} {parameters : ParameterSet}

/-- A command that is not refused runs the file. -/
def summons (accepted : order.validated = .ok parameters) : Summons where
  processor := order.processor
  plan := order.plan
  machine := order.machine
  planned := order.planned
  parameters := parameters
  here := order.here
  sized := order.sized
  running := order.running
  runs := order.runs
  accepted := by
    rw [Run.prepare, order.runs]
    dsimp only
    rw [order.checked_eq, accepted]

variable (accepted : order.validated = .ok parameters)

include accepted in
/-- Without a status in the command, that of the file counts. -/
theorem allowedStatus_eq (commands : List Command) :
    allowedStatus parameters commands =
      (CommandFile.expectedStatus? commands).getD .success := by
  have makes := Validation.parameter_eq_of_validate (by decide) accepted
    (show statusParameter ∈ _ from List.mem_cons_of_mem _ List.mem_cons_self)
  rw [parameter_status_of_none order.silent] at makes
  have absent : parameters.get? "ExpectedStatus" = none := (Except.ok.inj makes).symm
  rw [allowedStatus, ParameterSet.text?, absent]
  rfl

theorem path_summons : (summons accepted).path = order.path := by
  obtain ⟨text, given, -, path⟩ := path?_of_validate accepted
  rw [order.names] at given
  cases given
  exact Option.some.inj ((summons accepted).path?_eq.symm.trans path)

/-- The command runs the file as a regression run does, only deeper. -/
theorem load_summons : (summons accepted).load = order.loaded.map fun loaded =>
    { loaded with depth := order.processor.depth + 1 } := by
  rw [loaded, ← Processor.loadFile_depth, Summons.load, path_summons, child]
  change Processor.loadFile
    { Processor.create order.processor.registry order.processor.configuration order.machine.files
        (order.processor.depth + 1) with cancelled := order.machine.cancelled }
    order.machine.files order.path = _
  rw [order.builtin, order.running]
  rfl

/-- The depth at which a plain file is run does not matter. -/
theorem fails_summons_iff (plain : order.IsPlain) :
    (summons accepted).Fails ↔ order.IsFlawed := by
  have shallow : ¬ maxDepth < (summons accepted).processor.depth + 1 :=
    Nat.not_lt.mpr order.shallow
  have loads := load_summons accepted
  cases alone : order.loaded with
  | error error =>
      rw [alone] at loads
      refine iff_of_true (.unreadable loads) fun loaded same => ?_
      rw [alone] at same
      cases same
  | ok loaded =>
      rw [alone] at loads
      obtain ⟨text, reads, commands⟩ := Processor.exists_text_of_loadFile alone
      have contained : ∀ command ∈ loaded.commands, command.IsContained := by
        intro command member
        rw [commands] at member
        exact (CommandFile.recognizedBy_of_mem_read member).isContained
          (plain.flat text reads command member)
      -- nothing in the file looks at the depth, the one thing in which the two processors differ
      have same := (Processor.runAll_depth loaded order.machine.files contained
        (order.processor.depth + 1)).1
      have allowed := allowedStatus_eq accepted loaded.commands
      rw [order.isFlawed_iff alone]
      constructor
      · intro fails
        have worse := (summons accepted).disappoints_of_fails shallow loads fails
        change Disappoints (Processor.runAll { loaded with depth := order.processor.depth + 1 }
          order.machine.files).result (allowedStatus parameters loaded.commands) at worse
        rwa [same, allowed] at worse
      · intro worse
        rw [← same, ← allowed] at worse
        exact .disappointed loads worse

end

/-! ## The two judges -/

theorem exists_endsWith (plain : order.IsPlain) :
    ∃ record, order.EndsWith record ∧
      ((order.IsRecognized → order.IsFlawed) ∧ record.severity = .failure ∨
        order.IsRecognized ∧ ¬ order.IsFlawed ∧ record.phase = .run ∧
          record.severity = .success) := by
  cases validates : order.validated with
  | error problems =>
      obtain ⟨record, ends, failure⟩ := order.exists_endsWith_of_refused validates
      exact ⟨record, ends, .inl
        ⟨fun recognized => order.isFlawed_of_refused recognized validates, failure⟩⟩
  | ok parameters =>
      have recognized := order.isRecognized_of_accepted validates
      obtain ⟨status, record, own, only, phase, verdict⟩ := (summons validates).isIsolated.own
      have last : status.records.getLast? = some record := by
        rw [only]
        rfl
      rw [fails_summons_iff validates plain] at verdict
      refine ⟨record, ⟨status, own, last⟩, verdict.imp ?_ ?_⟩
      · exact fun unsound => ⟨fun _ => unsound.1, unsound.2⟩
      · exact fun sound => ⟨recognized, sound.1, phase, sound.2⟩

theorem succeeds_iff (plain : order.IsPlain) :
    order.Succeeds ↔ order.IsRecognized ∧ ¬ order.IsFlawed := by
  obtain ⟨record, ends, ending⟩ := order.exists_endsWith plain
  constructor
  · rintro ⟨other, endsToo, -, success⟩
    obtain ⟨-, failure⟩ | ⟨recognized, sound, -⟩ := ending
    · rw [← ends.eq endsToo, failure] at success
      cases success
    · exact ⟨recognized, sound⟩
  · rintro ⟨recognized, sound⟩
    obtain ⟨unsound, -⟩ | ⟨-, -, phase, success⟩ := ending
    · exact absurd (unsound recognized) sound
    · exact ⟨record, ends, phase, success⟩

theorem fails_iff (plain : order.IsPlain) :
    order.Fails ↔ ¬ order.IsRecognized ∨ order.IsFlawed := by
  rw [← imp_iff_not_or]
  obtain ⟨record, ends, ending⟩ := order.exists_endsWith plain
  constructor
  · rintro ⟨other, endsToo, failure⟩
    obtain ⟨unsound, -⟩ | ⟨-, -, -, success⟩ := ending
    · exact unsound
    · rw [← ends.eq endsToo, success] at failure
      cases failure
  · intro unsound
    obtain ⟨-, failure⟩ | ⟨recognized, sound, -⟩ := ending
    · exact ⟨record, ends, failure⟩
    · exact absurd (unsound recognized) sound

/-- What a regression run with nothing but the path of a file says of it. -/
def verdicts (folder commandFile : FilePath) : List Verdict :=
  (Regression.run folder Builtin.registry order.processor.configuration [{ commandFile }]
    order.machine.files).1.map (·.verdict)

/-- A regression run fails or passes the file by whether it is flawed. -/
theorem verdicts_eq (plain : order.IsPlain) {folder commandFile : FilePath}
    (leads : order.machine.files.resolve folder commandFile.text = order.path) :
    order.IsFlawed ∧ order.verdicts folder commandFile = [.fail] ∨
      ¬ order.IsFlawed ∧ order.verdicts folder commandFile = [.pass] := by
  rw [verdicts, Regression.verdicts_singleton]
  cases loads : order.loaded with
  | error error =>
      have flawed : order.IsFlawed := by
        intro loaded loadsToo
        rw [loads] at loadsToo
        cases loadsToo
      rw [loaded, ← leads] at loads
      have verdict : (ExpectedCase.run { commandFile } folder Builtin.registry
          order.processor.configuration order.machine.files).1.verdict = .fail :=
        ExpectedCase.verdict_run_of_error loads
      rw [verdict]
      exact .inl ⟨flawed, rfl⟩
  | ok loaded =>
      obtain ⟨text, reads, commands⟩ := Processor.exists_text_of_loadFile loads
      have enabled : CommandFile.isEnabled loaded.commands = true := by
        rw [commands]
        exact plain.enabled text reads
      have flawed_iff := order.isFlawed_iff loads
      rw [Order.loaded, ← leads] at loads
      have verdict := ExpectedCase.verdict_run_of_loaded
        (show ({ commandFile } : ExpectedCase).commands = [] from rfl) loads enabled
      rw [verdict, flawed_iff]
      split
      · next worse => exact .inl ⟨worse, rfl⟩
      · next fine => exact .inr ⟨fine, rfl⟩

/-- A command that runs a plain file with no word about its status succeeds exactly if it has no
unknown parameter and a regression run with nothing but the path of the file passes.  It fails
exactly if it has an unknown parameter or the regression run fails. -/
theorem judges_agree (order : Order) (plain : order.IsPlain) (folder commandFile : FilePath)
    (leads : order.machine.files.resolve folder commandFile.text = order.path) :
    (order.Succeeds ↔ order.IsRecognized ∧ order.verdicts folder commandFile = [.pass]) ∧
      (order.Fails ↔ ¬ order.IsRecognized ∨ order.verdicts folder commandFile = [.fail]) ∧
      ((∀ text, order.machine.files.readText order.path ≠ .ok text) →
        order.Fails ∧ order.verdicts folder commandFile = [.fail]) := by
  rw [order.succeeds_iff plain, order.fails_iff plain]
  -- both judges go by whether the file is flawed
  obtain ⟨flawed, fail⟩ | ⟨sound, pass⟩ := order.verdicts_eq plain leads
  · rw [fail]
    have passesNot : ([.fail] : List Verdict) ≠ [.pass] := by decide
    exact ⟨and_congr_right' (iff_of_false (not_not.mpr flawed) passesNot),
      or_congr_right (iff_of_true flawed rfl), fun _ => ⟨.inr flawed, rfl⟩⟩
  · rw [pass]
    have failsNot : ([.pass] : List Verdict) ≠ [.fail] := by decide
    exact ⟨and_congr_right' (iff_of_true sound rfl), or_congr_right (iff_of_false sound failsNot),
      fun unreadable => absurd (order.isFlawed_of_unreadable unreadable) sound⟩

end Order

/-- A network on which every request succeeds. -/
def answeringNetwork : Network :=
  { Network.offline with reply := fun _ _ => .response 200 (.ok .empty) }

/-- A file that downloads another one and warns as it is annotated to, a file that does not close
its block, and a file with a note. -/
def judgedFiles : FileSystem :=
  { FileSystem.empty ["work"] "/home" with
    files :=
      [(["work", "careful.gp"],
        "#@expectedStatus Warning
WebGet(URI=http://h/a,OutputFile=a)
Message(Message=careful,CommandStatus=Warning)".toUTF8),
       (["work", "open.gp"], "Message(Message=before)\nIf(Name=x,Condition=true)".toUTF8),
       (["work", "note.gp"], "Message(Message=note)".toUTF8)]
    network := answeringNetwork }

/-- A command that runs a file. -/
def delegateWith (given : List (String × String)) : Command where
  name := "RunCommands"
  line := 1
  text :=
    "RunCommands(" ++ ",".intercalate (given.map fun (name, text) => name ++ "=" ++ text) ++ ")"
  parameters := .ofList given
  kind := .known Builtin.RunCommands.definition .runFile

/-- A processor with the command in a run that is nested already. -/
def judging (given : List (String × String)) : Processor :=
  { Processor.create Builtin.registry {} judgedFiles 2 with commands := [delegateWith given] }

/-- The command at its turn. -/
def judgedOrder (given : List (String × String)) (file : String)
    (names : givenText? (Run.expanded (judging given).workspace (delegateWith given))
      "CommandFile" = some file)
    (silent : givenText? (Run.expanded (judging given).workspace (delegateWith given))
      "ExpectedStatus" = none) : Order where
  processor := judging given
  plan := Processor.plan (judging given).commands fun _ => true
  machine := (judging given).machine judgedFiles
    (Processor.plan (judging given).commands fun _ => true)
  planned := ⟨0, delegateWith given⟩
  text := file
  builtin := rfl
  shallow := show 2 < maxDepth by decide
  here := rfl
  sized := (judging given).size_executions_machine judgedFiles _
  running := rfl
  runs := rfl
  names := names
  silent := silent

/-- Whether a text has commands that are not annotated as not enabled, and run no command file. -/
def isPlainText (text : String) : Bool :=
  let commands := CommandFile.read Builtin.registry text
  CommandFile.isEnabled commands && commands.all fun command =>
    match command.kind with
    | .known _ .runFile => false
    | _ => true

theorem Order.isPlain_of_text {order : Order}
    (plain : (order.machine.files.readText order.path).toOption.all isPlainText = true) :
    order.IsPlain := by
  have plainText {text : String} (reads : order.machine.files.readText order.path = .ok text) :
      isPlainText text = true := by
    rw [reads] at plain
    exact plain
  constructor
  case enabled => exact fun text reads => (Bool.and_eq_true_iff.mp (plainText reads)).1
  case flat =>
    intro text reads command member definition runs
    have flat := List.all_eq_true.mp (Bool.and_eq_true_iff.mp (plainText reads)).2 command member
    rw [runs] at flat
    cases flat

/-- The file that warns as it may passes and lets its command succeed, although the run of the
command is nested; the file with the open block fails and lets its command fail. -/
theorem judges_agree_careful_and_open :
    ∃ careful opened : Order, careful.text = "careful.gp" ∧ opened.text = "open.gp" ∧
      careful.processor.depth = 2 ∧ careful.Succeeds ∧ opened.Fails := by
  let careful := judgedOrder [("CommandFile", "careful.gp")] "careful.gp" (by decide +kernel) rfl
  let opened := judgedOrder [("CommandFile", "open.gp")] "open.gp" (by decide +kernel) rfl
  have plainCareful : careful.IsPlain := Order.isPlain_of_text (by decide +kernel)
  have plainOpened : opened.IsPlain := Order.isPlain_of_text (by decide +kernel)
  have recognized : careful.IsRecognized := by
    intro name written
    rw [List.mem_singleton.mp written]
    rfl
  have succeeds := careful.judges_agree plainCareful ⟨"/work"⟩ ⟨"careful.gp"⟩ (by decide +kernel)
  have fails := opened.judges_agree plainOpened ⟨"/work"⟩ ⟨"open.gp"⟩ (by decide +kernel)
  exact ⟨careful, opened, rfl, rfl, rfl, succeeds.1.mpr ⟨recognized, by decide +kernel⟩,
    fails.2.1.mpr (.inr (by decide +kernel))⟩

/-- The file with a note is plain and passes, but a command that runs it with a parameter that is
unknown fails. -/
theorem unknown_parameter_parts_judges :
    ∃ order : Order,
      order.planned.command.text = "RunCommands(CommandFile=note.gp,Colour=red)" ∧
      order.IsPlain ∧
      order.machine.files.resolve ⟨"/work"⟩ "note.gp" = order.path ∧
      order.verdicts ⟨"/work"⟩ ⟨"note.gp"⟩ = [.pass] ∧ ¬ order.Succeeds ∧ order.Fails := by
  let order := judgedOrder [("CommandFile", "note.gp"), ("Colour", "red")] "note.gp"
    (by decide +kernel) rfl
  have plain : order.IsPlain := Order.isPlain_of_text (by decide +kernel)
  have unknown : ¬ order.IsRecognized := by
    intro recognized
    have known := recognized "Colour" (by decide +kernel)
    revert known
    decide +kernel
  refine ⟨order, by decide +kernel, plain, by decide +kernel, by decide +kernel, ?_, ?_⟩
  · exact fun succeeds => unknown ((order.succeeds_iff plain).mp succeeds).1
  · exact (order.fails_iff plain).mpr (.inl unknown)

end Nested

end Workflow
