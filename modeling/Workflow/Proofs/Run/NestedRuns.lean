import Workflow.Proofs.Run.Accounting
import Workflow.Proofs.Run.BlockNames
import Workflow.Proofs.WorkingFolder

/-!
# Command files run by a command

A command that runs a command file gets nothing of its run but the files and the cancellation, and
a judgement on how it ended; and the run gets nothing of the command but the files, the
cancellation, the registry, the configuration and the depth.
-/

namespace Workflow

namespace Nested

open Builtin.RunCommands (maxDepth)
open Validation (Place effectiveText? coerce)

/-! ## The parameters -/

/-- The parameter with the path of the command file. -/
def fileParameter : Parameter := { name := "CommandFile", type := .inputFile, required := true }

/-- The parameter with the status that the command file may end with. -/
def statusParameter : Parameter where
  name := "ExpectedStatus"
  allowed := ["Success", "Warning", "Failure"]
  description := some "Default: the file's #@expectedStatus, else Success"

theorem parameters_definition :
    Builtin.RunCommands.definition.parameters = [fileParameter, statusParameter] := rfl

/-- The text of a parameter that is given and not blank. -/
def givenText? (raw : OrderedMap String) (name : String) : Option String :=
  (raw.get? name).filter fun text => Text.trim text.toList != []

theorem effectiveText?_of_fallback {parameter : Parameter} (bare : parameter.fallback = none)
    (raw : OrderedMap String) : effectiveText? raw parameter = givenText? raw parameter.name := by
  simp only [effectiveText?, givenText?, bare]
  split
  · next text given => rw [given]
  · next given => rw [given]

theorem parameter_file (place : Place) (raw : OrderedMap String) :
    Validation.parameter place raw fileParameter =
      match givenText? raw "CommandFile" with
      | none => .error (Validation.missingParameter "CommandFile")
      | some text =>
          let path := place.files.resolve place.workingFolder (Text.trimmed text)
          if place.files.isFile path then .ok (some (.path path))
          else .error (Validation.noInputFile "CommandFile" path) := by
  have effective : effectiveText? raw fileParameter = givenText? raw "CommandFile" :=
    effectiveText?_of_fallback rfl raw
  rw [Validation.parameter, effective]
  cases givenText? raw "CommandFile" with
  | none => rfl
  | some text =>
      have normal : Validation.normalText fileParameter text = Text.trimmed text :=
        if_neg (by decide)
      dsimp only
      rw [coerce, if_pos (by rfl), normal]
      unfold Validation.typed
      dsimp only [fileParameter]
      generalize place.files.resolve place.workingFolder (Text.trimmed text) = path
      generalize place.files.isFile path = found
      cases found <;> rfl

theorem parameter_status_of_none {place : Place} {raw : OrderedMap String}
    (absent : givenText? raw "ExpectedStatus" = none) :
    Validation.parameter place raw statusParameter = .ok none := by
  have effective : effectiveText? raw statusParameter = none :=
    (effectiveText?_of_fallback rfl raw).trans absent
  rw [Validation.parameter, effective]
  rfl

theorem exists_status_of_parameter {place : Place} {raw : OrderedMap String} {value : Value}
    (makes : Validation.parameter place raw statusParameter = .ok (some value)) :
    ∃ name status, value = .text name ∧ Status.read? name = some status := by
  simp only [Validation.parameter] at makes
  split at makes
  · next text given =>
      simp only [coerce] at makes
      rw [if_neg (by decide)] at makes
      split at makes
      · next name found =>
          cases makes
          have allowed : name ∈ statusParameter.allowed := List.mem_of_find?_eq_some found
          have readable : ∀ name ∈ statusParameter.allowed, (Status.read? name).isSome = true := by
            decide
          obtain ⟨status, reads⟩ := Option.isSome_iff_exists.mp (readable name allowed)
          exact ⟨name, status, rfl, reads⟩
      · cases makes
  · rw [if_neg (by decide)] at makes
    cases makes

section

variable {place : Place} {raw : OrderedMap String} {parameters : ParameterSet}

/-- Validated parameters hold the path of a file. -/
theorem path?_of_validate
    (validated : validate place Builtin.RunCommands.definition raw = .ok parameters) :
    ∃ text, givenText? raw "CommandFile" = some text ∧
      let path := place.files.resolve place.workingFolder (Text.trimmed text)
      place.files.isFile path = true ∧ ParameterSet.path? parameters "CommandFile" = some path := by
  have makes := Validation.parameter_eq_of_validate (by decide) validated
    (show fileParameter ∈ _ from List.mem_cons_self)
  rw [parameter_file] at makes
  split at makes
  · cases makes
  · next text given =>
      refine ⟨text, given, ?_⟩
      dsimp only at makes ⊢
      generalize place.files.resolve place.workingFolder (Text.trimmed text) = path at makes ⊢
      split at makes
      · next found =>
          have holds : parameters.get? "CommandFile" = some (.path path) :=
            (Except.ok.inj makes).symm
          refine ⟨found, ?_⟩
          rw [ParameterSet.path?, holds]
          rfl
      · cases makes

/-- The status that a command file may end with: the one that is asked for, or the one that the
file is annotated with, or success. -/
def allowedStatus (parameters : ParameterSet) (commands : List Command) : Status :=
  (((ParameterSet.text? parameters "ExpectedStatus").bind Status.read?).or
    (CommandFile.expectedStatus? commands)).getD .success

/-- Validated parameters leave no doubt about the status that a command file may end with. -/
theorem expectedStatus_of_validate
    (validated : validate place Builtin.RunCommands.definition raw = .ok parameters)
    (commands : List Command) :
    expectedStatus parameters commands = .ok (allowedStatus parameters commands) := by
  have makes := Validation.parameter_eq_of_validate (by decide) validated
    (show statusParameter ∈ _ from List.mem_cons_of_mem _ List.mem_cons_self)
  rw [expectedStatus, allowedStatus, ParameterSet.text?]
  cases holds : parameters.get? "ExpectedStatus" with
  | none => rfl
  | some value =>
      rw [show parameters.get? statusParameter.name = some value from holds] at makes
      obtain ⟨name, status, rfl, reads⟩ := exists_status_of_parameter makes
      simp [Value.text?, reads]

end

/-! ## The judgement -/

/-- A run that ended worse than it may. -/
def Disappoints (result : RunResult) (allowed : Status) : Prop :=
  result.ending.abortReason?.isSome = true ∨ allowed < result.status

/-- A judgement adds one record, whatever is known of the command. -/
theorem exists_judge_eq (path : FilePath) (allowed : Status) (result : RunResult) :
    ∃ record : Record, record.phase = .run ∧
      (Disappoints result allowed ∧ record.severity = .failure ∨
        ¬ Disappoints result allowed ∧ record.severity = .success) ∧
      ∀ scene, judge scene path allowed result =
        { scene with status := scene.status.add record } := by
  unfold judge Disappoints
  cases aborted : result.ending.abortReason? with
  | some reason => exact ⟨_, rfl, .inl ⟨.inl rfl, rfl⟩, fun _ => rfl⟩
  | none =>
      dsimp only
      cases worse : result.status.exceeds allowed with
      | true => exact ⟨_, rfl, .inl ⟨.inr (of_decide_eq_true worse), rfl⟩, fun _ => rfl⟩
      | false =>
          refine ⟨_, rfl, .inr ⟨?_, rfl⟩, fun _ => rfl⟩
          rintro (none | more)
          · cases none
          · exact of_decide_eq_false worse more

/-! ## The caller -/

theorem role?_of_runs {command : Command}
    (runs : command.kind = .known Builtin.RunCommands.definition .runFile) :
    command.role? = none := by
  rw [Command.role?, Command.definition?, runs]
  rfl

theorem isInert_of_runs {command : Command}
    (runs : command.kind = .known Builtin.RunCommands.definition .runFile) :
    command.isInert = false := by
  rw [Command.isInert, runs]

/-- A command that runs a command file, at its turn in a run that was not cancelled, with
parameters that were validated. -/
structure Summons where
  processor : Processor
  plan : Run.Plan
  machine : Run.Machine
  planned : Run.Planned
  parameters : ParameterSet
  here : plan[machine.position]? = some planned
  sized : machine.executions.size = plan.size
  running : machine.cancelled = false
  runs : planned.command.kind = .known Builtin.RunCommands.definition .runFile
  accepted : (Run.prepare machine.scene planned.command).2 = some parameters

namespace Summons

variable (summons : Summons)

/-- The machine behind the step of the command. -/
def after : Run.Machine :=
  (Run.step (summons.processor.setting summons.processor.runFile) summons.plan summons.machine
    summons.planned).machine

theorem prepare_eq :
    Run.prepare summons.machine.scene summons.planned.command =
      ({ summons.machine.scene with status := StatusRecord.fresh.promote .validation .success },
        some summons.parameters) := by
  have accepted : Run.prepare summons.machine.scene summons.planned.command =
      ((Run.prepare summons.machine.scene summons.planned.command).1, some summons.parameters) :=
    Prod.ext rfl summons.accepted
  rw [accepted, Run.prepared_eq accepted]
  rfl

theorem validated :
    validate ⟨summons.machine.scene.files, summons.machine.scene.workspace.workingFolder⟩
      Builtin.RunCommands.definition
      (Run.expanded summons.machine.scene.workspace summons.planned.command) =
        .ok summons.parameters :=
  Run.validate_of_prepare summons.runs summons.prepare_eq

theorem isSome_path? : (ParameterSet.path? summons.parameters "CommandFile").isSome = true := by
  obtain ⟨text, -, -, path⟩ := path?_of_validate summons.validated
  rw [path]
  rfl

/-- The path of the command file. -/
def path : FilePath := (ParameterSet.path? summons.parameters "CommandFile").get
  summons.isSome_path?

theorem path?_eq : ParameterSet.path? summons.parameters "CommandFile" = some summons.path :=
  (Option.some_get summons.isSome_path?).symm

/-- The processor with the commands of the file, one level deeper. -/
def load : Except Error Processor :=
  (child summons.processor.registry
    (summons.processor.setting summons.processor.runFile).surroundings
    summons.machine.scene).loadFile summons.machine.files summons.path

/-- The run of the command file, unless runs are nested too deep or the file cannot be loaded. -/
def nested : Except Error Processor.Run :=
  if maxDepth < summons.processor.depth + 1 then .error (.obstacle (.nestedTooDeep maxDepth))
  else summons.load.map fun loaded => loaded.runAll summons.machine.files

/-- The reasons for which the command fails. -/
inductive Fails : Prop where
  | tooDeep (deep : maxDepth < summons.processor.depth + 1)
  | unreadable {error : Error} (loads : summons.load = .error error)
  | disappointed {loaded : Processor} (loads : summons.load = .ok loaded)
      (worse : Disappoints (loaded.runAll summons.machine.files).result
        (allowedStatus summons.parameters loaded.commands))

/-- A command with the same registry, configuration, depth, files and path.  Neither the workspaces
nor the flags of the two runs have anything to do with each other. -/
structure IsAlike (other : Summons) : Prop where
  registry : other.processor.registry = summons.processor.registry
  configuration : other.processor.configuration = summons.processor.configuration
  depth : other.processor.depth = summons.processor.depth
  files : other.machine.files = summons.machine.files
  path : other.path = summons.path

/-- What is left of the files and of the cancellation. -/
def leftover : FileSystem × Bool :=
  match summons.nested with
  | .ok run => (run.files, run.processor.cancelled)
  | .error _ => (summons.machine.files, summons.machine.cancelled)

theorem errand_eq (status : StatusRecord) :
    errand summons.processor.registry
        (summons.processor.setting summons.processor.runFile).surroundings summons.parameters
        { summons.machine.scene with status } =
      if maxDepth < summons.processor.depth + 1 then .error (.obstacle (.nestedTooDeep maxDepth))
      else summons.load.map fun loaded =>
        ⟨summons.path, loaded, allowedStatus summons.parameters loaded.commands⟩ := by
  have path : ParameterSet.path summons.parameters "CommandFile" = .ok summons.path := by
    rw [ParameterSet.path, summons.path?_eq]
  rw [errand, path]
  by_cases deep : maxDepth < summons.processor.depth + 1
  · rw [if_pos deep]
    exact if_pos (Nat.lt_succ_iff.mp deep)
  · rw [if_neg deep]
    refine (if_neg (mt Nat.lt_succ_iff.mpr deep)).trans ?_
    change (do
      let loaded ← summons.load
      let allowed ← expectedStatus summons.parameters loaded.commands
      .ok (Errand.mk summons.path loaded allowed)) = _
    cases summons.load with
    | error error => rfl
    | ok loaded =>
        have allowed := expectedStatus_of_validate summons.validated loaded.commands
        change (do
          let allowed ← expectedStatus summons.parameters loaded.commands
          .ok (Errand.mk summons.path loaded allowed)) = _
        rw [allowed]
        rfl

/-- The command runs the file that it names, in so far as it can be run. -/
theorem turnAt_eq :
    Run.turnAt (summons.processor.setting summons.processor.runFile) summons.plan summons.machine
        summons.planned.command =
      ⟨Run.conclude (perform summons.processor.registry
        (summons.processor.setting summons.processor.runFile).surroundings summons.parameters
        { summons.machine.scene with
          status := StatusRecord.fresh.promote .validation .success }),
        summons.machine.frames, .ok (.ahead 0)⟩ := by
  have executes : Run.execute (summons.processor.setting summons.processor.runFile)
      summons.planned.command summons.machine.scene =
        Run.conclude (perform summons.processor.registry
          (summons.processor.setting summons.processor.runFile).surroundings summons.parameters
          { summons.machine.scene with
            status := StatusRecord.fresh.promote .validation .success }) := by
    rw [Run.execute, summons.prepare_eq]
    dsimp only
    rw [Run.act, summons.runs]
    exact congrArg Run.conclude (runFile_eq_perform rfl _ _)
  rw [Run.turnAt, Run.Standing.dispatch_of_ordinary (role?_of_runs summons.runs), ← executes]
  rfl

/-- A command only fails for the run of a file that could be loaded if the run ended worse than it
may. -/
theorem disappoints_of_fails (shallow : ¬ maxDepth < summons.processor.depth + 1)
    {loaded : Processor} (loads : summons.load = .ok loaded) (fails : summons.Fails) :
    Disappoints (loaded.runAll summons.machine.files).result
      (allowedStatus summons.parameters loaded.commands) := by
  cases fails with
  | tooDeep deep => exact absurd deep shallow
  | unreadable fails =>
      rw [loads] at fails
      cases fails
  | disappointed loadsToo worse =>
      rw [loads] at loadsToo
      cases loadsToo
      exact worse

/-- All that the command changes of the scene are the files, the cancellation and its own record,
to which it adds one entry. -/
theorem exists_turnAt_eq :
    ∃ (record : Record) (status : StatusRecord),
      Run.turnAt (summons.processor.setting summons.processor.runFile) summons.plan
          summons.machine summons.planned.command =
        ⟨{ summons.machine.scene with
            files := summons.leftover.1
            cancelled := summons.leftover.2
            status },
          summons.machine.frames, .ok (.ahead 0)⟩ ∧
      status.records = [record] ∧ record.phase = .run ∧
      (summons.Fails ∧ record.severity = .failure ∨
        ¬ summons.Fails ∧ record.severity = .success) := by
  rw [summons.turnAt_eq, perform, summons.errand_eq, leftover, nested]
  by_cases deep : maxDepth < summons.processor.depth + 1
  · rw [if_pos deep, if_pos deep]
    exact ⟨_, _, rfl, rfl, rfl, .inl ⟨.tooDeep deep, rfl⟩⟩
  · rw [if_neg deep, if_neg deep]
    cases loads : summons.load with
    | error error => exact ⟨_, _, rfl, rfl, rfl, .inl ⟨.unreadable loads, rfl⟩⟩
    | ok loaded =>
        obtain ⟨record, phase, verdict, judges⟩ := exists_judge_eq summons.path
          (allowedStatus summons.parameters loaded.commands)
          (loaded.runAll summons.machine.files).result
        let validated := StatusRecord.fresh.promote .validation .success
        refine ⟨record, (validated.add record).promote .run .success, ?_, ?_, phase,
          verdict.imp (fun fails => ?_) fun succeeds => ?_⟩
        · exact congrArg (fun scene => Run.Turn.mk (Run.conclude (.done scene)) _ _) (judges _)
        · rw [StatusRecord.records_promote, StatusRecord.records_add]
          rfl
        · exact ⟨.disappointed loads fails.1, fails.2⟩
        · refine ⟨fun fails => ?_, succeeds.2⟩
          exact succeeds.1 (summons.disappoints_of_fails deep loads fails)

/-- A step that leaves its run as it was, except for the files, the cancellation, and one more
record of its own command. -/
structure IsIsolated : Prop where
  workspace : summons.after.workspace = summons.machine.workspace
  haltOnFailure : summons.after.haltOnFailure = summons.machine.haltOnFailure
  exitRequested : summons.after.exitRequested = summons.machine.exitRequested
  others : ∀ position, position ≠ summons.machine.position →
    summons.after.executionsAt position = summons.machine.executionsAt position
  own : ∃ (status : StatusRecord) (record : Record),
    summons.after.executionsAt summons.machine.position =
      summons.machine.executionsAt summons.machine.position ++ [status] ∧
    status.records = [record] ∧ record.phase = .run ∧
    (summons.Fails ∧ record.severity = .failure ∨ ¬ summons.Fails ∧ record.severity = .success)
  files : summons.after.files = summons.leftover.1
  cancelled : summons.after.cancelled = summons.leftover.2

theorem isIsolated : summons.IsIsolated := by
  obtain ⟨record, status, left, only, phase, verdict⟩ := summons.exists_turnAt_eq
  have active := isInert_of_runs summons.runs
  have scene : summons.after.scene =
      { summons.machine.scene with
        files := summons.leftover.1
        cancelled := summons.leftover.2 } := by
    rw [after, Run.step_of_running active summons.running, Run.scene_finish, left]
    rfl
  have added := Run.executionsAt_step_of_running
    (summons.processor.setting summons.processor.runFile) active summons.running summons.here
    summons.sized
  rw [left] at added
  constructor
  case workspace => exact congrArg (·.workspace) scene
  case haltOnFailure => exact congrArg (·.haltOnFailure) scene
  case exitRequested => exact congrArg (·.exitRequested) scene
  case files => exact congrArg (·.files) scene
  case cancelled => exact congrArg (·.cancelled) scene
  case others =>
    intro position other
    have kept := added position
    rwa [if_neg other.symm, List.append_nil] at kept
  case own =>
    have own := added summons.machine.position
    rw [if_pos rfl] at own
    exact ⟨_, record, own, only, phase, verdict⟩

/-! ## Two callers -/

variable {summons}

/-- The run of a command file only depends on what two commands have in common that are alike. -/
theorem IsAlike.nested_eq {other : Summons} (alike : summons.IsAlike other) :
    other.nested = summons.nested := by
  -- neither command hands a cancellation on, since neither run was cancelled
  have child : child other.processor.registry
      (other.processor.setting other.processor.runFile).surroundings other.machine.scene =
    child summons.processor.registry
      (summons.processor.setting summons.processor.runFile).surroundings
      summons.machine.scene := by
    change
      ({ Processor.create other.processor.registry other.processor.configuration
          other.machine.files (other.processor.depth + 1) with
        cancelled := other.machine.cancelled } : Processor) = _
    rw [alike.registry, alike.configuration, alike.files, alike.depth, other.running,
      ← summons.running]
    rfl
  have load : other.load = summons.load := by
    rw [Summons.load, Summons.load, child, alike.files, alike.path]
  rw [nested, nested, load, alike.depth, alike.files]

/-- A command that runs a command file leaves its run as it was, except for the files, the
cancellation and one more record of its own, which is a failure if the runs are nested too deep,
the file cannot be loaded, or its run was aborted or ended worse than it may.  The run of the file
is the same for every other command with the same registry, configuration, depth, files and path.
-/
theorem nested_run_is_isolated (summons : Summons) :
    summons.IsIsolated ∧
    ∀ other : Summons, summons.IsAlike other →
      other.nested = summons.nested ∧ other.after.files = summons.after.files ∧
        other.after.cancelled = summons.after.cancelled := by
  refine ⟨summons.isIsolated, fun other alike => ?_⟩
  have leftover : other.leftover = summons.leftover := by
    rw [Summons.leftover, Summons.leftover, alike.nested_eq, alike.files, other.running,
      summons.running]
  refine ⟨alike.nested_eq, ?_, ?_⟩
  · rw [other.isIsolated.files, summons.isIsolated.files, leftover]
  · rw [other.isIsolated.cancelled, summons.isIsolated.cancelled, leftover]

end Summons

/-- A command file that changes properties, warns as it is annotated to, and asks for the end of its
run. -/
def annotatedFile : FileSystem :=
  (FileSystem.empty ["work"] "/home").store ["work", "inner.gp"]
    ("#@expectedStatus Warning\n" ++
      "SetProperty(PropertyName=Seen,PropertyValue=inside)\n" ++
      "Message(Message=careful,CommandStatus=Warning)\n" ++
      "Exit()").toUTF8

/-- A command that runs the file. -/
def delegate : Command where
  name := "RunCommands"
  line := 1
  text := "RunCommands(CommandFile=inner.gp)"
  parameters := .ofList [("CommandFile", "inner.gp")]
  kind := .known Builtin.RunCommands.definition .runFile

/-- A processor that only runs the file. -/
def delegating : Processor :=
  { Processor.create Builtin.registry {} annotatedFile 0 with commands := [delegate] }

/-- The machine in front of the command, in some workspace and under some policy. -/
def delegatingMachine (workspace : Workspace) (halts : Bool) : Run.Machine :=
  { delegating.machine annotatedFile (Processor.plan delegating.commands fun _ => true) with
    workspace
    haltOnFailure := halts }

/-- The command in a workspace in which its parameters are in order. -/
def delegation (workspace : Workspace) (halts : Bool)
    (accepted : (Run.prepare (delegatingMachine workspace halts).scene delegate).2.isSome = true) :
    Summons where
  processor := delegating
  plan := Processor.plan delegating.commands fun _ => true
  machine := delegatingMachine workspace halts
  planned := ⟨0, delegate⟩
  parameters := Option.get _ accepted
  here := rfl
  sized := delegating.size_executions_machine annotatedFile _
  running := rfl
  runs := rfl
  accepted := (Option.some_get accepted).symm

/-- In two workspaces and under two policies the file ends in the same way, and as well as it may.
-/
theorem nested_run_is_isolated_delegation :
    ∃ one other : Summons, one.IsAlike other ∧
      one.machine.workspace.propertyText? "Seen" = none ∧
      other.machine.workspace.propertyText? "Seen" = some "outside" ∧
      one.machine.haltOnFailure = false ∧ other.machine.haltOnFailure = true ∧
      one.IsIsolated ∧ other.nested = one.nested ∧
      other.after.workspace.propertyText? "Seen" = some "outside" ∧
      (other.after.executionsAt 0).map (·.messages) =
        [["SUCCESS: Command file `/work/inner.gp` ended with WARNING"]] := by
  let one := delegation delegating.workspace false (by decide +kernel)
  let other := delegation (delegating.workspace.setProperty "Seen" (.text "outside")) true
    (by decide +kernel)
  have alike : one.IsAlike other := ⟨rfl, rfl, rfl, rfl, by decide +kernel⟩
  obtain ⟨isolated, congruent⟩ := one.nested_run_is_isolated
  have outside : other.machine.workspace.propertyText? "Seen" = some "outside" := by
    decide +kernel
  refine ⟨one, other, alike, by decide +kernel, outside, rfl, rfl, isolated,
    (congruent other alike).1, ?_, by decide +kernel⟩
  rw [other.isIsolated.workspace]
  exact outside

end Nested

end Workflow
