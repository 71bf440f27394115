import Workflow.Proofs.CommandFile.Annotations
import Workflow.Proofs.CommandFile.Stability
import Workflow.Proofs.Run.Verdicts
import Workflow.Proofs.Text.Searching

/-!
# Verdicts of a regression run

A case passes exactly if its file can be loaded and is not disabled, its run is not aborted and ends
no worse than expected, and every expectation about a line is met by the command that is written on
it.  So expecting a worse end never makes a case fail, and expecting more of its lines never makes
it pass.
-/

namespace Workflow

open CommandFile (Annotates IsDisabled)

/-! ## Expectations about lines -/

/-- The command ended better than it may, or just as it may and with the message that is expected
in one of its own. -/
def ExpectedCommand.IsMetBy (expected : ExpectedCommand) (outcome : Outcome) : Prop :=
  outcome.status < expected.status ∨
    outcome.status = expected.status ∧
      ∀ text, expected.message = some text →
        ∃ message ∈ outcome.messages, text.toList <:+: message.toList

/-- The outcome is that of the command that is written on a line of a text. -/
def RunResult.HasAt (result : RunResult) (text : String) (number : Nat) (outcome : Outcome) :
    Prop :=
  ∃ index, number = index + 1 ∧ result.outcomes[index]? = some outcome ∧
    (Text.lines text.toList)[index]? = some outcome.text.toList

namespace ExpectedCommand

variable {expected : ExpectedCommand} {outcome : Outcome} {result : RunResult}

theorem messageOccurs_iff :
    expected.messageOccurs outcome = true ↔ ∀ text, expected.message = some text →
      ∃ message ∈ outcome.messages, text.toList <:+: message.toList := by
  rw [messageOccurs]
  cases expected.message with
  | none => simp
  | some text => simp [Text.occurs_iff_infix]

theorem compare_eq_none_iff : expected.compare outcome = none ↔ expected.IsMetBy outcome := by
  rw [compare, IsMetBy, Status.exceeds, ← messageOccurs_iff]
  rcases lt_trichotomy outcome.status expected.status with better | same | worse
  · simp [better, better.not_gt, better.ne]
  · simp [same]
  · simp [worse, worse.not_gt, worse.ne']

theorem deviation?_eq_none_iff :
    expected.deviation? result = none ↔
      ∃ outcome, result.atLine? expected.line = some outcome ∧ expected.IsMetBy outcome := by
  rw [deviation?]
  cases result.atLine? expected.line with
  | none => simp
  | some outcome => simp [compare_eq_none_iff]

end ExpectedCommand

/-- If the outcomes are numbered by their places, that at a line stands at its place. -/
theorem RunResult.atLine?_eq_some_iff {result : RunResult} {number : Nat} {outcome : Outcome}
    (numbered : ∀ index found, result.outcomes[index]? = some found → found.line = index + 1) :
    result.atLine? number = some outcome ↔
      ∃ index, number = index + 1 ∧ result.outcomes[index]? = some outcome := by
  rw [atLine?, List.find?_eq_some_iff_getElem]
  constructor
  · rintro ⟨isLine, index, inside, here, -⟩
    have stands : result.outcomes[index]? = some outcome := by
      rw [List.getElem?_eq_getElem inside, here]
    exact ⟨index, (beq_iff_eq.mp isLine).symm.trans (numbered index outcome stands), stands⟩
  · rintro ⟨index, rfl, stands⟩
    obtain ⟨inside, here⟩ := List.getElem?_eq_some_iff.mp stands
    refine ⟨beq_iff_eq.mpr (numbered index outcome stands), index, inside, here, ?_⟩
    intro earlier before
    have line := numbered earlier _ (List.getElem?_eq_getElem (Nat.lt_trans before inside))
    rw [line, Bool.not_eq_true', beq_eq_false_iff_ne]
    omega

/-! ## Cases -/

/-- The status that the run of a command file may end with: the one that is asked for, or the one
that the file is annotated with, or success. -/
inductive CommandFile.MayEndWith (asked : Option Status) (commands : List Command) :
    Status → Prop where
  | asked {status : Status} (given : asked = some status) : MayEndWith asked commands status
  | annotated {status : Status} {text : String} (silent : asked = none)
      (annotates : Annotates "expectedStatus" text commands)
      (reads : Status.read? text = some status) : MayEndWith asked commands status
  | success (silent : asked = none)
      (unread : ∀ text, Annotates "expectedStatus" text commands → Status.read? text = none) :
      MayEndWith asked commands .success

open CommandFile (MayEndWith)

namespace ExpectedCase

/-- What it takes for a case to pass with the text of its file and the result of its run. -/
structure Passes (expectation : ExpectedCase) (registry : Registry) (text : String)
    (result : RunResult) : Prop where
  enabled : ¬IsDisabled (CommandFile.read registry text)
  finished : result.isAborted = false
  status : ∃ allowed,
    MayEndWith expectation.expectedStatus (CommandFile.read registry text) allowed ∧
      result.status ≤ allowed
  lines : ∀ expected ∈ expectation.commands, ∃ outcome,
    result.HasAt text expected.line outcome ∧ expected.IsMetBy outcome

variable {expectation changed : ExpectedCase} {registry : Registry} {commands : List Command}
  {text : String} {result : RunResult} {status : Status}

theorem mayEndWith_iff :
    MayEndWith expectation.expectedStatus commands status ↔
      expectation.statusFor commands = status := by
  rw [statusFor]
  generalize expectation.expectedStatus = asked
  constructor
  · intro may
    cases may with
    | asked given =>
        rw [given]
        rfl
    | annotated silent annotates reads =>
        rw [silent, CommandFile.expectedStatus?_eq_some_iff.mpr ⟨_, annotates, reads⟩]
        rfl
    | success silent unread =>
        cases found : CommandFile.expectedStatus? commands with
        | none =>
            rw [silent]
            rfl
        | some status =>
            obtain ⟨text, annotates, reads⟩ := CommandFile.expectedStatus?_eq_some_iff.mp found
            rw [unread text annotates] at reads
            cases reads
  · rintro rfl
    cases asked with
    | some status => exact .asked rfl
    | none =>
        cases found : CommandFile.expectedStatus? commands with
        | some status =>
            obtain ⟨text, annotates, reads⟩ := CommandFile.expectedStatus?_eq_some_iff.mp found
            exact .annotated rfl annotates reads
        | none =>
            refine .success rfl fun text annotates => ?_
            cases reads : Status.read? text with
            | none => rfl
            | some status =>
                rw [CommandFile.expectedStatus?_eq_some_iff.mpr ⟨text, annotates, reads⟩] at found
                cases found

/-- A case that expects a worse end passes as well. -/
theorem Passes.raise (passes : expectation.Passes registry text result)
    (worse : expectation.statusFor (CommandFile.read registry text) ≤ status) :
    { expectation with expectedStatus := some status }.Passes registry text result where
  enabled := passes.enabled
  finished := passes.finished
  status := by
    obtain ⟨allowed, may, ends⟩ := passes.status
    rw [mayEndWith_iff.mp may] at worse
    exact ⟨status, .asked rfl, ends.trans worse⟩
  lines := passes.lines

/-- A case that expects less of its lines passes as well. -/
theorem Passes.relax {more : List ExpectedCommand}
    (passes : { expectation with commands := more }.Passes registry text result)
    (fewer : expectation.commands ⊆ more) : expectation.Passes registry text result where
  enabled := passes.enabled
  finished := passes.finished
  status := passes.status
  lines expected member := passes.lines expected (fewer member)

theorem verdict_judge_eq_pass_iff :
    (expectation.judge status result).verdict = .pass ↔
      result.isAborted = false ∧ result.status ≤ status ∧
        ∀ expected ∈ expectation.commands, expected.deviation? result = none := by
  have clean : (expectation.judge status result).verdict = .pass ↔
      result.deviations status expectation.commands = [] := by
    rw [judge, ← List.isEmpty_iff]
    dsimp only
    split
    · next empty => exact iff_of_true rfl empty
    · next some => exact iff_of_false (by decide) some
  have finished : result.abortDeviation? = none ↔ result.isAborted = false := by
    rw [RunResult.abortDeviation?, RunResult.isAborted, Run.Ending.isAborted]
    cases result.ending.abortReason? <;> simp
  have ends : result.statusDeviation? status = none ↔ result.status ≤ status := by
    rw [RunResult.statusDeviation?, Status.exceeds]
    by_cases worse : status < result.status
    · simp [worse, worse.not_ge]
    · simp [worse, not_lt.mp worse]
  rw [clean, RunResult.deviations, List.append_eq_nil_iff, List.append_eq_nil_iff,
    Option.toList_eq_nil_iff, Option.toList_eq_nil_iff, finished, ends, and_assoc,
    List.filterMap_eq_nil_iff]

/-! ## The run of a case -/

section

variable {folder : FilePath} {configuration : Configuration} {files : FileSystem}
  {loaded : Processor}

/-- The file of a case can be loaded: it has a text, whose commands a processor is given. -/
structure Loads (expectation : ExpectedCase) (folder : FilePath) (registry : Registry)
    (configuration : Configuration) (files : FileSystem) (text : String) (loaded : Processor) :
    Prop where
  reads : files.readText (files.resolve folder expectation.commandFile.text) = .ok text
  loads : (Processor.create registry configuration files 0).loadFile files
    (files.resolve folder expectation.commandFile.text) = .ok loaded

theorem Loads.commands_eq
    (loads : expectation.Loads folder registry configuration files text loaded) :
    loaded.commands = CommandFile.read registry text := by
  obtain ⟨other, reads, commands⟩ := Processor.exists_text_of_loadFile loads.loads
  rw [loads.reads] at reads
  cases reads
  exact commands

theorem Loads.run_eq
    (loads : expectation.Loads folder registry configuration files text loaded) :
    expectation.run folder registry configuration files = expectation.runLoaded loaded files := by
  unfold run
  dsimp only
  rw [loads.loads]

/-- A file is loaded in one way only. -/
theorem Loads.exists_iff
    (loads : expectation.Loads folder registry configuration files text loaded)
    {property : String → Processor → Prop} :
    (∃ other too, expectation.Loads folder registry configuration files other too ∧
      property other too) ↔ property text loaded := by
  refine ⟨?_, fun own => ⟨text, loaded, loads, own⟩⟩
  rintro ⟨other, too, loadsToo, own⟩
  obtain rfl : loaded = too := Except.ok.inj (loads.loads.symm.trans loadsToo.loads)
  obtain rfl : text = other := Except.ok.inj (loads.reads.symm.trans loadsToo.reads)
  exact own

/-- A case whose file cannot be loaded fails. -/
theorem exists_loads_or_fails (expectation : ExpectedCase) (folder : FilePath)
    (registry : Registry) (configuration : Configuration) (files : FileSystem) :
    (∃ text loaded, expectation.Loads folder registry configuration files text loaded) ∨
      (∀ text loaded, ¬expectation.Loads folder registry configuration files text loaded) ∧
        (expectation.run folder registry configuration files).1.verdict = .fail := by
  cases loads : (Processor.create registry configuration files 0).loadFile files
      (files.resolve folder expectation.commandFile.text) with
  | ok loaded =>
      obtain ⟨text, reads, -⟩ := Processor.exists_text_of_loadFile loads
      exact .inl ⟨text, loaded, reads, loads⟩
  | error error =>
      refine .inr ⟨fun text loaded both => ?_, verdict_run_of_error loads⟩
      rw [both.loads] at loads
      cases loads

/-- An outcome is numbered by its line and has the text that is written there. -/
theorem Loads.outcome_eq
    (loads : expectation.Loads folder registry configuration files text loaded) {index : Nat}
    {outcome : Outcome} (stands : (loaded.runAll files).result.outcomes[index]? = some outcome) :
    outcome.line = index + 1 ∧ (Text.lines text.toList)[index]? = some outcome.text.toList := by
  rw [Processor.runAll, Processor.getElem?_outcomes, loads.commands_eq] at stands
  obtain ⟨command, here, rfl⟩ := Option.map_eq_some_iff.mp stands
  have written : (CommandFile.read registry text).map (fun command => command.render.toList) =
      Text.lines text.toList := CommandFile.map_render_readLines false 1 _
  rw [← written, List.getElem?_map, here]
  exact ⟨CommandFile.isNumbered_read registry text index command here, rfl⟩

theorem Loads.atLine?_eq_some_iff
    (loads : expectation.Loads folder registry configuration files text loaded) {number : Nat}
    {outcome : Outcome} :
    (loaded.runAll files).result.atLine? number = some outcome ↔
      (loaded.runAll files).result.HasAt text number outcome := by
  rw [RunResult.atLine?_eq_some_iff fun index found stands => (loads.outcome_eq stands).1]
  constructor
  · rintro ⟨index, line, stands⟩
    exact ⟨index, line, stands, (loads.outcome_eq stands).2⟩
  · rintro ⟨index, line, stands, -⟩
    exact ⟨index, line, stands⟩

theorem Loads.verdict_eq_skipped_iff
    (loads : expectation.Loads folder registry configuration files text loaded) :
    (expectation.run folder registry configuration files).1.verdict = .skipped ↔
      IsDisabled (CommandFile.read registry text) := by
  rw [loads.run_eq, runLoaded, ← CommandFile.isEnabled_eq_false_iff, loads.commands_eq]
  cases CommandFile.isEnabled (CommandFile.read registry text) with
  | false => exact iff_of_true rfl rfl
  | true =>
      refine iff_of_false ?_ (by decide)
      rw [if_pos rfl]
      dsimp only [judge]
      split <;> decide

theorem Loads.verdict_eq_pass_iff
    (loads : expectation.Loads folder registry configuration files text loaded) :
    (expectation.run folder registry configuration files).1.verdict = .pass ↔
      expectation.Passes registry text (loaded.runAll files).result := by
  rw [loads.run_eq, runLoaded, loads.commands_eq]
  cases enabled : CommandFile.isEnabled (CommandFile.read registry text) with
  | false =>
      have skipped : Verdict.skipped ≠ .pass := by decide
      exact iff_of_false skipped fun passes =>
        passes.enabled (CommandFile.isEnabled_eq_false_iff.mp enabled)
  | true =>
      have notDisabled : ¬IsDisabled (CommandFile.read registry text) := by
        rw [← CommandFile.isEnabled_eq_false_iff, enabled]
        decide
      rw [if_pos rfl, verdict_judge_eq_pass_iff]
      simp only [ExpectedCommand.deviation?_eq_none_iff, loads.atLine?_eq_some_iff]
      constructor
      · rintro ⟨finished, ends, lines⟩
        exact ⟨notDisabled, finished, ⟨_, mayEndWith_iff.mpr rfl, ends⟩, lines⟩
      · rintro ⟨-, finished, ⟨allowed, may, ends⟩, lines⟩
        rw [mayEndWith_iff.mp may]
        exact ⟨finished, ends, lines⟩

theorem Loads.expectedStatus_eq
    (loads : expectation.Loads folder registry configuration files text loaded) :
    (expectation.run folder registry configuration files).1.expectedStatus =
      expectation.statusFor (CommandFile.read registry text) := by
  rw [loads.run_eq, runLoaded, loads.commands_eq]
  dsimp only
  split <;> rfl

/-- Only the path of its file decides which file a case loads. -/
theorem Loads.congr (loads : expectation.Loads folder registry configuration files text loaded)
    (same : changed.commandFile = expectation.commandFile) :
    changed.Loads folder registry configuration files text loaded where
  reads := same ▸ loads.reads
  loads := same ▸ loads.loads

variable (expectation folder registry configuration files)

/-- A case passes exactly if its file can be loaded and what is expected is met. -/
theorem verdict_run_eq_pass_iff :
    (expectation.run folder registry configuration files).1.verdict = .pass ↔
      ∃ text loaded, expectation.Loads folder registry configuration files text loaded ∧
        expectation.Passes registry text (loaded.runAll files).result := by
  obtain ⟨text, loaded, loads⟩ | ⟨none, fails⟩ :=
    exists_loads_or_fails expectation folder registry configuration files
  · exact loads.verdict_eq_pass_iff.trans (.symm loads.exists_iff)
  · rw [fails]
    refine iff_of_false (by decide) ?_
    rintro ⟨text, loaded, loads, -⟩
    exact none text loaded loads

theorem verdict_run_eq_skipped_iff :
    (expectation.run folder registry configuration files).1.verdict = .skipped ↔
      ∃ text loaded, expectation.Loads folder registry configuration files text loaded ∧
        IsDisabled (CommandFile.read registry text) := by
  obtain ⟨text, loaded, loads⟩ | ⟨none, fails⟩ :=
    exists_loads_or_fails expectation folder registry configuration files
  · exact loads.verdict_eq_skipped_iff.trans (.symm loads.exists_iff)
  · rw [fails]
    refine iff_of_false (by decide) ?_
    rintro ⟨text, loaded, loads, -⟩
    exact none text loaded loads

variable {expectation folder registry configuration files}

/-- What is expected of a case has no influence on the files behind it. -/
theorem files_run_eq (same : changed.commandFile = expectation.commandFile) :
    (changed.run folder registry configuration files).2 =
      (expectation.run folder registry configuration files).2 := by
  unfold run
  dsimp only
  rw [same]
  split
  · rw [runLoaded, runLoaded]
    dsimp only
    split <;> rfl
  · rfl

theorem commandFile_run :
    (expectation.run folder registry configuration files).1.commandFile =
      expectation.commandFile := by
  unfold run
  dsimp only
  split
  · rw [runLoaded]
    dsimp only
    split <;> rfl
  · rfl

theorem verdict_run_of_raise
    (passes : (expectation.run folder registry configuration files).1.verdict = .pass)
    (worse : (expectation.run folder registry configuration files).1.expectedStatus ≤ status) :
    (({ expectation with expectedStatus := some status } : ExpectedCase).run folder registry
      configuration files).1.verdict = .pass := by
  obtain ⟨text, loaded, loads, passes⟩ := (verdict_run_eq_pass_iff ..).mp passes
  rw [loads.expectedStatus_eq] at worse
  exact (verdict_run_eq_pass_iff ..).mpr ⟨text, loaded, loads.congr rfl, passes.raise worse⟩

theorem verdict_run_of_more {more : List ExpectedCommand}
    (fails : (expectation.run folder registry configuration files).1.verdict = .fail)
    (fewer : expectation.commands ⊆ more) :
    (({ expectation with commands := more } : ExpectedCase).run folder registry configuration
      files).1.verdict = .fail := by
  cases verdict : (({ expectation with commands := more } : ExpectedCase).run folder registry
      configuration files).1.verdict with
  | fail => rfl
  | pass =>
      obtain ⟨text, loaded, loads, passes⟩ := (verdict_run_eq_pass_iff ..).mp verdict
      have passesToo : (expectation.run folder registry configuration files).1.verdict = .pass :=
        (verdict_run_eq_pass_iff ..).mpr ⟨text, loaded, loads.congr rfl, passes.relax fewer⟩
      rw [fails] at passesToo
      cases passesToo
  | skipped =>
      obtain ⟨text, loaded, loads, disabled⟩ := (verdict_run_eq_skipped_iff ..).mp verdict
      have skippedToo :
          (expectation.run folder registry configuration files).1.verdict = .skipped :=
        (verdict_run_eq_skipped_iff ..).mpr ⟨text, loaded, loads.congr rfl, disabled⟩
      rw [fails] at skippedToo
      cases skippedToo

end

end ExpectedCase

/-! ## The report -/

namespace Regression

variable (folder : FilePath) (registry : Registry) (configuration : Configuration)

/-- Cases are run on the files that those before them have left. -/
theorem run_append (front back : List ExpectedCase) (files : FileSystem) :
    run folder registry configuration (front ++ back) files =
      let (outcomes, between) := run folder registry configuration front files
      let (rest, after) := run folder registry configuration back between
      (outcomes ++ rest, after) := by
  induction front generalizing files with
  | nil => rfl
  | cons first others ih =>
      rw [List.cons_append, run, run]
      dsimp only
      rw [ih]
      rfl

theorem exitCode_eq_zero_iff {outcomes : List CaseOutcome} :
    exitCode outcomes = 0 ↔ ∀ outcome ∈ outcomes, outcome.verdict ≠ .fail := by
  have counts : count outcomes .fail = 0 ↔ ∀ outcome ∈ outcomes, outcome.verdict ≠ .fail := by
    simp [count, List.filter_eq_nil_iff]
  rw [exitCode, ← counts]
  split
  · next none => exact iff_of_true rfl none
  · next some => exact iff_of_false (by decide) some

/-- There is one outcome for each case, in their order. -/
theorem map_commandFile_run (cases : List ExpectedCase) (files : FileSystem) :
    (run folder registry configuration cases files).1.map (·.commandFile) =
      cases.map (·.commandFile) := by
  induction cases generalizing files with
  | nil => rfl
  | cons first others ih =>
      rw [run]
      dsimp only
      rw [List.map_cons, List.map_cons, ih, ExpectedCase.commandFile_run]

/-- The outcome of a case stands between those of the cases before and behind it, which do not
depend on what is expected of the case. -/
theorem run_split {expectation changed : ExpectedCase}
    (same : changed.commandFile = expectation.commandFile) (before after : List ExpectedCase)
    (files : FileSystem) :
    let reached := (run folder registry configuration before files).2
    (run folder registry configuration (before ++ changed :: after) files).1 =
      (run folder registry configuration before files).1 ++
        (changed.run folder registry configuration reached).1 ::
          (run folder registry configuration after
            (expectation.run folder registry configuration reached).2).1 := by
  dsimp only
  rw [run_append, ← ExpectedCase.files_run_eq same]
  rfl

/-- A regression run reports one outcome for each case in their order, and its exit code is 0
exactly if no case failed.  On the files that the cases before it have left, a case passes exactly
if its file can be loaded and is not disabled, its run is not aborted and ends no worse than it may,
and every expectation about a line is met by the command on this line.  It is skipped exactly if its
file can be loaded and is disabled.  If it passes, it still does when its run may end worse; if it
fails, it still does when more is expected of its lines; and no other outcome is touched by that. -/
theorem verdicts_meet_expectations (cases : List ExpectedCase) (files : FileSystem) :
    let report := (run folder registry configuration cases files).1
    report.map (·.commandFile) = cases.map (·.commandFile) ∧
    (exitCode report = 0 ↔ ∀ outcome ∈ report, outcome.verdict ≠ .fail) ∧
    ∀ before expectation after, cases = before ++ expectation :: after →
      ∃ front outcome back, report = front ++ outcome :: back ∧ front.length = before.length ∧
        let reached := (run folder registry configuration before files).2
        (outcome.verdict = .pass ↔ ∃ text loaded,
          expectation.Loads folder registry configuration reached text loaded ∧
            expectation.Passes registry text (loaded.runAll reached).result) ∧
        (outcome.verdict = .skipped ↔ ∃ text loaded,
          expectation.Loads folder registry configuration reached text loaded ∧
            IsDisabled (CommandFile.read registry text)) ∧
        (outcome.verdict = .pass → ∀ status, outcome.expectedStatus ≤ status → ∃ raised,
          (run folder registry configuration
            (before ++ { expectation with expectedStatus := some status } :: after) files).1 =
              front ++ raised :: back ∧ raised.verdict = .pass) ∧
        (outcome.verdict = .fail → ∀ more, expectation.commands ⊆ more → ∃ stricter,
          (run folder registry configuration
            (before ++ { expectation with commands := more } :: after) files).1 =
              front ++ stricter :: back ∧ stricter.verdict = .fail) := by
  refine ⟨map_commandFile_run .., exitCode_eq_zero_iff, ?_⟩
  rintro before expectation after rfl
  have sized : (run folder registry configuration before files).1.length = before.length := by
    have same := map_commandFile_run folder registry configuration before files
    simpa using congrArg List.length same
  have own : expectation.commandFile = expectation.commandFile := rfl
  refine ⟨_, _, _, run_split folder registry configuration own before after files, sized,
    ExpectedCase.verdict_run_eq_pass_iff .., ExpectedCase.verdict_run_eq_skipped_iff .., ?_, ?_⟩
  · intro passes status worse
    have same : ({ expectation with expectedStatus := some status } : ExpectedCase).commandFile =
      expectation.commandFile := rfl
    exact ⟨_, run_split folder registry configuration same before after files,
      ExpectedCase.verdict_run_of_raise passes worse⟩
  · intro fails more fewer
    have same : ({ expectation with commands := more } : ExpectedCase).commandFile =
      expectation.commandFile := rfl
    exact ⟨_, run_split folder registry configuration same before after files,
      ExpectedCase.verdict_run_of_more fails fewer⟩

/-- A case that expects the message of a warning as well as the warning. -/
def carefulCase : ExpectedCase where
  commandFile := ⟨"careful.gp"⟩
  commands := [{ line := 2, status := .warning, message := some "careful" }]

/-- A case of a file with a block that is not closed. -/
def openCase : ExpectedCase := { commandFile := ⟨"open.gp"⟩ }

/-- The file that warns as it may, and with the message that is expected, passes, and would also
pass if it might fail.  The file with the open block makes the exit code 1. -/
theorem verdicts_meet_expectations_careful_and_open :
    exitCode (run ⟨"/work"⟩ Builtin.registry {} [carefulCase, openCase]
      Nested.judgedFiles).1 ≠ 0 ∧
    (∃ text loaded,
      carefulCase.Loads ⟨"/work"⟩ Builtin.registry {} Nested.judgedFiles text loaded ∧
        carefulCase.Passes Builtin.registry text (loaded.runAll Nested.judgedFiles).result) ∧
    ∃ raised back,
      (run ⟨"/work"⟩ Builtin.registry {}
        [{ carefulCase with expectedStatus := some .failure }, openCase] Nested.judgedFiles).1 =
          raised :: back ∧ raised.verdict = .pass := by
  have verdicts : (run ⟨"/work"⟩ Builtin.registry {} [carefulCase, openCase]
      Nested.judgedFiles).1.map (·.verdict) = [.pass, .fail] := by
    decide +kernel
  obtain ⟨-, exits, each⟩ := verdicts_meet_expectations ⟨"/work"⟩ Builtin.registry {}
    [carefulCase, openCase] Nested.judgedFiles
  obtain ⟨front, outcome, back, report, none, passes, -, raising, -⟩ :=
    each [] carefulCase [openCase] rfl
  obtain rfl := List.eq_nil_of_length_eq_zero none
  rw [List.nil_append] at report
  rw [report] at exits verdicts ⊢
  obtain ⟨own, others⟩ := List.cons.inj verdicts
  refine ⟨fun clean => ?_, passes.mp own, ?_⟩
  · -- The open block is reported behind the careful file, so the exit code is not clean.
    obtain ⟨failed, member, fails⟩ :=
      List.mem_map.mp (others ▸ List.mem_singleton_self Verdict.fail)
    exact exits.mp clean failed (List.mem_cons_of_mem _ member) fails
  · obtain ⟨raised, raisedReport, passesToo⟩ := raising own .failure (Status.le_failure _)
    exact ⟨raised, back, raisedReport, passesToo⟩

end Regression

end Workflow
