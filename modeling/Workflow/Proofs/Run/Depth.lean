import Workflow.Nested
import Workflow.Proofs.CommandFile.Recognition
import Workflow.Proofs.Run.Outcomes
import Workflow.Proofs.Run.Trace

/-!
# Runs at different depths

Of the built-in commands only the one that runs a command file looks at what is around its run.
So commands among which it is not do the same at every depth.
-/

namespace Workflow

/-- What the behavior does depends neither on what is around the run nor on what running a command
file does. -/
def Behavior.IsContained : Behavior → Prop
  | .action _ perform => ∀ surroundings other, perform surroundings = perform other
  | .runFile => False

def Command.IsContained (command : Command) : Prop :=
  ∀ definition behavior, command.kind = .known definition behavior → behavior.IsContained

/-- Every built-in command is contained, unless it runs a command file. -/
theorem Builtin.isContained_of_mem_commands :
    ∀ registration ∈ commands,
      registration.behavior.IsContained ∨ registration.behavior = .runFile := by
  simp only [commands, control, properties, geoLayers, tables, downloads, commandFiles,
    List.cons_append, List.nil_append, List.forall_mem_cons]
  -- no action takes the surroundings into account
  refine ⟨.inl fun _ _ => rfl, .inl fun _ _ => rfl, .inl fun _ _ => rfl, .inl fun _ _ => rfl,
    .inl fun _ _ => rfl, .inl fun _ _ => rfl, .inl fun _ _ => rfl, .inl fun _ _ => rfl,
    .inl fun _ _ => rfl, .inl fun _ _ => rfl, .inl fun _ _ => rfl, .inl fun _ _ => rfl,
    .inl fun _ _ => rfl, .inl fun _ _ => rfl, .inl fun _ _ => rfl, .inl fun _ _ => rfl,
    .inr trivial, ?_⟩
  intro _ member
  cases member

/-- The built-in commands are contained, if they run no command file. -/
theorem Command.RecognizedBy.isContained {command : Command}
    (recognized : command.RecognizedBy Builtin.registry)
    (plain : ∀ definition, command.kind ≠ .known definition .runFile) : command.IsContained := by
  intro definition behavior known
  have member := Builtin.mem_commands_of_mem_registry (recognized definition behavior known)
  refine (Builtin.isContained_of_mem_commands _ member).resolve_right ?_
  rintro rfl
  exact plain definition known

namespace Run

variable {setting other : Setting} {plan : Plan} {machine : Machine} {planned : Planned}
variable {command : Command} {budget : Nat} {scene : Scene}

/-- Settings with the same limit on loop passes. -/
def Setting.HasSameLimit (setting other : Setting) : Prop :=
  setting.surroundings.configuration.maxLoopIterations =
    other.surroundings.configuration.maxLoopIterations

theorem execute_of_isContained (contained : command.IsContained) (scene : Scene) :
    execute setting command scene = execute other command scene := by
  have same : act setting command setting.surroundings = act other command other.surroundings := by
    simp only [act]
    cases kind : command.kind with
    | known definition behavior =>
        have contained := contained definition behavior kind
        cases behavior with
        | action check perform => exact contained _ _
        | runFile => exact contained.elim
    | blank => rfl
    | comment => rfl
    | unknown suggestion => rfl
    | malformed fault => rfl
  rw [execute, execute, same]

namespace Standing

variable {standing : Standing}

/-- The blocks only ask a setting for the limit on loop passes. -/
theorem openBlock_setting (limit : standing.setting.HasSameLimit other) (kind : BlockKind) :
    ({ standing with setting := other }).openBlock budget scene kind =
      standing.openBlock budget scene kind := by
  have same : ({ standing with setting := other }).limit = standing.limit := limit.symm
  simp only [openBlock]
  split
  · rfl
  · split
    · rfl
    · cases kind with
      | loop =>
          simp only [enterLoop, same]
          rfl
      | conditional => rfl

theorem closeBlock_setting (limit : standing.setting.HasSameLimit other) (kind : BlockKind) :
    ({ standing with setting := other }).closeBlock budget scene kind =
      standing.closeBlock budget scene kind := by
  have same : ({ standing with setting := other }).limit = standing.limit := limit.symm
  simp only [closeBlock, closeNamed, closeInnermost, same]
  rfl

theorem dispatch_setting (limit : standing.setting.HasSameLimit other)
    (contained : standing.command.IsContained) :
    ({ standing with setting := other }).dispatch budget scene =
      standing.dispatch budget scene := by
  simp only [dispatch]
  split
  · exact openBlock_setting limit .loop
  · exact closeBlock_setting limit .loop
  · exact openBlock_setting limit .conditional
  · exact closeBlock_setting limit .conditional
  · rw [execute_of_isContained contained]
    rfl

end Standing

theorem step_setting (limit : setting.HasSameLimit other)
    (contained : planned.command.IsContained) :
    step other plan machine planned = step setting plan machine planned := by
  let standing := standingAt setting plan machine planned.command
  have turns : ({ standing with setting := other }).dispatch machine.budget machine.scene =
      standing.dispatch machine.budget machine.scene := Standing.dispatch_setting limit contained
  change turnAt other plan machine planned.command = turnAt setting plan machine planned.command
    at turns
  cases active : planned.command.isInert with
  | true => rw [step_of_inert active, step_of_inert active]
  | false =>
      cases running : machine.cancelled with
      | true => rw [step_of_cancelled active running, step_of_cancelled active running]
      | false => rw [step_of_running active running, step_of_running active running, turns]

/-- Contained commands lead to the same walk in settings with the same limit. -/
theorem walk_setting (limit : setting.HasSameLimit other)
    (contained : ∀ (position : Nat) (planned : Planned), plan[position]? = some planned →
      planned.command.IsContained) (machine : Machine) :
    walk other plan machine = walk setting plan machine := by
  induction machine using walk_induction setting plan with
  | outside machine outside => rw [walk_of_end outside, walk_of_end outside]
  | ends machine planned last ending here ends =>
      rw [walk_of_ends here ends]
      rw [← step_setting limit (contained _ _ here)] at ends
      exact walk_of_ends here ends
  | goes machine planned next here goes ih =>
      rw [walk_of_goes here goes, ← ih]
      rw [← step_setting limit (contained _ _ here)] at goes
      exact walk_of_goes here goes

end Run

namespace Processor

variable (processor : Processor) (files : FileSystem)

theorem walked_depth (contained : ∀ command ∈ processor.commands, command.IsContained)
    (depth : Nat) (chosen : Nat → Bool) :
    ({ processor with depth } : Processor).walked ({ processor with depth } : Processor).runFile
        files chosen =
      processor.walked processor.runFile files chosen := by
  let deeper : Processor := { processor with depth }
  have limit : (processor.setting processor.runFile).HasSameLimit
      (deeper.setting deeper.runFile) := rfl
  exact Run.walk_setting limit
    (fun position planned here => contained _ (mem_commands_of_plan here)) _

theorem runWith_eq (runFile : Action) (chosen : Nat → Bool) :
    (runWith runFile processor files chosen).result =
        .ofCommands (withRecords processor.commands (plan processor.commands chosen)
          (processor.walked runFile files chosen).1) (processor.walked runFile files chosen).2 ∧
      (runWith runFile processor files chosen).files =
        (processor.walked runFile files chosen).1.files := ⟨rfl, rfl⟩

/-- Contained commands end in the same way at every depth. -/
theorem runAll_depth (contained : ∀ command ∈ processor.commands, command.IsContained)
    (depth : Nat) :
    ({ processor with depth }.runAll files).result = (processor.runAll files).result ∧
      ({ processor with depth }.runAll files).files = (processor.runAll files).files := by
  have walked := walked_depth processor files contained depth fun _ => true
  rw [runAll, runAll, (runWith_eq ..).1, (runWith_eq ..).1, (runWith_eq ..).2, (runWith_eq ..).2,
    walked]
  exact ⟨rfl, rfl⟩

theorem loadFile_depth (path : FilePath) (depth : Nat) :
    ({ processor with depth } : Processor).loadFile files path =
      (processor.loadFile files path).map fun loaded => { loaded with depth } := by
  rw [loadFile, loadFile]
  cases readCommandFile files path <;> rfl

end Processor

end Workflow
