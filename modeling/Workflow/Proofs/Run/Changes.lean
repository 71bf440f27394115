import Workflow.Proofs.Builtin.Atomicity
import Workflow.Proofs.Builtin.Changes
import Workflow.Proofs.Editing
import Workflow.Proofs.Run.BlockNames
import Workflow.Proofs.Run.Frames
import Workflow.Proofs.Run.Trace
import Workflow.Proofs.Sessions

/-!
# What sessions change

A processor for the built-in commands starts with neither geolayers nor tables.  Loading and editing
leave the workspace alone but for a property, and so do the properties that are set from outside; a
run makes nothing but the changes of its commands and of its loops.  So whatever is done with the
processor, on whatever files, its workspace comes from one without geolayers and tables by the
changes that commands make.
-/

namespace Workflow

/-- What running a command file does leaves the workspace alone. -/
def Action.IsApart (action : Action) : Prop :=
  ∀ surroundings parameters scene,
    (action surroundings parameters scene).1.workspace = scene.workspace

theorem Nested.isApart_runFile (registry : Registry) (levels : Nat) :
    (runFile registry levels).IsApart := by
  have attempts {α : Type} {scene : Scene} (result : Except Error α) {rest : α → Performance}
      (each : ∀ value, (rest value).1.workspace = scene.workspace) :
      (Performance.attempt scene result rest).1.workspace = scene.workspace := by
    cases result with
    | error error => rfl
    | ok value => exact each value
  intro surroundings parameters scene
  cases levels with
  | zero =>
      apply attempts
      intro path
      rfl
  | succ levels =>
      apply attempts
      intro path
      apply attempts
      intro child
      apply attempts
      intro expected
      exact workspace_judge ..

theorem Command.kind_of_setParameter {command changed : Command} {name value : String}
    (changes : command.setParameter name value = .ok changed) : changed.kind = command.kind := by
  simp only [setParameter] at changes
  split at changes
  · cases changes
  · split at changes
    · cases changes
    · cases changes
      rfl

namespace Run

variable {setting : Setting} {command : Command} {scene : Scene}

/-! ## Steps -/

theorem changes_act {prepared : Scene} {parameters : ParameterSet}
    (recognized : command.RecognizedBy Builtin.registry) (nested : setting.runFile.IsApart)
    (accepted : prepare scene command = (prepared, some parameters)) :
    (act setting command setting.surroundings parameters prepared).Changes scene.workspace := by
  have same : scene.workspace = prepared.workspace := by
    rw [prepared_eq accepted]
  rw [act, same]
  cases known : command.kind with
  | known definition behavior =>
      cases behavior with
      | action check perform =>
          have member := Builtin.mem_commands_of_mem_registry (recognized _ _ known)
          exact Builtin.onlyChanges_of_mem_commands _ member _ _ _ _ _
            (validate_of_prepare known accepted)
      | runFile =>
          rw [Performance.Changes, nested]
  | blank | comment | unknown | malformed => exact .refl

theorem workspace_of_conclude (performance : Performance) :
    (conclude performance).workspace = performance.1.workspace := by
  obtain ⟨after, error⟩ := performance
  cases error <;> rfl

theorem becomes_execute (recognized : command.RecognizedBy Builtin.registry)
    (nested : setting.runFile.IsApart) :
    scene.workspace.Becomes (execute setting command scene).workspace := by
  rw [execute]
  split
  · next prepared refused =>
      obtain ⟨status, same⟩ := prepare_eq scene command
      rw [refused] at same
      rw [show prepared = _ from same]
  · next prepared parameters accepted =>
      rw [workspace_of_conclude]
      exact changes_act recognized nested accepted

/-- A turn changes the workspace by a command or by the property of a loop. -/
theorem Standing.Comes.becomes {standing : Standing} {budget : Nat} {turn : Turn budget}
    (comes : standing.Comes scene turn)
    (recognized : standing.command.RecognizedBy Builtin.registry)
    (nested : standing.setting.runFile.IsApart) :
    scene.workspace.Becomes turn.scene.workspace := by
  cases comes with
  | executed => exact becomes_execute recognized nested
  | skipped | unterminated | forbidden | entersCondition | unmatched | leaves => exact .refl
  | entersLoop => exact .single (.setProperty scene.workspace _ _)
  | repeats => exact .single (.setProperty scene.workspace _ _)

variable {plan : Plan} {machine : Machine} {planned : Planned}

theorem becomes_step (plan : Plan) (machine : Machine)
    (recognized : planned.command.RecognizedBy Builtin.registry)
    (nested : setting.runFile.IsApart) :
    machine.workspace.Becomes (step setting plan machine planned).machine.workspace := by
  have turned :
      machine.workspace.Becomes (turnAt setting plan machine planned.command).scene.workspace :=
    (comes_turnAt setting plan machine planned.command).becomes recognized nested
  -- apart from its turn, a step only records and moves
  cases progress : step setting plan machine planned with
  | goes next =>
      obtain ⟨-, rfl⟩ | ⟨-, -, move, -, rfl⟩ := step_eq_goes progress
      · exact .refl
      · rw [Progress.machine, workspace_settle_go]
        exact turned
  | ends last ending =>
      obtain ⟨-, rfl⟩ | ⟨fault, -, -, rfl⟩ | ⟨move, -, -, rfl⟩ := step_eq_ends progress
      · exact .refl
      · exact turned
      · rw [Progress.machine, workspace_settle_go]
        exact turned

/-! ## Runs -/

theorem workspace_close (plan : Plan) (machine : Machine) :
    (close plan machine).1.workspace = machine.workspace := by
  simp only [close]
  split
  · rfl
  · split <;> rfl

/-- A walk makes nothing but changes, up to its end and up to every command. -/
theorem becomes_walk (machine : Machine)
    (recognized : ∀ (position : Nat) (planned : Planned), plan[position]? = some planned →
      planned.command.RecognizedBy Builtin.registry)
    (nested : setting.runFile.IsApart) :
    machine.workspace.Becomes (walk setting plan machine).1.workspace ∧
      ∀ stride ∈ trace setting plan machine,
        machine.workspace.Becomes stride.before.workspace := by
  induction machine using walk_induction setting plan with
  | outside machine outside =>
      rw [walk_of_end outside, workspace_close, trace_of_end outside]
      exact ⟨.refl, List.forall_mem_nil _⟩
  | ends machine planned last ending here ends =>
      have steps := becomes_step plan machine (recognized _ _ here) nested
      rw [ends] at steps
      rw [walk_of_ends here ends, trace_of_ends here ends, List.forall_mem_singleton]
      exact ⟨steps, .refl⟩
  | goes machine planned next here goes ih =>
      have steps := becomes_step plan machine (recognized _ _ here) nested
      rw [goes] at steps
      rw [walk_of_goes here goes, trace_of_goes here goes, List.forall_mem_cons]
      obtain ⟨last, later⟩ := ih
      exact ⟨steps.trans last, .refl, fun stride member => steps.trans (later stride member)⟩

end Run

namespace Processor

/-! ## Sessions -/

/-- A processor for the built-in commands on which any operations were done, in any order and on
any files. -/
inductive Reachable : Processor → Prop where
  | created (configuration : Configuration) (files : FileSystem) (depth : Nat) :
      Reachable (create Builtin.registry configuration files depth)
  | loadedText {processor : Processor} (text : String) (before : Reachable processor) :
      Reachable (processor.loadText text)
  | loadedFile {processor after : Processor} {files : FileSystem} {path : FilePath}
      (before : Reachable processor) (loads : processor.loadFile files path = .ok after) :
      Reachable after
  | edited {processor after : Processor} {edit : Edit} (before : Reachable processor)
      (done : processor.edit edit = .ok after) : Reachable after
  | setProperty {processor : Processor} (name : String) (value : Value)
      (before : Reachable processor) : Reachable (processor.setProperty name value)
  | setHaltOnFailure {processor : Processor} (halt : Bool) (before : Reachable processor) :
      Reachable (processor.setHaltOnFailure halt)
  | cancelled {processor : Processor} (cancelled : Bool) (before : Reachable processor) :
      Reachable { processor with cancelled }
  | ranAll {processor : Processor} (files : FileSystem) (before : Reachable processor) :
      Reachable (processor.runAll files).processor
  | ranSelected {processor : Processor} (files : FileSystem) (indices : List Nat)
      (before : Reachable processor) :
      Reachable (processor.runSelected files indices).processor

/-- The processor knows the built-in commands and no others. -/
structure IsBuiltin (processor : Processor) : Prop where
  registry : processor.registry = Builtin.registry
  recognized : ∀ command ∈ processor.commands, command.RecognizedBy Builtin.registry

namespace IsBuiltin

variable {processor after : Processor}

theorem loadText (builtin : processor.IsBuiltin) (text : String) :
    (processor.loadText text).IsBuiltin where
  registry := builtin.registry
  recognized command member := by
    rw [← builtin.registry]
    exact CommandFile.recognizedBy_of_mem_read member

theorem of_edit (builtin : processor.IsBuiltin) {edit : Edit}
    (done : processor.edit edit = .ok after) : after.IsBuiltin := by
  have recognized : ∀ command ∈ after.commands, command.RecognizedBy Builtin.registry := by
    refine (forall_mem_of_edit ?_ ?_ ?_ builtin.recognized done).2
    · intro command line recognized
      exact recognized
    · intro command name value changed recognized changes
      rw [Command.RecognizedBy, Command.kind_of_setParameter changes]
      exact recognized
    · intro number text command held
      rw [← builtin.registry]
      exact CommandFile.recognizedBy_of_readLine (CommandFile.readLine_eq_of_readNumbered held)
  obtain ⟨commands, rfl⟩ := exists_commands_of_edit done
  exact ⟨builtin.registry, recognized⟩

theorem runWith (builtin : processor.IsBuiltin) (files : FileSystem) (chosen : Nat → Bool) :
    (runWith processor.runFile processor files chosen).processor.IsBuiltin where
  registry := builtin.registry
  recognized command member := by
    obtain ⟨index, here⟩ := List.mem_iff_getElem?.mp member
    obtain ⟨before, found, rfl⟩ := getElem?_of_withRecords here
    exact builtin.recognized before (List.mem_of_getElem? found)

/-- A file is loaded like its text, and its folder is remembered. -/
theorem of_loadFile (builtin : processor.IsBuiltin) {files : FileSystem} {path : FilePath}
    (loads : processor.loadFile files path = .ok after) :
    after.IsBuiltin ∧ after.workspace =
      processor.workspace.setProperty Workspace.workingFolderName (.path path.folder) := by
  rw [loadFile] at loads
  cases reads : readCommandFile files path with
  | error error =>
      rw [reads] at loads
      cases loads
  | ok text =>
      rw [reads] at loads
      cases loads
      have loaded := builtin.loadText text
      exact ⟨⟨loaded.registry, loaded.recognized⟩, rfl⟩

theorem becomes_walked (builtin : processor.IsBuiltin) (files : FileSystem)
    (chosen : Nat → Bool) :
    processor.workspace.Becomes (processor.walked processor.runFile files chosen).1.workspace ∧
      ∀ stride ∈ processor.trace processor.runFile files chosen,
        processor.workspace.Becomes stride.before.workspace := by
  refine Run.becomes_walk (processor.machine files (Processor.plan processor.commands chosen)) ?_
    (Nested.isApart_runFile _ _)
  intro position planned here
  exact builtin.recognized _ (mem_commands_of_plan here)

end IsBuiltin

end Processor

/-- A workspace comes from one without geolayers and tables by the changes that commands make. -/
def Workspace.IsMade (workspace : Workspace) : Prop :=
  ∃ properties, Workspace.Becomes { properties } workspace

namespace Processor

/-- Whatever is done with a processor, it stays one for the built-in commands, and its workspace is
made by their changes. -/
theorem Reachable.isBuiltin_and_isMade {processor : Processor} (reachable : processor.Reachable) :
    processor.IsBuiltin ∧ processor.workspace.IsMade := by
  have sets {workspace : Workspace} (made : workspace.IsMade) (name : String) (value : Value) :
      (workspace.setProperty name value).IsMade := by
    obtain ⟨properties, becomes⟩ := made
    exact ⟨properties, becomes.tail (.setProperty workspace name value)⟩
  have runs {processor : Processor} (before : processor.IsBuiltin ∧ processor.workspace.IsMade)
      (files : FileSystem) (chosen : Nat → Bool) :
      let later := (Processor.runWith processor.runFile processor files chosen).processor
      later.IsBuiltin ∧ later.workspace.IsMade := by
    obtain ⟨builtin, properties, becomes⟩ := before
    exact ⟨builtin.runWith files chosen, properties,
      becomes.trans (builtin.becomes_walked files chosen).1⟩
  induction reachable with
  | created configuration files depth =>
      refine ⟨⟨rfl, List.forall_mem_nil _⟩, ?_⟩
      simp only [Processor.create, startWorkspace]
      split
      · exact ⟨_, .refl⟩
      · exact ⟨_, .refl⟩
  | loadedText text _ ih => exact ⟨ih.1.loadText text, ih.2⟩
  | loadedFile _ loads ih =>
      obtain ⟨builtin, workspace⟩ := ih.1.of_loadFile loads
      rw [workspace]
      exact ⟨builtin, sets ih.2 _ _⟩
  | edited _ done ih =>
      have builtin := ih.1.of_edit done
      obtain ⟨commands, rfl⟩ := exists_commands_of_edit done
      exact ⟨builtin, ih.2⟩
  | setProperty name value _ ih => exact ⟨⟨ih.1.registry, ih.1.recognized⟩, sets ih.2 name value⟩
  | setHaltOnFailure halt _ ih => exact ⟨⟨ih.1.registry, ih.1.recognized⟩, ih.2⟩
  | cancelled cancelled _ ih => exact ⟨⟨ih.1.registry, ih.1.recognized⟩, ih.2⟩
  | ranAll files _ ih => exact runs ih files _
  | ranSelected files indices _ ih => exact runs ih files _

theorem Reachable.isMade_before {processor : Processor} (reachable : processor.Reachable)
    {files : FileSystem} {chosen : Nat → Bool} {stride : Run.Stride}
    (member : stride ∈ processor.trace processor.runFile files chosen) :
    stride.before.workspace.IsMade := by
  obtain ⟨builtin, properties, becomes⟩ := reachable.isBuiltin_and_isMade
  exact ⟨properties, becomes.trans ((builtin.becomes_walked files chosen).2 stride member)⟩

end Processor

end Workflow
