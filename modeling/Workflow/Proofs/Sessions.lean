import Workflow.Nested
import Workflow.Proofs.Editing
import Workflow.Proofs.Run.Outcomes

/-!
# Sessions with a command list

A processor takes the commands of a text, and then its list is edited and run in any order.  All
the while every command has an origin and is numbered by its place, and only edits change more of
it than the status of its last run.
-/

namespace Workflow

/-- A processor with the commands of a text after the given edits, between which it may have been
run and its workspace and its configuration may have been changed. -/
inductive Processor.Holds (registry : Registry) (text : String) : List Edit → Processor → Prop where
  | loaded (processor : Processor) (registered : processor.registry = registry) :
      Holds registry text [] (processor.loadText text)
  | edited {edits : List Edit} {processor after : Processor} (edit : Edit)
      (before : Holds registry text edits processor) (done : processor.edit edit = .ok after) :
      Holds registry text (edits ++ [edit]) after
  | ran {edits : List Edit} {processor : Processor} (files : FileSystem) (chosen : Nat → Bool)
      (before : Holds registry text edits processor) :
      Holds registry text edits
        (Processor.runWith processor.runFile processor files chosen).processor
  | adjusted {edits : List Edit} {processor after : Processor}
      (before : Holds registry text edits processor)
      (registered : after.registry = processor.registry)
      (same : after.commands = processor.commands) : Holds registry text edits after

/-- Commands that are numbered by their places. -/
def CommandFile.IsNumbered (commands : List Command) : Prop :=
  ∀ (index : Nat) (command : Command), commands[index]? = some command → command.line = index + 1

/-- A command without the status of its last run. -/
def Command.withoutStatus (command : Command) : Command := { command with status := .fresh }

namespace CommandFile

variable {registry : Registry}

theorem line_readLenient (registry : Registry) (number : Nat) (line : List Char) :
    (readLenient registry number line).line = number := by
  simp only [readLenient]
  split
  · next command reads =>
      simp only [readLine] at reads
      split at reads
      · cases reads
        rfl
      · cases reads
        rfl
      · split at reads
        · cases reads
        · cases reads
          rfl
  · rfl

/-- The commands of lines are numbered on from the first number. -/
theorem line_of_readLines {inComment : Bool} {number : Nat} {lines : List (List Char)}
    {index : Nat} {command : Command}
    (here : (readLines registry inComment number lines)[index]? = some command) :
    command.line = number + index := by
  induction lines generalizing inComment number index with
  | nil => cases here
  | cons line rest ih =>
      have front {first : Command} {later : Bool} (numbered : first.line = number)
          (found : (first :: readLines registry later (number + 1) rest)[index]? = some command) :
          command.line = number + index := by
        cases index with
        | zero =>
            cases found
            exact numbered
        | succ index =>
            rw [ih found]
            omega
      simp only [readLines] at here
      split at here
      · exact front rfl here
      · split at here
        · exact front rfl here
        · exact front (line_readLenient registry number line) here

theorem isNumbered_read (registry : Registry) (text : String) :
    IsNumbered (read registry text) := by
  intro index command here
  rw [line_of_readLines here, Nat.add_comm]

theorem isNumbered_renumber (commands : List Command) :
    IsNumbered (Processor.renumber commands) := by
  intro index command here
  rw [Processor.renumber, List.getElem?_mapIdx] at here
  obtain ⟨before, -, rfl⟩ := Option.map_eq_some_iff.mp here
  rfl

theorem IsNumbered.set {commands : List Command} {index : Nat} {command changed : Command}
    (numbered : IsNumbered commands) (here : commands[index]? = some command)
    (same : changed.line = command.line) : IsNumbered (commands.set index changed) := by
  intro place other found
  rw [List.getElem?_set] at found
  split at found
  · next own =>
      subst own
      split at found
      · cases found
        rw [same]
        exact numbered index command here
      · cases found
  · exact numbered place other found

end CommandFile

namespace Processor

open CommandFile

variable {registry : Registry} {text : String} {edits : List Edit} {processor after : Processor}

theorem isNumbered_of_edit {edit : Edit} (numbered : IsNumbered processor.commands)
    (done : processor.edit edit = .ok after) : IsNumbered after.commands := by
  cases edit with
  | setParameter index name value =>
      obtain ⟨command, changed, here, changes, rfl⟩ := setParameter_eq_ok done
      apply numbered.set here
      simp only [Command.setParameter] at changes
      split at changes
      · cases changes
      · split at changes
        · cases changes
        · cases changes
          rfl
  | insert index text =>
      obtain ⟨command, -, rfl⟩ := insert_eq_ok done
      exact isNumbered_renumber _
  | remove index =>
      simp only [edit] at done
      cases removes : processor.remove index with
      | error error =>
          rw [removes] at done
          cases done
      | ok removed =>
          rw [removes] at done
          cases done
          rw [remove_eq_ok removes]
          exact isNumbered_renumber _

/-- A run changes nothing of a command but its status. -/
theorem getElem?_of_withRecords {commands : List Command} {plan : Run.Plan}
    {machine : Run.Machine} {index : Nat} {command : Command}
    (here : (withRecords commands plan machine)[index]? = some command) :
    ∃ before, commands[index]? = some before ∧
      command = { before with status := statusAt plan machine index } := by
  rw [withRecords, List.getElem?_mapIdx] at here
  obtain ⟨before, found, rfl⟩ := Option.map_eq_some_iff.mp here
  refine ⟨before, found, ?_⟩
  simp only [statusAt]
  cases plan.findIdx? fun planned => planned.index == index <;> rfl

theorem withoutStatus_withRecords (commands : List Command) (plan : Run.Plan)
    (machine : Run.Machine) :
    (withRecords commands plan machine).map Command.withoutStatus =
      commands.map Command.withoutStatus := by
  apply List.ext_getElem?
  intro index
  rw [List.getElem?_map, List.getElem?_map, withRecords, List.getElem?_mapIdx, Option.map_map]
  congr 1
  funext command
  simp only [Function.comp]
  cases plan.findIdx? fun planned => planned.index == index <;> rfl

namespace Holds

theorem of_loadFile {loaded : Processor} {files : FileSystem} {path : FilePath}
    (opens : processor.loadFile files path = .ok loaded) :
    ∃ text, readCommandFile files path = .ok text ∧
      loaded.Holds processor.registry text [] := by
  cases reads : readCommandFile files path with
  | error error =>
      rw [loadFile, reads] at opens
      cases opens
  | ok text =>
      rw [loadFile, reads] at opens
      cases opens
      exact ⟨text, rfl, .adjusted (.loaded processor rfl) rfl rfl⟩

theorem registry_eq (holds : Holds registry text edits processor) :
    processor.registry = registry := by
  induction holds with
  | loaded processor registered => exact registered
  | @edited edits processor after edit _ done ih =>
      have kept : after.registry = processor.registry ∧ ∀ command ∈ after.commands, True :=
        forall_mem_of_edit (fun _ _ _ => trivial) (fun _ _ _ _ _ _ => trivial)
          (fun _ _ _ _ => trivial) (fun _ _ => trivial) done
      exact kept.1.trans ih
  | ran files chosen _ ih => exact ih
  | adjusted _ registered _ ih => exact registered.trans ih

theorem origin (holds : Holds registry text edits processor) :
    ∀ command ∈ processor.commands, CommandFile.Origin registry command := by
  induction holds with
  | loaded processor registered =>
      subst registered
      exact fun command member => origin_of_mem_read member
  | edited edit before done ih =>
      have same := before.registry_eq
      subst same
      exact (forall_mem_of_edit (fun _ line origin => origin.numbered line)
        (fun _ _ _ _ origin changes => origin.setParameter changes)
        (fun _ _ _ held => origin_of_readNumbered held) ih done).2
  | ran files chosen _ ih =>
      intro command member
      obtain ⟨index, here⟩ := List.mem_iff_getElem?.mp member
      obtain ⟨before, found, rfl⟩ := getElem?_of_withRecords here
      exact (ih before (List.mem_of_getElem? found)).withStatus _
  | adjusted _ _ same ih =>
      rw [same]
      exact ih

theorem isNumbered (holds : Holds registry text edits processor) :
    IsNumbered processor.commands := by
  induction holds with
  | loaded processor registered => exact isNumbered_read processor.registry text
  | edited edit _ done ih => exact isNumbered_of_edit ih done
  | ran files chosen _ ih =>
      intro index command here
      obtain ⟨before, found, rfl⟩ := getElem?_of_withRecords here
      exact ih index before found
  | adjusted _ _ same ih =>
      rw [same]
      exact ih

/-- Without edits the commands are those of the text, apart from their statuses. -/
theorem withoutStatus_eq (holds : Holds registry text [] processor) :
    processor.commands.map Command.withoutStatus =
      (CommandFile.read registry text).map Command.withoutStatus := by
  generalize none : ([] : List Edit) = edits at holds
  induction holds with
  | loaded processor registered =>
      subst registered
      rfl
  | edited edit _ _ _ => exact absurd none.symm (List.append_ne_nil_of_right_ne_nil _ (by simp))
  | ran files chosen _ ih => exact (withoutStatus_withRecords _ _ _).trans (ih none)
  | adjusted _ _ same ih =>
      rw [same]
      exact ih none

end Holds

end Processor

end Workflow
