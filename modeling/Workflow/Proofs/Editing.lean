import Mathlib.Data.List.InsertIdx
import Workflow.Processor
import Workflow.Proofs.CommandFile.Regeneration

/-!
# Editing a command list

Setting a parameter, inserting a line and removing a command change single commands and their
places.  What an edit keeps is kept by every sequence of edits, and so every command of an edited
list is known from the registry and has an origin.
-/

namespace Workflow

/-- A change to a command list. -/
inductive Edit where
  | setParameter (index : Nat) (name value : String)
  | insert (index : Nat) (text : String)
  | remove (index : Nat)

namespace Processor

/-- The processor after an edit. -/
def edit (processor : Processor) : Edit → Except Error Processor
  | .setParameter index name value => processor.setParameter index name value
  | .insert index text => processor.insert index text
  | .remove index => (processor.remove index).map Prod.snd

/-- The processor after several edits, all of which succeed. -/
def editAll (processor : Processor) (edits : List Edit) : Except Error Processor :=
  edits.foldlM edit processor

variable {processor edited : Processor} {command : Command}

theorem getElem?_of_command {index : Nat} (found : processor.command index = .ok command) :
    processor.commands[index]? = some command := by
  simp only [Processor.command] at found
  split at found
  · next here =>
      cases found
      exact here
  · cases found

theorem setParameter_eq_ok {index : Nat} {name value : String}
    (done : processor.setParameter index name value = .ok edited) :
    ∃ command changed, processor.commands[index]? = some command ∧
      command.setParameter name value = .ok changed ∧
      edited = { processor with commands := processor.commands.set index changed } := by
  simp only [setParameter] at done
  cases found : processor.command index with
  | error error =>
      rw [found] at done
      cases done
  | ok command =>
      rw [found] at done
      cases changes : command.setParameter name value with
      | error error =>
          simp only [bind, Except.bind, changes] at done
          cases done
      | ok changed =>
          simp only [bind, Except.bind, changes] at done
          exact ⟨command, changed, getElem?_of_command found, changes, (Except.ok.inj done).symm⟩

theorem insert_eq_ok {index : Nat} {text : String}
    (done : processor.insert index text = .ok edited) :
    ∃ command, CommandFile.readNumbered processor.registry (index + 1) text = .ok command ∧
      edited =
        { processor with commands := renumber (processor.commands.insertIdx index command) } := by
  simp only [insert] at done
  split at done
  · cases done
  · cases read : CommandFile.readNumbered processor.registry (index + 1) text with
    | error error =>
        rw [read] at done
        cases done
    | ok command =>
        rw [read] at done
        exact ⟨command, rfl, (Except.ok.inj done).symm⟩

theorem remove_eq_ok {index : Nat} (done : processor.remove index = .ok (command, edited)) :
    edited = { processor with commands := renumber (processor.commands.eraseIdx index) } := by
  simp only [remove] at done
  cases found : processor.command index with
  | error error =>
      rw [found] at done
      cases done
  | ok command =>
      rw [found] at done
      cases done
      rfl

/-- An edit changes the command list and nothing else. -/
theorem exists_commands_of_edit {edit : Edit} (done : processor.edit edit = .ok edited) :
    ∃ commands, edited = { processor with commands } := by
  cases edit with
  | setParameter index name value =>
      obtain ⟨command, changed, -, -, same⟩ := setParameter_eq_ok done
      exact ⟨_, same⟩
  | insert index text =>
      obtain ⟨command, -, same⟩ := insert_eq_ok done
      exact ⟨_, same⟩
  | remove index =>
      simp only [Processor.edit] at done
      cases removes : processor.remove index with
      | error error =>
          rw [removes] at done
          cases done
      | ok removed =>
          rw [removes] at done
          cases done
          exact ⟨_, remove_eq_ok removes⟩

theorem forall_mem_renumber {property : Command → Prop}
    (numbered : ∀ command line, property command → property { command with line })
    {commands : List Command} (before : ∀ command ∈ commands, property command) :
    ∀ command ∈ renumber commands, property command := by
  intro command member
  obtain ⟨index, inside, rfl⟩ := List.mem_mapIdx.mp member
  exact numbered _ _ (before _ (List.getElem_mem inside))

/-- What holds of commands with any number, of commands with a parameter set and of inserted
lines is kept by an edit. -/
theorem forall_mem_of_edit {property : Command → Prop}
    (numbered : ∀ command line, property command → property { command with line })
    (changed : ∀ command name value after, property command →
      command.setParameter name value = .ok after → property after)
    (inserted : ∀ number text command,
      CommandFile.readNumbered processor.registry number text = .ok command → property command)
    (before : ∀ command ∈ processor.commands, property command) {edit : Edit}
    (done : processor.edit edit = .ok edited) :
    edited.registry = processor.registry ∧ ∀ command ∈ edited.commands, property command := by
  cases edit with
  | setParameter index name value =>
      obtain ⟨command, after, here, changes, rfl⟩ := setParameter_eq_ok done
      refine ⟨rfl, ?_⟩
      intro other member
      rcases List.mem_or_eq_of_mem_set member with kept | rfl
      · exact before other kept
      · exact changed command name value other (before command (List.mem_of_getElem? here)) changes
  | insert index text =>
      obtain ⟨command, read, rfl⟩ := insert_eq_ok done
      refine ⟨rfl, forall_mem_renumber numbered ?_⟩
      intro other member
      rcases List.eq_or_mem_of_mem_insertIdx member with rfl | kept
      · exact inserted _ _ other read
      · exact before other kept
  | remove index =>
      simp only [Processor.edit] at done
      cases removes : processor.remove index with
      | error error =>
          rw [removes] at done
          cases done
      | ok removed =>
          rw [removes] at done
          cases done
          rw [remove_eq_ok removes]
          refine ⟨rfl, forall_mem_renumber numbered ?_⟩
          intro other member
          exact before other (List.mem_of_mem_eraseIdx member)

theorem forall_mem_of_editAll {property : Registry → Command → Prop}
    (numbered : ∀ registry command line, property registry command →
      property registry { command with line })
    (changed : ∀ registry command name value after, property registry command →
      command.setParameter name value = .ok after → property registry after)
    (inserted : ∀ registry number text command,
      CommandFile.readNumbered registry number text = .ok command → property registry command)
    (before : ∀ command ∈ processor.commands, property processor.registry command)
    {edits : List Edit} (done : processor.editAll edits = .ok edited) :
    ∀ command ∈ edited.commands, property edited.registry command := by
  induction edits generalizing processor with
  | nil =>
      cases done
      exact before
  | cons edit rest ih =>
      rw [editAll, List.foldlM_cons] at done
      cases first : processor.edit edit with
      | error error =>
          rw [first] at done
          cases done
      | ok next =>
          rw [first] at done
          obtain ⟨same, after⟩ :=
            forall_mem_of_edit (numbered _) (changed _) (inserted _) before first
          exact ih (by rwa [same]) done

/-- The commands of an edited text are known from the registry. -/
theorem recognizedBy_of_editAll {text : String} {edits : List Edit}
    (done : (processor.loadText text).editAll edits = .ok edited) :
    ∀ command ∈ edited.commands, command.RecognizedBy edited.registry := by
  refine forall_mem_of_editAll ?_ ?_ ?_ ?_ done
  · intro registry command line recognized
    exact recognized
  · intro registry command name value after recognized changes
    simp only [Command.setParameter] at changes
    split at changes
    · cases changes
    · split at changes
      · cases changes
      · cases changes
        exact recognized
  · intro registry number text command held
    exact CommandFile.recognizedBy_of_readLine (CommandFile.readLine_eq_of_readNumbered held)
  · intro command member
    exact CommandFile.recognizedBy_of_mem_read member

theorem origin_of_editAll {text : String} {edits : List Edit}
    (done : (processor.loadText text).editAll edits = .ok edited) :
    ∀ command ∈ edited.commands, CommandFile.Origin edited.registry command := by
  refine forall_mem_of_editAll ?_ ?_ ?_ ?_ done
  · intro registry command line origin
    exact origin.numbered line
  · intro registry command name value after origin changes
    exact origin.setParameter changes
  · intro registry number text command held
    exact CommandFile.origin_of_readNumbered held
  · intro command member
    exact CommandFile.origin_of_mem_read member

/-- An edited text is read back from the text of the processor exactly when the edited list is
representable. -/
theorem read_render_iff_representable {text : String} {edits : List Edit}
    (done : (processor.loadText text).editAll edits = .ok edited) :
    List.Forall₂ Command.Same (CommandFile.read edited.registry edited.render) edited.commands ↔
      CommandFile.Representable edited.commands :=
  CommandFile.forall₂_read_render_iff (origin_of_editAll done)

/-- A processor without registered commands. -/
def bare : Processor := create .empty {} (.empty [] "/") 0

/-- A line is removed from a block comment, one is inserted behind it, and a value is set. -/
def tidyEdits : List Edit :=
  [.remove 1, .insert 2 "# next", .setParameter 3 "Text" "b, c"]

theorem read_render_iff_representable_tidy :
    ∃ edited, (bare.loadText "/*\nOld(A=1)\n*/\nWait(Text=a)").editAll tidyEdits = .ok edited ∧
      List.Forall₂ Command.Same (CommandFile.read edited.registry edited.render)
        edited.commands := by
  have tidy : (match (bare.loadText "/*\nOld(A=1)\n*/\nWait(Text=a)").editAll tidyEdits with
      | .ok edited => decide (CommandFile.Representable edited.commands)
      | .error _ => false) = true := by
    decide +kernel
  cases done : (bare.loadText "/*\nOld(A=1)\n*/\nWait(Text=a)").editAll tidyEdits with
  | error error =>
      rw [done] at tidy
      cases tidy
  | ok edited =>
      rw [done] at tidy
      exact ⟨edited, rfl, (read_render_iff_representable done).mpr (of_decide_eq_true tidy)⟩

/-- A value with a line feed is accepted but cannot be read back. -/
theorem lineFeed_not_read_back :
    ∃ edited, (bare.loadText "Wait(Text=a)").editAll [.setParameter 0 "Text" "a\nb"] =
        .ok edited ∧
      ¬ List.Forall₂ Command.Same (CommandFile.read edited.registry edited.render)
        edited.commands := by
  have broken : (match (bare.loadText "Wait(Text=a)").editAll [.setParameter 0 "Text" "a\nb"] with
      | .ok edited => decide (CommandFile.Representable edited.commands)
      | .error _ => true) = false := by
    decide +kernel
  cases done : (bare.loadText "Wait(Text=a)").editAll [.setParameter 0 "Text" "a\nb"] with
  | error error =>
      rw [done] at broken
      cases broken
  | ok edited =>
      rw [done] at broken
      refine ⟨edited, rfl, ?_⟩
      intro same
      exact of_decide_eq_false broken
        ((CommandFile.forall₂_read_render_iff (origin_of_editAll done)).mp same)

end Processor

end Workflow
