import Workflow.Proofs.Sessions

/-!
# Operations in place

A processor may be worked on in place: the operations change it step by step, and where an error
ends an operation, the steps before it have been taken.  Every operation makes all of its checks
before its first step, so a failed one leaves the processor as it was, and the others do what the
operations on values do.  Whatever is done, the commands stay numbered by their places, and to
remove an inserted command undoes its insertion.
-/

namespace Workflow

/-- An operation on a processor. -/
inductive Operation where
  | loadText (text : String)
  | loadFile (files : FileSystem) (path : FilePath)
  | setParameter (index : Nat) (name value : String)
  | insert (index : Nat) (text : String)
  | remove (index : Nat)
  | runAll (files : FileSystem)
  | runSelected (files : FileSystem) (indices : List Nat)

/-- What an operation answers. -/
inductive Answer where
  | done
  | removed (command : Command)
  | ran (files : FileSystem) (result : RunResult)

namespace Processor

/-- Changes to a processor, one after the other.  An error leaves the changes before it. -/
abbrev InPlace := EStateM Error Processor

namespace InPlace

/-- An error if a condition holds. -/
def refuse (condition : Prop) [Decidable condition] (error : Error) : InPlace Unit :=
  if condition then throw error else pure ()

def modifyCommands (change : List Command → List Command) : InPlace Unit :=
  modify fun processor => { processor with commands := change processor.commands }

def loadText (text : String) : InPlace Unit := do
  let registry := (← get).registry
  modifyCommands fun _ => CommandFile.read registry text
  modify fun processor => { processor with state := .ready }

def loadFile (files : FileSystem) (path : FilePath) : InPlace Unit := do
  let text ← ofExcept (readCommandFile files path)
  loadText text
  modify fun processor =>
    processor.setProperty Workspace.workingFolderName (.path path.folder)
  modify fun processor => { processor with commandFile := some path }

def setParameter (index : Nat) (name value : String) : InPlace Unit := do
  let command ← ofExcept ((← get).command index)
  refuse (command.isEditable = false) command.notEditable
  refuse (value.toList.contains '"') (.obstacle (.quoteInValue name))
  modifyCommands fun commands => commands.modify index fun command =>
    { command with parameters := command.parameters.insert name value }
  modifyCommands fun commands => commands.modify index fun command =>
    { command with modified := true }

def insert (index : Nat) (text : String) : InPlace Unit := do
  refuse ((← get).commands.length < index) (.noCommandAt index)
  let command ← ofExcept (CommandFile.readNumbered (← get).registry (index + 1) text)
  modifyCommands fun commands => commands.insertIdx index command
  modifyCommands renumber

def remove (index : Nat) : InPlace Command := do
  let command ← ofExcept ((← get).command index)
  modifyCommands fun commands => commands.eraseIdx index
  modifyCommands renumber
  return command

def runBy (runs : Processor → Run) : InPlace Answer := do
  let run := runs (← get)
  set run.processor
  return .ran run.files run.result

/-- An operation, in place. -/
def perform : Operation → InPlace Answer
  | .loadText text => do loadText text; return .done
  | .loadFile files path => do loadFile files path; return .done
  | .setParameter index name value => do setParameter index name value; return .done
  | .insert index text => do insert index text; return .done
  | .remove index => do return .removed (← remove index)
  | .runAll files => runBy fun processor => processor.runAll files
  | .runSelected files indices => runBy fun processor => processor.runSelected files indices

end InPlace

open CommandFile

/-- The answer of an operation, and the processor after it. -/
def operate (processor : Processor) : Operation → Except Error (Answer × Processor)
  | .loadText text => .ok (.done, processor.loadText text)
  | .loadFile files path => (processor.loadFile files path).map fun after => (.done, after)
  | .setParameter index name value =>
      (processor.setParameter index name value).map fun after => (.done, after)
  | .insert index text => (processor.insert index text).map fun after => (.done, after)
  | .remove index =>
      (processor.remove index).map fun removed => (.removed removed.1, removed.2)
  | .runAll files =>
      let run := processor.runAll files
      .ok (.ran run.files run.result, run.processor)
  | .runSelected files indices =>
      let run := processor.runSelected files indices
      .ok (.ran run.files run.result, run.processor)

/-- The result in place of an operation on values: an error leaves the processor as it was. -/
def settled (before : Processor) :
    Except Error (Answer × Processor) → EStateM.Result Error Processor Answer
  | .ok (answer, after) => .ok answer after
  | .error error => .error error before

/-- The processor that is left, whether there is an error or not. -/
def remaining : EStateM.Result Error Processor Answer → Processor
  | .ok _ after => after
  | .error _ after => after

/-- The processor after operations of which some may have failed. -/
def after (processor : Processor) (operations : List Operation) : Processor :=
  operations.foldl
    (fun processor operation => remaining ((InPlace.perform operation).run processor)) processor

/-! ## Operations in place and on values -/

section

variable {index : Nat}

theorem run_get_bind {α : Type} (next : Processor → InPlace α) (processor : Processor) :
    EStateM.run (get >>= next) processor = EStateM.run (next processor) processor := rfl

theorem run_ok_bind {α β : Type} (value : α) (next : α → InPlace β) (processor : Processor) :
    EStateM.run (ofExcept (.ok value : Except Error α) >>= next) processor =
      EStateM.run (next value) processor := rfl

/-- A step that refuses to go on leaves the processor as it is. -/
theorem run_refuse_bind {α : Type} (condition : Prop) [Decidable condition] (error : Error)
    (next : Unit → InPlace α) (processor : Processor) :
    EStateM.run (InPlace.refuse condition error >>= next) processor =
      if condition then .error error processor else EStateM.run (next ()) processor := by
  by_cases refused : condition
  · rw [InPlace.refuse, if_pos refused, if_pos refused]
    rfl
  · rw [InPlace.refuse, if_neg refused, if_neg refused]
    rfl

theorem run_perform_loadFile (processor : Processor) (files : FileSystem) (path : FilePath) :
    (InPlace.perform (.loadFile files path)).run processor =
      processor.settled (processor.operate (.loadFile files path)) := by
  simp only [InPlace.perform, InPlace.loadFile, operate, Processor.loadFile]
  cases readCommandFile files path with
  | error error => rfl
  | ok text => rfl

theorem modify_modify_eq_set {commands : List Command} {command : Command}
    (here : commands[index]? = some command) (first second : Command → Command) :
    (commands.modify index first).modify index second =
      commands.set index (second (first command)) := by
  rw [List.modify_modify_eq, List.modify_eq_set_getElem?, here]
  rfl

theorem run_perform_setParameter (processor : Processor) (index : Nat) (name value : String) :
    (InPlace.perform (.setParameter index name value)).run processor =
      processor.settled (processor.operate (.setParameter index name value)) := by
  simp only [operate, Processor.setParameter, InPlace.perform, InPlace.setParameter, bind_assoc,
    run_get_bind]
  cases found : processor.command index with
  | error error => rfl
  | ok command =>
      simp only [run_ok_bind, run_refuse_bind]
      show _ = processor.settled (Except.map _ (command.setParameter name value >>= fun _ => _))
      rw [Command.setParameter]
      by_cases fixed : command.isEditable = false
      · rw [if_pos fixed, if_pos fixed]
        rfl
      · rw [if_neg fixed, if_neg fixed]
        by_cases quoted : value.toList.contains '"' = true
        · rw [if_pos quoted, if_pos quoted]
          rfl
        · rw [if_neg quoted, if_neg quoted]
          exact congrArg (fun commands => EStateM.Result.ok Answer.done { processor with commands })
            (modify_modify_eq_set (getElem?_of_command found) _ _)

theorem run_perform_insert (processor : Processor) (index : Nat) (text : String) :
    (InPlace.perform (.insert index text)).run processor =
      processor.settled (processor.operate (.insert index text)) := by
  simp only [operate, Processor.insert, InPlace.perform, InPlace.insert, bind_assoc, run_get_bind,
    run_refuse_bind]
  by_cases outside : processor.commands.length < index
  · rw [if_pos outside, if_pos outside]
    rfl
  · rw [if_neg outside, if_neg outside]
    cases readNumbered processor.registry (index + 1) text with
    | error error => rfl
    | ok command => rfl

theorem run_perform_remove (processor : Processor) (index : Nat) :
    (InPlace.perform (.remove index)).run processor =
      processor.settled (processor.operate (.remove index)) := by
  simp only [operate, Processor.remove, InPlace.perform, InPlace.remove, bind_assoc, run_get_bind]
  cases processor.command index with
  | error error => rfl
  | ok command => rfl

/-- An operation in place does what the operation on values does, and a failed one leaves the
processor as it was. -/
theorem run_perform (operation : Operation) (processor : Processor) :
    (InPlace.perform operation).run processor =
      processor.settled (processor.operate operation) := by
  cases operation with
  | loadText text => rfl
  | loadFile files path => exact run_perform_loadFile processor files path
  | setParameter index name value => exact run_perform_setParameter processor index name value
  | insert index text => exact run_perform_insert processor index text
  | remove index => exact run_perform_remove processor index
  | runAll files => rfl
  | runSelected files indices => rfl

variable {processor edited : Processor} {answer : Answer} {operation : Operation}

theorem run_perform_eq_ok_iff :
    (InPlace.perform operation).run processor = .ok answer edited ↔
      processor.operate operation = .ok (answer, edited) := by
  rw [run_perform]
  cases processor.operate operation with
  | error error => exact ⟨nofun, nofun⟩
  | ok result =>
      constructor
      · intro same
        cases same
        rfl
      · intro same
        cases same
        rfl

/-- What a failed operation leaves is what was there before. -/
theorem eq_of_run_perform_eq_error {error : Error}
    (fails : (InPlace.perform operation).run processor = .error error edited) :
    edited = processor := by
  rw [run_perform] at fails
  cases done : processor.operate operation with
  | error other =>
      rw [done] at fails
      cases fails
      rfl
  | ok result =>
      rw [done] at fails
      cases fails

end

/-! ## The numbers of the commands -/

section

variable {processor edited : Processor} {answer : Answer} {operation : Operation}

theorem exists_of_map_eq_ok {α β : Type} {change : α → β} {done : Except Error α} {result : β}
    (maps : done.map change = .ok result) : ∃ value, done = .ok value ∧ change value = result := by
  cases done with
  | error error => cases maps
  | ok value => exact ⟨value, rfl, Except.ok.inj maps⟩

theorem isNumbered_runWith (runFile : Action) (files : FileSystem) (chosen : Nat → Bool)
    (numbered : IsNumbered processor.commands) :
    IsNumbered (runWith runFile processor files chosen).processor.commands := by
  intro index command here
  obtain ⟨before, found, rfl⟩ := getElem?_of_withRecords here
  exact numbered index before found

theorem isNumbered_of_operate (numbered : IsNumbered processor.commands)
    (done : processor.operate operation = .ok (answer, edited)) : IsNumbered edited.commands := by
  cases operation with
  | loadText text =>
      cases done
      exact isNumbered_read processor.registry text
  | loadFile files path =>
      obtain ⟨loaded, opens, same⟩ := exists_of_map_eq_ok done
      cases same
      obtain ⟨text, -, holds⟩ := Holds.of_loadFile opens
      exact holds.isNumbered
  | setParameter index name value =>
      obtain ⟨changed, changes, same⟩ := exists_of_map_eq_ok done
      cases same
      have edits : processor.edit (.setParameter index name value) = .ok edited := changes
      exact isNumbered_of_edit numbered edits
  | insert index text =>
      obtain ⟨changed, changes, same⟩ := exists_of_map_eq_ok done
      cases same
      have edits : processor.edit (.insert index text) = .ok edited := changes
      exact isNumbered_of_edit numbered edits
  | remove index =>
      obtain ⟨removed, removes, same⟩ := exists_of_map_eq_ok done
      cases same
      rw [remove_eq_ok removes]
      exact isNumbered_renumber _
  | runAll files =>
      cases done
      exact isNumbered_runWith _ files _ numbered
  | runSelected files indices =>
      cases done
      exact isNumbered_runWith _ files _ numbered

/-- Whether it fails or not, an operation in place leaves every command numbered by its place. -/
theorem isNumbered_after (numbered : IsNumbered processor.commands)
    (operations : List Operation) : IsNumbered (processor.after operations).commands := by
  induction operations generalizing processor with
  | nil => exact numbered
  | cons operation rest ih =>
      apply ih
      show IsNumbered (remaining ((InPlace.perform operation).run processor)).commands
      rw [run_perform]
      cases done : processor.operate operation with
      | error error => exact numbered
      | ok result => exact isNumbered_of_operate numbered done

end

/-! ## Inserting and removing -/

section

variable {processor edited : Processor} {index : Nat} {text : String} {command : Command}

theorem line_of_readNumbered {registry : Registry} {number : Nat}
    (held : readNumbered registry number text = .ok command) : command.line = number := by
  have reads := readLine_eq_of_readNumbered held
  have alone : readLenient registry number text.toList = command := by rw [readLenient, reads]
  rw [← alone]
  exact line_readLenient registry number text.toList

theorem renumber_eq_self {commands : List Command} (numbered : IsNumbered commands) :
    renumber commands = commands := by
  apply List.ext_getElem?
  intro index
  rw [renumber, List.getElem?_mapIdx]
  cases here : commands[index]? with
  | none => rfl
  | some command =>
      rw [Option.map_some, ← numbered index command here]

/-- The numbers before a removal do not matter. -/
theorem renumber_eraseIdx_renumber (commands : List Command) (index : Nat) :
    renumber ((renumber commands).eraseIdx index) = renumber (commands.eraseIdx index) := by
  apply List.ext_getElem?
  intro place
  simp only [renumber, List.getElem?_mapIdx, List.getElem?_eraseIdx]
  split
  · cases commands[place]? <;> rfl
  · cases commands[place + 1]? <;> rfl

/-- The inserted command stands at its index, and removing it gives back the list. -/
theorem remove_of_insert (numbered : IsNumbered processor.commands)
    (done : processor.insert index text = .ok edited) :
    ∃ command, readNumbered processor.registry (index + 1) text = .ok command ∧
      edited.commands[index]? = some command ∧
      edited.remove index = .ok (command, processor) := by
  have inside : index ≤ processor.commands.length := by
    by_contra outside
    rw [Processor.insert, if_pos (Nat.lt_of_not_le outside)] at done
    cases done
  obtain ⟨command, read, rfl⟩ := insert_eq_ok done
  have stands : (renumber (processor.commands.insertIdx index command))[index]? =
      some command := by
    rw [renumber, List.getElem?_mapIdx, List.getElem?_insertIdx_self, if_pos inside,
      Option.map_some, ← line_of_readNumbered read]
  refine ⟨command, read, stands, ?_⟩
  simp only [Processor.remove, Processor.command, stands]
  rw [renumber_eraseIdx_renumber, List.eraseIdx_insertIdx_self, renumber_eq_self numbered]
  rfl

/-- Whatever operations a processor has gone through, successful ones and failed ones, its
commands are numbered by their places.  Another operation that fails leaves it as it was, and one
that succeeds does what the operation on values does.  An inserted command can be removed again:
it is the command that the text holds, and what is left is the processor before the insertion. -/
theorem operations_keep_order (registry : Registry) (configuration : Configuration)
    (files : FileSystem) (depth : Nat) (operations : List Operation) :
    let processor := (create registry configuration files depth).after operations
    IsNumbered processor.commands ∧
    (∀ operation error after,
      (InPlace.perform operation).run processor = .error error after → after = processor) ∧
    (∀ operation answer after,
      (InPlace.perform operation).run processor = .ok answer after ↔
        processor.operate operation = .ok (answer, after)) ∧
    (∀ index text answer after,
      (InPlace.perform (.insert index text)).run processor = .ok answer after →
        ∃ command, readNumbered processor.registry (index + 1) text = .ok command ∧
          after.commands[index]? = some command ∧
          (InPlace.perform (.remove index)).run after = .ok (.removed command) processor) := by
  intro processor
  have numbered : IsNumbered processor.commands := by
    apply isNumbered_after
    intro index command here
    cases here
  refine ⟨numbered, ?_, ?_, ?_⟩
  · intro operation error after fails
    exact eq_of_run_perform_eq_error fails
  · intro operation answer after
    exact run_perform_eq_ok_iff
  · intro index text answer after inserts
    obtain ⟨edited, done, same⟩ := exists_of_map_eq_ok (run_perform_eq_ok_iff.mp inserts)
    cases same
    obtain ⟨command, read, stands, removes⟩ := remove_of_insert numbered done
    refine ⟨command, read, stands, run_perform_eq_ok_iff.mpr ?_⟩
    rw [operate, removes]
    rfl

/-- Two commands are loaded, a parameter is set, and two edits behind the end fail. -/
def reworking : List Operation :=
  [.loadText "Message(Message=a)\nExit()", .setParameter 0 "Message" "b",
    .setParameter 7 "Message" "c", .remove 5]

def reworked : Processor :=
  (create Builtin.registry {} (.empty [] "/") 0).after reworking

theorem operations_keep_order_reworked :
    reworked.commands.map Command.render = ["Message(Message=\"b\")", "Exit()"] ∧
    (∃ error, (InPlace.perform (.insert 3 "Exit()")).run reworked = .error error reworked) ∧
    ∃ answer after command, (InPlace.perform (.insert 1 "# then")).run reworked = .ok answer after ∧
      after.commands[1]? = some command ∧
      (InPlace.perform (.remove 1)).run after = .ok (.removed command) reworked := by
  obtain ⟨-, unchanged, -, restores⟩ :=
    operations_keep_order Builtin.registry {} (.empty [] "/") 0 reworking
  refine ⟨by decide +kernel, ?_, ?_⟩
  · have fails : (match (InPlace.perform (.insert 3 "Exit()")).run reworked with
        | .ok _ _ => false
        | .error _ _ => true) = true := by
      decide +kernel
    cases performs : (InPlace.perform (.insert 3 "Exit()")).run reworked with
    | ok answer after =>
        rw [performs] at fails
        cases fails
    | error error after =>
        rw [unchanged _ error after performs]
        exact ⟨error, rfl⟩
  · have succeeds : (match (InPlace.perform (.insert 1 "# then")).run reworked with
        | .ok _ _ => true
        | .error _ _ => false) = true := by
      decide +kernel
    cases performs : (InPlace.perform (.insert 1 "# then")).run reworked with
    | ok answer after =>
        obtain ⟨command, -, stands, removes⟩ := restores 1 "# then" answer after performs
        exact ⟨answer, after, command, rfl, stands, removes⟩
    | error error after =>
        rw [performs] at succeeds
        cases succeeds

end

end Processor

end Workflow
